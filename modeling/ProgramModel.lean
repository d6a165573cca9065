import ProgramModel.CompilationUnit
import ProgramModel.Constituent
import ProgramModel.Depth
import ProgramModel.FlowGraph.Lookup
import ProgramModel.FlowGraph.Walk
import ProgramModel.Folder
import ProgramModel.Options.Reader
import ProgramModel.Proofs.FlowGraph.Acceptance
import ProgramModel.Proofs.FlowGraph.Agreement
import ProgramModel.Proofs.FlowGraph.Independence
import ProgramModel.Proofs.FlowGraph.LoopHeads
import ProgramModel.Proofs.FlowGraph.Ordering
import ProgramModel.Proofs.FlowGraph.Refusal
import ProgramModel.Proofs.FlowGraph.Renumbering
import ProgramModel.Proofs.FlowGraph.Reordering
import ProgramModel.Proofs.Session.Balance
import ProgramModel.Proofs.Session.Headroom
import ProgramModel.Proofs.Session.Soundness
import ProgramModel.Proofs.Session.Threshold
import ProgramModel.Proofs.TypeName.Joining
import ProgramModel.Proofs.TypeName.Spelling
import ProgramModel.Proofs.TypeTable.Ancestry
import ProgramModel.Proofs.TypeTable.History
import ProgramModel.Proofs.TypeTable.Merging
import ProgramModel.Proofs.Wire.Normalization
import ProgramModel.Proofs.Wire.RoundTrip
import ProgramModel.Proofs.FlowGraph.RecursiveOrder
import ProgramModel.Proofs.FlowGraph.Lookup
import ProgramModel.Proofs.FlowGraph.Listing
import ProgramModel.Proofs.Json.Numeral
import ProgramModel.Proofs.Wire.WideInt
import ProgramModel.Proofs.FlowGraph.Steps
import ProgramModel.Proofs.TypeTable.Levels
