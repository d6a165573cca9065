import ProgramModel.Document
import ProgramModel.FlowGraph.Agreement
import ProgramModel.FlowGraph.Link
import ProgramModel.TypeTable.Wire

/-!
Compilation units: the types and the control-flow graph of one unit of a program,
loaded from a document each. The types come first, also when both have a fault; of two
files, both have to be texts before either is looked into.
-/

namespace ProgramModel

structure CompilationUnit where
  types : TypeTable
  graph : FlowGraph
  deriving DecidableEq

namespace CompilationUnit

def load (o : Options) (types graph : String) : Except Fault CompilationUnit := do
  let types ← (Reading.typeTable (← Document.ofText types)).answer o
  let graph ← (Reading.flowGraph (← Document.ofText graph)).answer o
  return { types, graph }

/-- Loads a unit from the files at two paths, where `fetch` gives the bytes at a path. -/
def loadFiles (o : Options) (fetch : String → Except FileFault ByteArray)
    (typesPath graphPath : String) : Except Fault CompilationUnit := do
  let types ← Document.fetchText fetch typesPath
  let graph ← Document.fetchText fetch graphPath
  load o types graph

/-- Equality of units, with float constants compared as numbers. -/
def agrees (u w : CompilationUnit) : Bool :=
  decide (u.types = w.types) && u.graph.agrees w.graph

end CompilationUnit
end ProgramModel
