import ProgramModel.Attributes
import ProgramModel.Bounded
import ProgramModel.NodeKind

/-!
Control-flow graphs. A graph holds its procedures and nodes in two tables; they refer
to each other by their places in the tables, so that cycles need nothing special. A
reference that leads out of its table gives no entry.
-/

namespace ProgramModel

/-- The place of a procedure in a graph. -/
structure ProcRef where
  index : Nat
  deriving DecidableEq, Repr

/-- The place of a node in a graph. -/
structure NodeRef where
  index : Nat
  deriving DecidableEq, Repr

/-- What a node holds besides its links. -/
structure NodeBody where
  kind : NodeKind
  location : Location
  instrs : List Instr
  /-- The temporaries that the node introduces. -/
  temporaries : List (Temporary × Ty)
  deadBefore : List Variable
  deadAfter : List Variable
  deriving DecidableEq, Repr

structure Node where
  ref : NodeRef
  /-- The id in the document. -/
  id : WireId
  body : NodeBody
  owner : ProcRef
  succs : List NodeRef
  preds : List NodeRef
  /-- Successors when an exception is raised. -/
  exceptional : List NodeRef
  deriving DecidableEq, Repr

/-- Where control may go from a node, the normal successors first. -/
def Node.targets (n : Node) : List NodeRef := n.succs ++ n.exceptional

structure Procedure where
  ref : ProcRef
  /-- The id in the document. -/
  id : WireId
  attributes : Attributes
  start : NodeRef
  exit : NodeRef
  /-- The nodes that the procedure owns. -/
  nodes : List NodeRef
  deriving DecidableEq, Repr

def Procedure.name (p : Procedure) : ProcName := p.attributes.name

structure FlowGraph where
  procedures : Array Procedure
  nodes : Array Node
  deriving DecidableEq, Repr

namespace FlowGraph

/-- A graph without procedures counts as empty. -/
def isEmpty (g : FlowGraph) : Bool := g.procedures.isEmpty

def procedure? (g : FlowGraph) (p : ProcRef) : Option Procedure := g.procedures[p.index]?

def node? (g : FlowGraph) (n : NodeRef) : Option Node := g.nodes[n.index]?

/-- The nodes at some places, if there is one at each of them. -/
def nodesAt? (g : FlowGraph) (refs : List NodeRef) : Option (List Node) := refs.mapM g.node?

def nodesOf? (g : FlowGraph) (p : ProcRef) : Option (List Node) := do
  g.nodesAt? (← g.procedure? p).nodes

def successors? (g : FlowGraph) (n : NodeRef) : Option (List Node) := do
  g.nodesAt? (← g.node? n).succs

def predecessors? (g : FlowGraph) (n : NodeRef) : Option (List Node) := do
  g.nodesAt? (← g.node? n).preds

end FlowGraph
end ProgramModel
