import ProgramModel.FlowGraph.Basic
import ProgramModel.Traversal.DepthFirst

/-!
Walks through a graph. The walk of a procedure begins at its start node and follows
normal and exceptional edges, into other procedures too. A loop head is a node that a
predecessor comes after, or is, in the reverse postorder of the node's procedure.
-/

namespace ProgramModel.FlowGraph

/-- Where control may go from a place; from a place outside the graph, nowhere. -/
def targets (g : FlowGraph) (n : NodeRef) : List NodeRef :=
  match g.node? n with
  | some node => node.targets
  | none => []

/-- More steps than a walk can have: one for each edge, each node and the start. -/
def walkBound (g : FlowGraph) : Nat :=
  g.nodes.toList.foldr (fun n steps => n.targets.length + 1 + steps) 0 + 1

/-- The nodes that a walk from a place reaches, in reverse postorder. -/
def orderFrom (g : FlowGraph) (n : NodeRef) : List NodeRef :=
  Traversal.reversePostorder g.targets g.walkBound n

/-- The nodes that control in a procedure reaches, in reverse postorder. -/
def reversePostorder? (g : FlowGraph) (p : ProcRef) : Option (List NodeRef) :=
  (g.procedure? p).map fun procedure => g.orderFrom procedure.start

/-- Whether some node of a list stands at a position or after it in an order. -/
def reachesBack (order : List NodeRef) (position : Nat) (preds : List NodeRef) : Bool :=
  preds.any fun p => (order.idxOf? p).any (position ≤ ·)

def isLoopHead? (g : FlowGraph) (n : NodeRef) : Option Bool := do
  let node ← g.node? n
  let order ← g.reversePostorder? node.owner
  match order.idxOf? n with
  | some position => return reachesBack order position node.preds
  | none => return false

end ProgramModel.FlowGraph
