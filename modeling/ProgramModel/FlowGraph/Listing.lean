import ProgramModel.FlowGraph.Basic

/-!
Listings of graphs: each procedure with its nodes below it, each node with the ids of
its neighbours and its instructions. The lines are made of what documents have, ids
and bodies; a graph only brings them into order.
-/

namespace ProgramModel

namespace Listing

/-- One id more behind a text, after a space unless it is the one at the front. -/
def addId (text : String) (entry : WireId × Nat) : String :=
  (if 0 < entry.2 then text ++ " " else text) ++ toString entry.1

/-- Ids in a row, written one after another. -/
def ids (ids : List WireId) : String := ids.zipIdx.foldl addId ""

def procedureLine (a : Attributes) : String :=
  "procedure " ++ a.name.text ++ " [" ++ a.location.text ++ "]\n"

def instrLine (i : Instr) : String := "      " ++ i.text ++ ";\n"

/-- The lines of a node. Exceptional successors are left out when there are none. -/
def nodeLines (id : WireId) (body : NodeBody) (succs preds exceptional : List WireId) : String :=
  "  #" ++ toString id ++ " " ++ body.kind.text ++ "  succs: " ++ ids succs ++
    "  preds: " ++ ids preds ++
    (if exceptional.isEmpty then "" else "  exn: " ++ ids exceptional) ++ "\n" ++
    String.join (body.instrs.map instrLine)

end Listing

namespace FlowGraph

/-- The ids of the nodes at some places, if there is one at each of them. -/
def idsAt? (g : FlowGraph) (refs : List NodeRef) : Option (List WireId) :=
  (g.nodesAt? refs).map fun nodes => nodes.map (·.id)

def nodeListing? (g : FlowGraph) (n : Node) : Option String := do
  let succs ← g.idsAt? n.succs
  let preds ← g.idsAt? n.preds
  let exceptional ← g.idsAt? n.exceptional
  return Listing.nodeLines n.id n.body succs preds exceptional

def procedureListing? (g : FlowGraph) (p : Procedure) : Option String := do
  let nodes ← g.nodesAt? p.nodes
  return Listing.procedureLine p.attributes ++ String.join (← nodes.mapM g.nodeListing?)

/-- The listing of a graph in which all references lead to entries. -/
def listing? (g : FlowGraph) : Option String := do
  return String.join (← g.procedures.toList.mapM g.procedureListing?)

end FlowGraph
end ProgramModel
