import ProgramModel.FlowGraph.Record

/-!
Linking. The entries of a graph are those of two rosters, in the same order, and each
id in a record becomes the place of the record that has it. The first id without a
record is the fault, procedures coming before nodes and both by ascending id.
-/

namespace ProgramModel

namespace FlowGraph

/-- The place of the node with an id. -/
def resolveNode (nodes : Roster NodeRecord) (referrer : Referrer) (id : WireId) :
    Except Fault NodeRef :=
  match nodes.rank? id with
  | some i => .ok ⟨i⟩
  | none => .error (.unresolvedReference .node id referrer)

/-- The place of the procedure with an id. -/
def resolveProcedure (procedures : Roster ProcRecord) (referrer : Referrer) (id : WireId) :
    Except Fault ProcRef :=
  match procedures.rank? id with
  | some i => .ok ⟨i⟩
  | none => .error (.unresolvedReference .procedure id referrer)

/-- A procedure at a place, which owns no nodes yet. -/
def linkProcedure (nodes : Roster NodeRecord) (e : WireId × ProcRecord) (place : Nat) :
    Except Fault Procedure := do
  let (id, record) := e
  let start ← resolveNode nodes (.startOf id) record.start
  let exit ← resolveNode nodes (.exitOf id) record.exit
  return { ref := ⟨place⟩, id, attributes := record.attributes, start, exit, nodes := [] }

def linkNode (procedures : Roster ProcRecord) (nodes : Roster NodeRecord)
    (e : WireId × NodeRecord) (place : Nat) : Except Fault Node := do
  let (id, record) := e
  let owner ← resolveProcedure procedures (.ownerOf id) record.owner
  let succs ← record.succs.mapM (resolveNode nodes (.successorsOf id))
  let preds ← record.preds.mapM (resolveNode nodes (.predecessorsOf id))
  let exceptional ← record.exceptional.mapM (resolveNode nodes (.exceptionalOf id))
  return { ref := ⟨place⟩, id, body := record.body, owner, succs, preds, exceptional }

/-- The procedure with all the nodes that name it as their owner. -/
def adopt (nodes : List Node) (p : Procedure) : Procedure :=
  { p with nodes := (nodes.filter fun n => n.owner = p.ref).map (·.ref) }

def ofRosters (procedures : Roster ProcRecord) (nodes : Roster NodeRecord) :
    Except Fault FlowGraph := do
  let linked ← procedures.entries.zipIdx.mapM fun (e, i) => linkProcedure nodes e i
  let linkedNodes ← nodes.entries.zipIdx.mapM fun (e, i) => linkNode procedures nodes e i
  return ⟨(linked.map (adopt linkedNodes)).toArray, linkedNodes.toArray⟩

end FlowGraph

/-- A graph as a document has it: a list of procedures and a list of nodes, in any
order. All procedures are read before the first node. -/
def Reading.flowGraph (v : Json) : Reading FlowGraph := do
  let procedures ← items (← field v "procs" "CFG document") "CFG document"
  let nodes ← items (← field v "nodes" "CFG document") "CFG document"
  let procedures ← register .procedure procRecord .empty procedures
  let nodes ← register .node (nodeRecord procedures.contains) .empty nodes
  ofExcept (FlowGraph.ofRosters procedures nodes)

end ProgramModel
