import ProgramModel.FlowGraph.Basic
import ProgramModel.FlowGraph.Roster
import ProgramModel.Instr.Wire

/-!
Records of procedures and nodes as documents have them: links are still ids. A node
must name a procedure that has a record; this is the one link that is looked at here,
since a node without an owner is refused before the rest of it is read.
-/

namespace ProgramModel

structure ProcRecord where
  attributes : Attributes
  start : WireId
  exit : WireId
  deriving DecidableEq, Repr

structure NodeRecord where
  owner : WireId
  body : NodeBody
  succs : List WireId
  preds : List WireId
  exceptional : List WireId
  deriving DecidableEq, Repr

namespace Reading

def procRecord (v : Json) : Reading (WireId × ProcRecord) := do
  let id ← wireIdField v "pd_id" "procedure record"
  let attributes ← attributes (← field v "pd_attributes" "procedure record")
  let start ← wireIdField v "pd_start_node" "procedure record"
  let exit ← wireIdField v "pd_exit_node" "procedure record"
  return (id, { attributes, start, exit })

/-- A temporary of a node with its type. -/
def nodeTemporary (v : Json) : Reading (Temporary × Ty) := do
  let t ← temporaryField v "id" "node temporary"
  return (t, ← tyField v "type" "node temporary")

def nodeBody (v : Json) : Reading NodeBody := do
  let temporaries ← listField v "nd_temps" "node record" nodeTemporary
  let kind ← nodeKind (← field v "nd_kind" "node record")
  let location ← locationField v "nd_loc" "node record"
  let instrs ← listField v "nd_instrs" "node record" instr
  let deadBefore ← listField v "nd_dead_pvars_before" "node record" programVariable
  let deadAfter ← listField v "nd_dead_pvars_after" "node record" programVariable
  return { kind, location, instrs, temporaries, deadBefore, deadAfter }

/-- The list of node ids under a key. -/
def nodeIds (v : Json) (key : String) : Reading (List WireId) :=
  listField v key "node record" (wireId · "node id")

/-- A node record, given which ids are those of procedures. -/
def nodeRecord (isProcedure : WireId → Bool) (v : Json) : Reading (WireId × NodeRecord) := do
  let id ← wireIdField v "nd_id" "node record"
  let owner ← wireIdField v "nd_proc_id" "node record"
  if !isProcedure owner then
    throw (.unresolvedReference .procedure owner (.ownerOf id))
  let body ← nodeBody v
  let succs ← nodeIds v "nd_succ_ids"
  let preds ← nodeIds v "nd_pred_ids"
  return (id, { owner, body, succs, preds, exceptional := ← nodeIds v "nd_exn_ids" })

/-- Enters the records of a list into a roster, in order and up to the first fault. -/
def register {α : Type} (entity : Entity) (readRecord : Json → Reading (WireId × α)) :
    Roster α → List Json → Reading (Roster α)
  | roster, [] => return roster
  | roster, v :: rest => do
    let (id, record) ← readRecord v
    match roster.insert? id record with
    | some roster => register entity readRecord roster rest
    | none => throw (.duplicateId entity id)

end Reading
end ProgramModel
