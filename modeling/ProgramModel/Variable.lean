import ProgramModel.ProcName.Wire

/-!
Variables of a program. A variable is global or belongs to a procedure, as one of its
own locals or as one that a call of it uses.
-/

namespace ProgramModel

inductive Storage where
  | localOf (owner : ProcName)
  | calledOf (owner : ProcName)
  | global
  deriving DecidableEq, Repr

/-- The forms of storage. -/
inductive StorageForm where
  | localOf
  | calledOf
  | global
  deriving DecidableEq, Repr

instance : Tagged StorageForm where
  name := "program variable kind"
  all := [.localOf, .calledOf, .global]
  tag
    | .localOf => "Local"
    | .calledOf => "Called"
    | .global => "Global"
  find?_tag a := by cases a <;> rfl

structure Variable where
  name : String
  storage : Storage
  deriving DecidableEq, Repr

namespace Variable

def owner? (x : Variable) : Option ProcName :=
  match x.storage with
  | .localOf p | .calledOf p => some p
  | .global => none

def isGlobal (x : Variable) : Bool := x.owner?.isNone

def text (x : Variable) : String :=
  match x.storage with
  | .global => "#GB$" ++ x.name
  | _ => x.name

end Variable

namespace Reading

def storage (v : Json) : Reading Storage := do
  match ← formField StorageForm v "pv_kind" "program variable" with
  | .localOf => return .localOf (← procNameField v "proc_name" "program variable")
  | .calledOf => return .calledOf (← procNameField v "proc_name" "program variable")
  | .global => return .global

def programVariable (v : Json) : Reading Variable := do
  let name ← stringField v "pv_name" "program variable"
  return { name, storage := ← storage v }

end Reading

open Json in
def Variable.toWire (o : Options) (x : Variable) : Json :=
  let storage := match x.storage with
    | .localOf p => [("pv_kind", ofTagged StorageForm.localOf), ("proc_name", p.toWire o)]
    | .calledOf p => [("pv_kind", ofTagged StorageForm.calledOf), ("proc_name", p.toWire o)]
    | .global => [("pv_kind", ofTagged StorageForm.global)]
  .obj (("pv_name", .str x.name) :: storage)

end ProgramModel
