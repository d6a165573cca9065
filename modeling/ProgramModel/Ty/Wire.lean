import ProgramModel.Ty.Basic

/-!
Types read from wire values and written as such. A type is an object that names its
form first; each type inside another one is a level of nesting.
-/

namespace ProgramModel

namespace Reading

def optionalExtent (v : Json) (key context : String) : Reading (Option Extent) := do
  match ← optional v key context with
  | some w => return some (← extent w context)
  | none => return none

def ty (v : Json) : Reading Ty := nested "type" do
  match ← formField TyForm v "type_kind" "type" with
  | .void => return .void
  | .int => return .int (← taggedField IntKind v "kind" "Tint type")
  | .float => return .float (← taggedField FloatKind v "kind" "Tfloat type")
  | .pointer =>
    let ⟨target, _⟩ ← field v "type" "Tptr type"
    let target ← ty target
    return .pointer target (← taggedField PointerKind v "kind" "Tptr type")
  | .array =>
    let ⟨element, _⟩ ← field v "content_type" "Tarray type"
    let element ← ty element
    let length ← optionalExtent v "length" "Tarray type"
    return .array element length (← optionalExtent v "stride" "Tarray type")
  | .struct => return .struct (← typeName (← field v "struct_name" "Tstruct type"))
  | .var => return .var (← stringField v "type_name" "Tvar type")
  | .enumeration => throw (.unsupported "type kind" (Tagged.tag TyForm.enumeration))
termination_by v.height
decreasing_by all_goals exact Json.Child.height_lt ‹_›

/-- The type under a key. -/
def tyField (v : Json) (key context : String) : Reading Ty := do
  ty (← field v key context)

/-- The type under a key that may be absent. -/
def optionalTy (v : Json) (key context : String) : Reading (Option Ty) := do
  match ← optional v key context with
  | some w => return some (← ty w)
  | none => return none

end Reading

namespace Json

/-- The tag of a member of an enumeration. -/
def ofTagged {α : Type} [Tagged α] (a : α) : Json := .str (Tagged.tag a)

/-- A member that is left out when there is nothing to hold. -/
def memberOf? (key : String) (v : Option Json) : List (String × Json) :=
  match v with
  | some w => [(key, w)]
  | none => []

end Json

open Json in
def Ty.toWire (o : Options) : Ty → Json
  | void => .obj [("type_kind", ofTagged TyForm.void)]
  | int kind => .obj [("type_kind", ofTagged TyForm.int), ("kind", ofTagged kind)]
  | float kind => .obj [("type_kind", ofTagged TyForm.float), ("kind", ofTagged kind)]
  | pointer target kind =>
    .obj [("type_kind", ofTagged TyForm.pointer), ("type", target.toWire o),
      ("kind", ofTagged kind)]
  | array element length stride =>
    .obj ([("type_kind", ofTagged TyForm.array), ("content_type", element.toWire o)] ++
      memberOf? "length" (length.map fun n => .ofInt n.val) ++
      memberOf? "stride" (stride.map fun n => .ofInt n.val))
  | struct name => .obj [("type_kind", ofTagged TyForm.struct), ("struct_name", name.toWire o)]
  | var name => .obj [("type_kind", ofTagged TyForm.var), ("type_name", .str name)]

end ProgramModel
