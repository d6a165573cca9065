import ProgramModel.TypeName

/-!
Names of fields, each with the class that declares it.
-/

namespace ProgramModel

structure FieldName where
  owner : TypeName
  name : String
  deriving DecidableEq, Repr

def FieldName.text (f : FieldName) : String := f.owner.text ++ "." ++ f.name

def Reading.fieldName (v : Json) : Reading FieldName := do
  let owner ← typeName (← field v "class_name" "field name")
  return { owner, name := ← stringField v "field_name" "field name" }

def FieldName.toWire (o : Options) (f : FieldName) : Json :=
  .obj [("class_name", f.owner.toWire o), ("field_name", .str f.name)]

end ProgramModel
