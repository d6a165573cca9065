import ProgramModel.Annotations
import ProgramModel.FieldName
import ProgramModel.ProcName.Wire

/-!
Definitions of classes: fields, supertypes, methods and annotations.
-/

namespace ProgramModel

structure StructField where
  name : FieldName
  type : Ty
  annotations : ItemAnnotations
  deriving DecidableEq, Repr

structure StructDef where
  fields : List StructField
  statics : List StructField
  /-- The direct supertypes. They need no definition. -/
  supers : List TypeName
  methods : List ProcName
  annotations : ItemAnnotations
  deriving DecidableEq, Repr

namespace StructDef

/-- The field of a name that the definition itself declares, an instance field before a
static one. -/
def field? (d : StructDef) (name : String) : Option StructField :=
  (d.fields ++ d.statics).find? (·.name.name == name)

end StructDef

namespace Reading

def structField (v : Json) : Reading StructField := do
  let name ← fieldName (← field v "field_name" "struct field")
  let type ← tyField v "type" "struct field"
  return { name, type, annotations := ← itemAnnotations (← field v "annotation" "struct field") }

def structDef (v : Json) : Reading StructDef := do
  let fields ← listField v "instance_fields" "struct definition" structField
  let statics ← listField v "static_fields" "struct definition" structField
  let supers ← listField v "supers" "struct definition" typeName
  let methods ← listField v "methods" "struct definition" procName
  let annotations ← itemAnnotations (← field v "annots" "struct definition")
  return { fields, statics, supers, methods, annotations }

end Reading
end ProgramModel
