import ProgramModel.Constant.Basic
import ProgramModel.ProcName.Wire

/-!
Constants read from wire values and written as such. A float constant is any value
at all; a value that is no finite number is read as no number, and that is written
as null.
-/

namespace ProgramModel

/-- The forms of a constant. -/
inductive ConstantForm where
  | int
  | procedure
  | string
  | float
  | classRef
  deriving DecidableEq, Repr

instance : Tagged ConstantForm where
  name := "constant kind"
  all := [.int, .procedure, .string, .float, .classRef]
  tag
    | .int => "Int"
    | .procedure => "Fun"
    | .string => "Str"
    | .float => "Float"
    | .classRef => "Class"
  find?_tag a := by cases a <;> rfl

namespace Reading

def constant (v : Json) : Reading Constant := do
  match ← formField ConstantForm v "kind" "constant" with
  | .int => return .int (← intLiteral (← field v "intval" "constant"))
  | .procedure => return .procedure (← procNameField v "function_name" "constant")
  | .string => return .string (← stringField v "string_value" "constant")
  | .float => return .float (binary64 (← field v "float_value" "constant"))
  | .classRef => return .classRef (← stringField v "class_name" "constant")

end Reading

/-- The shortest numeral of a finite number, and null for all else. -/
def Json.ofBinary64 (x : Binary64) : Json :=
  if x.isFinite then .num (.ofDecimal x.isNegative (x.shortest .up)) else .null

open Json in
def Constant.toWire (o : Options) : Constant → Json
  | int l => .obj [("kind", ofTagged ConstantForm.int), ("intval", l.toWire)]
  | procedure name =>
    .obj [("kind", ofTagged ConstantForm.procedure), ("function_name", name.toWire o)]
  | string s => .obj [("kind", ofTagged ConstantForm.string), ("string_value", .str s)]
  | float x => .obj [("kind", ofTagged ConstantForm.float), ("float_value", ofBinary64 x)]
  | classRef name => .obj [("kind", ofTagged ConstantForm.classRef), ("class_name", .str name)]

end ProgramModel
