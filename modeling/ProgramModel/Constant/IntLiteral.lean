import ProgramModel.Ty.Wire

/-!
Integer literals. A literal keeps its exact value; the null pointer is the one literal
that counts as a pointer.
-/

namespace ProgramModel

structure IntLiteral where
  value : WideInt
  isUnsigned : Bool
  isPointer : Bool
  deriving DecidableEq, Repr

namespace IntLiteral

/-- The null pointer. -/
def null : IntLiteral := ⟨⟨0, by decide, by decide⟩, false, true⟩

/-- A signed literal of the value of a word. -/
def ofWord (i : WireId) : IntLiteral where
  value := i.toWide
  isUnsigned := false
  isPointer := false

def isNull (l : IntLiteral) : Bool := l.isPointer && l.value.val == 0

def text (l : IntLiteral) : String :=
  if l.isNull then "null"
  else if l.isUnsigned then toString l.value ++ "u"
  else toString l.value

end IntLiteral

namespace Reading

/-- A pointer literal that is zero is the null pointer; any other literal counts as no
pointer, whatever it is marked as. -/
def intLiteral (v : Json) : Reading IntLiteral := do
  let isUnsigned ← booleanField v "unsigned" "integer literal"
  let value ← wideInt (← field v "value" "integer literal") "integer literal"
  let isPointer ← booleanField v "is_pointer" "integer literal"
  if isPointer && value.val == 0 then return .null
  return { value, isUnsigned, isPointer := false }

end Reading

def IntLiteral.toWire (l : IntLiteral) : Json :=
  .obj [("unsigned", .bool l.isUnsigned), ("value", .ofInt l.value.val),
    ("is_pointer", .bool l.isPointer)]

end ProgramModel
