import ProgramModel.Wire.Tagged

/-!
Operators of expressions, and what a size is taken of.
-/

namespace ProgramModel

inductive UnaryOp where
  | negate
  | complement
  | not
  deriving DecidableEq, Repr, Ord

instance : Tagged UnaryOp where
  name := "unary operator"
  all := [.negate, .complement, .not]
  tag
    | .negate => "Neg"
    | .complement => "BNot"
    | .not => "LNot"
  find?_tag a := by cases a <;> rfl

def UnaryOp.symbol : UnaryOp → String
  | negate => "-"
  | complement => "~"
  | not => "!"

inductive BinaryOp where
  | add
  | addToPointer
  | subtract
  | subtractFromPointer
  | pointerDifference
  | multiply
  | divideInt
  | divideFloat
  | remainder
  | shiftLeft
  | shiftRight
  | less
  | greater
  | lessOrEqual
  | greaterOrEqual
  | equal
  | notEqual
  | bitAnd
  | bitXor
  | bitOr
  | and
  | or
  deriving DecidableEq, Repr, Ord

instance : Tagged BinaryOp where
  name := "binary operator"
  all := [.add, .addToPointer, .subtract, .subtractFromPointer, .pointerDifference, .multiply,
    .divideInt, .divideFloat, .remainder, .shiftLeft, .shiftRight, .less, .greater, .lessOrEqual,
    .greaterOrEqual, .equal, .notEqual, .bitAnd, .bitXor, .bitOr, .and, .or]
  tag
    | .add => "PlusA"
    | .addToPointer => "PlusPI"
    | .subtract => "MinusA"
    | .subtractFromPointer => "MinusPI"
    | .pointerDifference => "MinusPP"
    | .multiply => "Mult"
    | .divideInt => "DivI"
    | .divideFloat => "DivF"
    | .remainder => "Mod"
    | .shiftLeft => "Shiftlt"
    | .shiftRight => "Shiftrt"
    | .less => "Lt"
    | .greater => "Gt"
    | .lessOrEqual => "Le"
    | .greaterOrEqual => "Ge"
    | .equal => "Eq"
    | .notEqual => "Ne"
    | .bitAnd => "BAnd"
    | .bitXor => "BXor"
    | .bitOr => "BOr"
    | .and => "LAnd"
    | .or => "LOr"
  find?_tag a := by cases a <;> rfl

namespace BinaryOp

def symbol : BinaryOp → String
  | add => "+"
  | addToPointer => "+pi"
  | subtract => "-"
  | subtractFromPointer => "-pi"
  | pointerDifference => "-pp"
  | multiply => "*"
  | divideInt => "/"
  | divideFloat => "/."
  | remainder => "%"
  | shiftLeft => "<<"
  | shiftRight => ">>"
  | less => "<"
  | greater => ">"
  | lessOrEqual => "<="
  | greaterOrEqual => ">="
  | equal => "=="
  | notEqual => "!="
  | bitAnd => "&"
  | bitXor => "^"
  | bitOr => "|"
  | and => "&&"
  | or => "||"

/-- Comparisons give a truth value; the logical operators do not count as such. -/
def isComparison : BinaryOp → Bool
  | less | greater | lessOrEqual | greaterOrEqual | equal | notEqual => true
  | _ => false

end BinaryOp

/-- Which types a size is taken of: the named type alone. -/
inductive SizeofKind where
  | exactly
  deriving DecidableEq, Repr, Ord

instance : Tagged SizeofKind where
  name := "sizeof subtype"
  all := [.exactly]
  tag
    | .exactly => "exact"
  find?_tag := fun | .exactly => rfl

end ProgramModel
