import ProgramModel.Constant.Wire
import ProgramModel.Expr.Basic

/-!
Expressions read from wire values and written as such. Each expression inside another
one is a level of nesting, and so are the types in it.
-/

namespace ProgramModel

/-- The forms of an expression. -/
inductive ExprForm where
  | temporary
  | unary
  | binary
  | constant
  | cast
  | addressOf
  | fieldOf
  | elementOf
  | sizeof
  deriving DecidableEq, Repr

instance : Tagged ExprForm where
  name := "expression kind"
  all := [.temporary, .unary, .binary, .constant, .cast, .addressOf, .fieldOf, .elementOf, .sizeof]
  tag
    | .temporary => "VarExpression"
    | .unary => "UnopExpression"
    | .binary => "BinopExpression"
    | .constant => "ConstExpression"
    | .cast => "CastExpression"
    | .addressOf => "LvarExpression"
    | .fieldOf => "LfieldExpression"
    | .elementOf => "LindexExpression"
    | .sizeof => "SizeofExpression"
  find?_tag a := by cases a <;> rfl

namespace Reading

def expr (v : Json) : Reading Expr := nested "expression" do
  match ← formField ExprForm v "expr_kind" "expression" with
  | .temporary => return .temporary (← temporaryField v "identifier" "var expression")
  | .unary =>
    let op ← taggedField UnaryOp v "operator" "unop expression"
    let ⟨operand, _⟩ ← field v "expression" "unop expression"
    let operand ← expr operand
    return .unary op operand (← optionalTy v "type" "unop expression")
  | .binary =>
    let op ← taggedField BinaryOp v "operator" "binop expression"
    let ⟨left, _⟩ ← field v "left" "binop expression"
    let left ← expr left
    let ⟨right, _⟩ ← field v "right" "binop expression"
    return .binary op left (← expr right)
  | .constant => return .constant (← constant (← field v "constant" "const expression"))
  | .cast =>
    let target ← tyField v "type" "cast expression"
    let ⟨operand, _⟩ ← field v "expression" "cast expression"
    return .cast target (← expr operand)
  | .addressOf => return .addressOf (← programVariable (← field v "pvar" "lvar expression"))
  | .fieldOf =>
    let ⟨base, _⟩ ← field v "expression" "lfield expression"
    let base ← expr base
    let name ← fieldName (← field v "field" "lfield expression")
    return .fieldOf base name (← tyField v "type" "lfield expression")
  | .elementOf =>
    let ⟨array, _⟩ ← field v "array" "lindex expression"
    let array ← expr array
    let ⟨index, _⟩ ← field v "index" "lindex expression"
    return .elementOf array (← expr index)
  | .sizeof =>
    let type ← tyField v "type" "sizeof expression"
    let kind ← taggedField SizeofKind v "kind" "sizeof expression"
    match ← optional v "dynamic_length" "sizeof expression" with
    | some ⟨length, _⟩ => return .sizeofArray type kind (← expr length)
    | none => return .sizeof type kind
termination_by v.height
decreasing_by all_goals exact Json.Child.height_lt ‹_›

/-- The expression under a key. -/
def exprField (v : Json) (key context : String) : Reading Expr := do
  expr (← field v key context)

end Reading

open Json in
def Expr.toWire (o : Options) : Expr → Json
  | temporary t => .obj [("expr_kind", ofTagged ExprForm.temporary), ("identifier", t.toWire)]
  | unary op operand result =>
    .obj ([("expr_kind", ofTagged ExprForm.unary), ("operator", ofTagged op),
      ("expression", operand.toWire o)] ++ memberOf? "type" (result.map (Ty.toWire o)))
  | binary op left right =>
    .obj [("expr_kind", ofTagged ExprForm.binary), ("operator", ofTagged op),
      ("left", left.toWire o), ("right", right.toWire o)]
  | constant c => .obj [("expr_kind", ofTagged ExprForm.constant), ("constant", c.toWire o)]
  | cast target operand =>
    .obj [("expr_kind", ofTagged ExprForm.cast), ("type", target.toWire o),
      ("expression", operand.toWire o)]
  | addressOf x => .obj [("expr_kind", ofTagged ExprForm.addressOf), ("pvar", x.toWire o)]
  | fieldOf base name type =>
    .obj [("expr_kind", ofTagged ExprForm.fieldOf), ("expression", base.toWire o),
      ("field", name.toWire o), ("type", type.toWire o)]
  | elementOf array index =>
    .obj [("expr_kind", ofTagged ExprForm.elementOf), ("array", array.toWire o),
      ("index", index.toWire o)]
  | sizeof type kind =>
    .obj [("expr_kind", ofTagged ExprForm.sizeof), ("type", type.toWire o),
      ("kind", ofTagged kind)]
  | sizeofArray type kind length =>
    .obj [("expr_kind", ofTagged ExprForm.sizeof), ("type", type.toWire o),
      ("kind", ofTagged kind), ("dynamic_length", length.toWire o)]

end ProgramModel
