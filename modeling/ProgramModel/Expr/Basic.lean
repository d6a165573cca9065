import ProgramModel.Constant.Basic
import ProgramModel.Expr.Operator
import ProgramModel.FieldName
import ProgramModel.Temporary
import ProgramModel.Variable

/-!
Expressions: values of temporaries, constants and operations, addresses of variables,
fields and elements, and sizes of types. `agrees` compares expressions as values: it
is equality but for float constants, which compare as numbers.
-/

namespace ProgramModel

inductive Expr where
  | temporary (t : Temporary)
  | unary (op : UnaryOp) (operand : Expr) (result : Option Ty)
  | binary (op : BinaryOp) (left right : Expr)
  | constant (c : Constant)
  | cast (target : Ty) (operand : Expr)
  | addressOf (x : Variable)
  | fieldOf (base : Expr) (field : FieldName) (type : Ty)
  | elementOf (array index : Expr)
  | sizeof (type : Ty) (kind : SizeofKind)
  /-- The size of an array whose length is only known when it is made. -/
  | sizeofArray (type : Ty) (kind : SizeofKind) (length : Expr)
  deriving DecidableEq, Repr

namespace Expr

def null : Expr := constant (.int .null)

def ofWord (i : WireId) : Expr := constant (.int (.ofWord i))

def isNull : Expr → Bool
  | constant c => c.isNull
  | _ => false

/-- The expression as it is shown, on one line and with its binary operations in
parentheses. -/
def text : Expr → String
  | temporary t => t.text
  | unary op operand _ => op.symbol ++ operand.text
  | binary op left right => "(" ++ left.text ++ " " ++ op.symbol ++ " " ++ right.text ++ ")"
  | constant c => c.text
  | cast target operand => "(" ++ target.text ++ ")" ++ operand.text
  | addressOf x => "&" ++ x.text
  | fieldOf base field _ => base.text ++ "." ++ field.name
  | elementOf array index => array.text ++ "[" ++ index.text ++ "]"
  | sizeof type _ => "sizeof(" ++ type.text ++ ")"
  | sizeofArray type _ _ => "sizeof(" ++ type.text ++ ")"

def agrees : Expr → Expr → Bool
  | unary op e r, unary op' e' r' => decide (op = op') && e.agrees e' && decide (r = r')
  | binary op e f, binary op' e' f' => decide (op = op') && e.agrees e' && f.agrees f'
  | constant c, constant c' => c.agrees c'
  | cast t e, cast t' e' => decide (t = t') && e.agrees e'
  | fieldOf e n t, fieldOf e' n' t' => e.agrees e' && decide (n = n') && decide (t = t')
  | elementOf e i, elementOf e' i' => e.agrees e' && i.agrees i'
  | sizeofArray t k e, sizeofArray t' k' e' =>
    decide (t = t') && decide (k = k') && e.agrees e'
  | e, e' => decide (e = e')

end Expr
end ProgramModel
