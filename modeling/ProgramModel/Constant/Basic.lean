import ProgramModel.Binary64.Shortest
import ProgramModel.Constant.IntLiteral
import ProgramModel.ProcName.Basic
import ProgramModel.Text.Quoted

/-!
Constants of a program. `agrees` compares them as values, so that a float constant
that is no number agrees with nothing.
-/

namespace ProgramModel

inductive Constant where
  | int (literal : IntLiteral)
  | procedure (name : ProcName)
  | string (value : String)
  | float (value : Binary64)
  | classRef (name : String)
  deriving DecidableEq, Repr

namespace Constant

def isNull : Constant → Bool
  | int l => l.isNull
  | _ => false

/-- A procedure is shown without its signature. -/
def text : Constant → String
  | int l => l.text
  | procedure name => "_fun_" ++ name.methodName
  | string s => Text.quoted s
  | float x => x.text
  | classRef name => name ++ ".class"

def agrees : Constant → Constant → Bool
  | float x, float y => x.same y
  | c, d => decide (c = d)

end Constant
end ProgramModel
