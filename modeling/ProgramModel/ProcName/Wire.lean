import ProgramModel.ProcName.Basic
import ProgramModel.Ty.Wire

/-!
Procedure names read from wire values and written as such. The method name decides
the rest: the built-in procedure has no other member, and a constructor no result.
-/

namespace ProgramModel

namespace Reading

private def procContext : String := "procedure name"

/-- The result of a method. A constructor's is not looked at. -/
def methodResult (v : Json) (name : String) : Reading (Option Ty) := do
  if name = (← read).constructorName then return none
  return some (← tyField v "return_type" procContext)

def procName (v : Json) : Reading ProcName := do
  let name ← stringField v "method_name" procContext
  if name = (← read).builtinNewName then return .builtinNew
  let owner ← typeName (← field v "class_name" procContext)
  let parameters ← listField v "parameters" procContext ty
  let result ← methodResult v name
  let isStatic ← booleanField v "is_static" procContext
  return .method { owner, name, parameters, result, isStatic }

/-- The procedure name under a key. -/
def procNameField (v : Json) (key context : String) : Reading ProcName := do
  procName (← field v key context)

end Reading

open Json in
def ProcName.toWire (o : Options) (p : ProcName) : Json :=
  let name := ("method_name", .str (p.wireMethodName o))
  match p with
  | builtinNew => .obj [name]
  | method s =>
    .obj ([name, ("class_name", s.owner.toWire o),
      ("parameters", .arr (s.parameters.map (Ty.toWire o)))] ++
      memberOf? "return_type" (s.result.map (Ty.toWire o)) ++ [("is_static", .bool s.isStatic)])

end ProgramModel
