import ProgramModel.Ty.Basic

/-!
Names of procedures: methods with their signature, and the built-in procedure that
allocates objects, which all classes share.
-/

namespace ProgramModel

structure Signature where
  owner : TypeName
  name : String
  parameters : List Ty
  /-- Constructors have no result. -/
  result : Option Ty
  isStatic : Bool
  deriving DecidableEq, Repr

inductive ProcName where
  | builtinNew
  | method (signature : Signature)
  deriving DecidableEq, Repr

namespace ProcName

/-- What the built-in procedure is called here, however a document spells it. -/
def builtinNewName : String := "__new"

def methodName : ProcName → String
  | builtinNew => builtinNewName
  | method s => s.name

/-- The method name as documents read with these options spell it. -/
def wireMethodName (o : Options) : ProcName → String
  | builtinNew => o.builtinNewName
  | method s => s.name

def owner? : ProcName → Option TypeName
  | builtinNew => none
  | method s => some s.owner

def isBuiltinNew : ProcName → Bool
  | builtinNew => true
  | method _ => false

def isStatic : ProcName → Bool
  | builtinNew => false
  | method s => s.isStatic

def text : ProcName → String
  | builtinNew => builtinNewName
  | method s =>
    let result := match s.result with
      | some t => t.text ++ " "
      | none => ""
    result ++ s.owner.text ++ "::" ++ s.name ++ "(" ++
      String.intercalate "," (s.parameters.map Ty.text) ++ ")"

end ProcName
end ProgramModel
