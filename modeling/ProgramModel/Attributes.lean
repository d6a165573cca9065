import ProgramModel.Annotations
import ProgramModel.ProcName.Wire

/-!
The attributes of a procedure: all that is declared of it besides its body.
-/

namespace ProgramModel

inductive AccessModifier where
  | unstated
  | publicAccess
  | privateAccess
  | protectedAccess
  deriving DecidableEq, Repr, Ord

instance : Tagged AccessModifier where
  name := "access modifier"
  all := [.unstated, .publicAccess, .privateAccess, .protectedAccess]
  tag
    | .unstated => "Default"
    | .publicAccess => "Public"
    | .privateAccess => "Private"
    | .protectedAccess => "Protected"
  find?_tag a := by cases a <;> rfl

/-- A name with its type: a formal parameter, or a variable that a closure captures. -/
structure Binding where
  name : String
  type : Ty
  deriving DecidableEq, Repr

/-- A local variable as it is declared. -/
structure LocalDecl where
  name : String
  type : Ty
  /-- A closure may assign to the variable. -/
  isModifiedInBlock : Bool
  isConstexpr : Bool
  deriving DecidableEq, Repr

structure Attributes where
  access : AccessModifier
  captured : List Binding
  exceptions : List String
  formals : List Binding
  locals : List LocalDecl
  isAbstract : Bool
  isBridge : Bool
  isDefined : Bool
  isSynthetic : Bool
  location : Location
  annotations : MethodAnnotations
  name : ProcName
  result : Ty
  deriving DecidableEq, Repr

namespace Attributes

/-- The first formal parameter of a name. -/
def formal? (a : Attributes) (name : String) : Option Binding :=
  a.formals.find? (·.name == name)

/-- The first local variable of a name. -/
def local? (a : Attributes) (name : String) : Option LocalDecl :=
  a.locals.find? (·.name == name)

end Attributes

namespace Reading

private def attributesContext : String := "procedure attributes"

def binding (context : String) (v : Json) : Reading Binding := do
  let name ← stringField v "name" context
  return { name, type := ← tyField v "type" context }

def localDecl (v : Json) : Reading LocalDecl := do
  let name ← stringField v "name" "local variable"
  let type ← tyField v "type" "local variable"
  let isModifiedInBlock ← booleanField v "modify_in_block" "local variable"
  return { name, type, isModifiedInBlock,
           isConstexpr := ← booleanField v "is_constexpr" "local variable" }

def attributes (v : Json) : Reading Attributes := do
  let captured ← listField v "captured" attributesContext (binding "captured variable")
  let exceptions ← listField v "exceptions" attributesContext (string · "exception name")
  let formals ← listField v "formals" attributesContext (binding "formal")
  let locals ← listField v "locals" attributesContext localDecl
  let access ← taggedField AccessModifier v "access" attributesContext
  let isAbstract ← booleanField v "is_abstract" attributesContext
  let isBridge ← booleanField v "is_bridge_method" attributesContext
  let isDefined ← booleanField v "is_defined" attributesContext
  let isSynthetic ← booleanField v "is_synthetic_method" attributesContext
  let location ← locationField v "loc" attributesContext
  let annotations ← methodAnnotations (← field v "method_annotations" attributesContext)
  let name ← procNameField v "proc_name" attributesContext
  let result ← tyField v "ret_type" attributesContext
  return { access, captured, exceptions, formals, locals, isAbstract, isBridge, isDefined,
           isSynthetic, location, annotations, name, result }

end Reading
end ProgramModel
