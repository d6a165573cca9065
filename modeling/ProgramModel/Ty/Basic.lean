import ProgramModel.Ty.Kind
import ProgramModel.TypeName

/-!
Types of a program: scalars, pointers, arrays, named structs and type variables.
-/

namespace ProgramModel

inductive Ty where
  | void
  | int (kind : IntKind)
  | float (kind : FloatKind)
  | pointer (target : Ty) (kind : PointerKind)
  | array (element : Ty) (length stride : Option Extent)
  | struct (name : TypeName)
  | var (name : String)
  deriving DecidableEq, Repr

namespace Ty

/-- A plain pointer to a type. -/
def pointerTo (target : Ty) : Ty := .pointer target .plain

/-- The struct that a type denotes, possibly behind one pointer. -/
def structName? : Ty → Option TypeName
  | struct name => some name
  | pointer (struct name) _ => some name
  | _ => none

def isPointer : Ty → Bool
  | pointer _ _ => true
  | _ => false

/-- The type as it is shown. All pointers that are not plain look alike. -/
def text : Ty → String
  | void => "void"
  | int kind => Tagged.tag kind
  | float kind => Tagged.tag kind
  | pointer target .plain => target.text ++ "*"
  | pointer target _ => target.text ++ "&"
  | array element (some n) _ => element.text ++ "[" ++ toString n ++ "]"
  | array element none _ => element.text ++ "[_]"
  | struct name => name.text
  | var name => "'" ++ name

end Ty
end ProgramModel
