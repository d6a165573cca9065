import ProgramModel.Traversal.BreadthFirst
import ProgramModel.TypeTable.Basic

/-!
Supertypes. The ancestors of a type are the type itself and all types that a chain of
supertypes leads to, the nearer ones first; a type without a definition has no
supertypes, and a hierarchy may be cyclic. Inherited fields and the subtype relation
are read off the ancestors.
-/

namespace ProgramModel.TypeTable

/-- The direct supertypes. -/
def supers (t : TypeTable) (name : TypeName) : List TypeName :=
  match t.get? name with
  | some d => d.supers
  | none => []

/-- As many rounds as there can be ancestors: the type itself, and one for each mention
of a supertype. -/
def rounds (t : TypeTable) : Nat := t.toList.foldr (fun e n => e.2.supers.length + n) 0 + 1

def ancestors (t : TypeTable) (name : TypeName) : List TypeName :=
  Traversal.breadthFirst t.supers t.rounds name

/-- The field of a name that the nearest ancestor declares. -/
def resolveField? (t : TypeTable) (name : TypeName) (field : String) : Option StructField :=
  (t.ancestors name).findSome? fun a => (t.get? a).bind fun d => d.field? field

def isSubtype (t : TypeTable) (sub sup : TypeName) : Bool := sup ∈ t.ancestors sub

end ProgramModel.TypeTable
