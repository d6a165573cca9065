import Std.Data.ExtTreeMap
import ProgramModel.StructDef

/-!
Tables of types: at most one definition for each name. A definition that is written
takes the place of an earlier one as a whole. Two tables that define the same names in
the same way are equal.
-/

namespace ProgramModel

structure TypeTable where
  definitions : Std.ExtTreeMap TypeName StructDef TypeName.order
  deriving DecidableEq

namespace TypeTable

def empty : TypeTable := ⟨∅⟩

def get? (t : TypeTable) (name : TypeName) : Option StructDef := t.definitions[name]?

def contains (t : TypeTable) (name : TypeName) : Bool := t.definitions.contains name

/-- The number of names that are defined. -/
def size (t : TypeTable) : Nat := t.definitions.size

def isEmpty (t : TypeTable) : Bool := t.definitions.isEmpty

/-- All definitions in the order of their names. -/
def toList (t : TypeTable) : List (TypeName × StructDef) := t.definitions.toList

def insert (t : TypeTable) (name : TypeName) (d : StructDef) : TypeTable :=
  ⟨t.definitions.insert name d⟩

/-- The definitions of both tables, those of the second where both have one. -/
def merge (t u : TypeTable) : TypeTable := ⟨t.definitions ∪ u.definitions⟩

/-- The table of a list of definitions, of which the last one for a name counts. -/
def ofList (entries : List (TypeName × StructDef)) : TypeTable :=
  entries.foldl (fun t e => t.insert e.1 e.2) empty

@[simp]
theorem get?_empty (name : TypeName) : empty.get? name = none :=
  Std.ExtTreeMap.getElem?_empty

@[simp]
theorem get?_insert (t : TypeTable) (name k : TypeName) (d : StructDef) :
    (t.insert name d).get? k = if name = k then some d else t.get? k := by
  simp [get?, insert, Std.ExtTreeMap.getElem?_insert]

@[simp]
theorem get?_merge (t u : TypeTable) (k : TypeName) :
    (t.merge u).get? k = (u.get? k).or (t.get? k) :=
  Std.ExtTreeMap.getElem?_union

theorem contains_eq (t : TypeTable) (k : TypeName) : t.contains k = (t.get? k).isSome :=
  Std.ExtTreeMap.contains_eq_isSome_getElem?

theorem mem_toList_iff {t : TypeTable} {k : TypeName} {d : StructDef} :
    (k, d) ∈ t.toList ↔ t.get? k = some d :=
  Std.ExtTreeMap.mem_toList_iff_getElem?_eq_some

/-- Tables are equal when they define every name in the same way. -/
theorem ext {t u : TypeTable} (h : ∀ k, t.get? k = u.get? k) : t = u :=
  congrArg mk (Std.ExtTreeMap.ext_getElem? h)

end TypeTable
end ProgramModel
