import ProgramModel.Wire.Access

/-!
Enumerations that are written as tags. The list of all members and the tags decide
everything: a tag denotes the member that has it, and there is no fallback.
-/

namespace ProgramModel

class Tagged (α : Type) where
  /-- What messages call the enumeration. -/
  name : String
  all : List α
  tag : α → String
  find?_tag (a : α) : all.find? (fun b => tag b == tag a) = some a

namespace Tagged

variable {α : Type} [Tagged α]

def ofTag? (s : String) : Option α := all.find? fun a => tag a == s

@[simp]
theorem ofTag?_tag (a : α) : ofTag? (tag a) = some a := find?_tag a

theorem tag_of_ofTag? {s : String} {a : α} (h : ofTag? s = some a) : tag a = s := by
  simpa using List.find?_some h

theorem tag_injective {a b : α} (h : tag a = tag b) : a = b := by
  have := ofTag?_tag a
  rw [h, ofTag?_tag] at this
  exact (Option.some.inj this).symm

end Tagged

namespace Reading

variable (α : Type) [Tagged α]

def ofTag (s : String) : Reading α :=
  match Tagged.ofTag? s with
  | some a => pure a
  | none => throw (.unknownVariant (Tagged.name α) s)

/-- A member of an enumeration. -/
def tagged (v : Json) : Reading α := do
  ofTag α (← string v (Tagged.name α))

/-- A field that holds a member of an enumeration. -/
def taggedField (v : Json) (key context : String) : Reading α := do
  tagged α (← field v key context)

/-- The field that says which form its object has. A value that is no tag at all is a
fault of the object, a tag without a form a fault of the enumeration. -/
def formField (v : Json) (key context : String) : Reading α := do
  ofTag α (← stringField v key context)

end Reading
end ProgramModel
