import ProgramModel.Proofs.Wire.Regular
import ProgramModel.Wire.Access

/-!
Members of objects as readings see them: what `field` and `optional` give is decided by the
member under the key.
-/

namespace ProgramModel.Reading

variable {α β : Type} {v w : Json} {members : List (String × Json)} {key context : String}

/-! ### Sequence -/

theorem throw_bind (fault : Fault) (f : α → Reading β) :
    (throw fault : Reading α) >>= f = throw fault := rfl

theorem bind_eq_bind {m m' : Reading α} {f f' : α → Reading β} (first : m' = m)
    (rest : ∀ a, f' a = f a) : m' >>= f' = m >>= f := by
  rw [first, funext rest]

/-! ### Members -/

/-- Access to a member keeps the proof that it is one, and finds what plain access finds. -/
theorem map_val_member? (v : Json) (key : String) :
    (member? v key).map Subtype.val = v.member? key := by
  unfold member?
  split
  · next found => exact found.symm
  · next absent => exact absent.symm

theorem member?_eq_some (found : v.member? key = some w) :
    member? v key = some ⟨w, Json.child_of_member? found⟩ := by
  rw [← map_val_member?] at found
  obtain ⟨⟨_, _⟩, here, rfl⟩ := Option.map_eq_some_iff.1 found
  exact here

theorem member?_eq_none (absent : v.member? key = none) : member? v key = none := by
  rw [← map_val_member?] at absent
  exact Option.map_eq_none_iff.1 absent

/-- Only an object has members to find. -/
theorem exists_obj_of_member? (found : v.member? key = some w) : ∃ members, v = .obj members := by
  cases v with
  | obj members => exact ⟨members, rfl⟩
  | _ => cases found

/-- A field that is there is found without a fault. -/
theorem field_eq_pure (found : v.member? key = some w) :
    field v key context = pure ⟨w, Json.child_of_member? found⟩ := by
  obtain ⟨members, rfl⟩ := exists_obj_of_member? found
  rw [field, member?_eq_some found]

/-- A field that is missing in an object is a fault that names its key. -/
theorem field_eq_throw (absent : (Json.obj members).member? key = none) :
    field (.obj members) key context = throw (.missingField key context) := by
  rw [field, member?_eq_none absent]

/-- An optional field that is there and not null is found. -/
theorem optional_eq_some (found : v.member? key = some w) (present : w ≠ .null) :
    optional v key context = pure (some ⟨w, Json.child_of_member? found⟩) := by
  obtain ⟨members, rfl⟩ := exists_obj_of_member? found
  rw [optional, member?_eq_some found]
  cases w with
  | null => exact absurd rfl present
  | _ => rfl

/-- A null counts as absent. -/
theorem optional_eq_none_of_null (found : v.member? key = some .null) :
    optional v key context = pure none := by
  obtain ⟨members, rfl⟩ := exists_obj_of_member? found
  rw [optional, member?_eq_some found]

theorem optional_eq_none (absent : (Json.obj members).member? key = none) :
    optional (.obj members) key context = pure none := by
  rw [optional, member?_eq_none absent]

/-! ### Answers -/

/-- The answer of a field is the first member with its key. -/
theorem answer_field_eq_ok_iff {o : Options} {w : Member v} :
    (field v key context).answer o = .ok w ↔ v.member? key = some w.1 := by
  rw [← map_val_member?]
  unfold field
  split
  · next members =>
    cases member? (.obj members) key with
    | some found => simp [answer_pure, Subtype.ext_iff]
    | none => simp [answer_throw]
  · next other notObject =>
    have absent : v.member? key = none := by
      cases v with
      | obj members => exact absurd rfl (notObject members)
      | _ => rfl
    rw [map_val_member?, absent]
    simp [mismatch, answer_throw]

/-- The answer of a list is the items of an array, and nothing else has one. -/
theorem answer_items_eq_ok_iff {o : Options} {found : List Json} :
    (items v context).answer o = .ok found ↔ v = .arr found := by
  unfold items
  split
  · simp [answer_pure]
  · simp_all [mismatch, answer_throw]

end ProgramModel.Reading
