import ProgramModel.Document

/-!
The height of what is read from a text. A container takes one level of the room that its
reading is given, and hands what is left on to its members, so a value is at most one level
higher than there was room. Main statement: `height_le_of_ofText`.
-/

namespace ProgramModel.Json

variable {n : Nat}

/-! ### Containers of low members -/

/-- An array is one level higher than its items. -/
theorem height_arr_le {items : List Json} (low : ∀ v ∈ items, v.height ≤ n) :
    (arr items).height ≤ n + 1 := by
  rw [height]
  apply Nat.succ_le_succ
  induction items with
  | nil => exact Nat.zero_le n
  | cons v rest ih =>
    obtain ⟨first, others⟩ := List.forall_mem_cons.1 low
    exact Nat.max_le.2 ⟨first, ih others⟩

/-- An object is one level higher than its members. -/
theorem height_obj_le {members : List (String × Json)} (low : ∀ m ∈ members, m.2.height ≤ n) :
    (obj members).height ≤ n + 1 := by
  rw [height]
  apply Nat.succ_le_succ
  induction members with
  | nil => exact Nat.zero_le n
  | cons m rest ih =>
    obtain ⟨first, others⟩ := List.forall_mem_cons.1 low
    exact Nat.max_le.2 ⟨first, ih others⟩

/-- What holds of a new member and of those before holds of the members with the new one. -/
theorem forall_mem_put {P : String × Json → Prop} {key : String} {v : Json}
    {members : List (String × Json)} (new : P (key, v)) (old : ∀ m ∈ members, P m) :
    ∀ m ∈ put key v members, P m := by
  induction members with
  | nil => exact List.forall_mem_singleton.2 new
  | cons m rest ih =>
    obtain ⟨first, others⟩ := List.forall_mem_cons.1 old
    rw [put]
    split
    · exact List.forall_mem_cons.2 ⟨new, others⟩
    · exact List.forall_mem_cons.2 ⟨first, ih others⟩

/-! ### What scans give -/

namespace Scanned

variable {s t : List Char} {α β : Type} {P : α → Prop} {Q : β → Prop}

/-- The value that is scanned, if there is one, has a property. -/
structure Gives (P : α → Prop) (m : Scanned s α) : Prop where
  holds : ∀ r, m = .ok r → P r.value

theorem gives_error (stop : Stop) : Gives P (.error stop : Scanned s α) where
  holds := by rintro _ ⟨⟩

theorem gives_ok {r : Step s α} (holds : P r.value) : Gives P (.ok r : Scanned s α) where
  holds := by
    rintro _ ⟨⟩
    exact holds

theorem Gives.within {m : Scanned t α} (gives : Gives P m) (le : t.length ≤ s.length) :
    Gives P (m.within le : Scanned s α) := by
  cases m with
  | error stop => exact gives_error stop
  | ok r => exact gives_ok (gives.holds r rfl)

theorem Gives.andThen {m : Scanned s α} {f : (r : Step s α) → Scanned r.rest β}
    (first : Gives P m) (rest : ∀ r, P r.value → Gives Q (f r)) : Gives Q (m.andThen f) := by
  cases m with
  | error stop => exact gives_error stop
  | ok r => exact (rest r (first.holds r rfl)).within (Nat.le_of_lt r.shorter)

theorem Gives.imp {m : Scanned s α} {P' : α → Prop} (gives : Gives P m) (imp : ∀ a, P a → P' a) :
    Gives P' m where
  holds r given := imp r.value (gives.holds r given)

theorem gives_map {f : α → β} (m : Scanned s α) (holds : ∀ a, Q (f a)) : Gives Q (m.map f) := by
  cases m with
  | error stop => exact gives_error stop
  | ok r => exact gives_ok (holds r.value)

/-- Nothing is asked of a value that is not known. -/
theorem gives_true (m : Scanned s α) : Gives (fun _ => True) m := ⟨fun _ _ => trivial⟩

end Scanned

open Scanned

variable {s : List Char}

theorem gives_literal {first : Char} {letters : List Char} {v : Json} (low : v.height ≤ n) :
    Gives (·.height ≤ n) (literal first letters v s) := by
  unfold literal
  split
  · exact gives_error _
  · exact gives_ok low

theorem gives_numeralMember (s : List Char) : Gives (·.height ≤ 1) (numeralMember s) := by
  unfold numeralMember
  split
  · exact gives_error _
  · refine (Gives.andThen (gives_true _) fun text _ => ?_).within _
    split
    · exact gives_error _
    · unfold numeralEnd
      split
      · exact gives_error _
      · exact gives_ok (Nat.le_refl 1)
      · exact gives_error _
      · exact gives_error _
  · exact gives_error _

/- By induction on what is left of the text. Items and members that are still to be read
are in the rest behind the value before them. -/
mutual
/-- With room for some levels a text gives a value that is at most one level higher. -/
theorem gives_value (room : Nat) (s : List Char) :
    Gives (·.height ≤ room + 1) (value room s) := by
  have lowest : 1 ≤ room + 1 := Nat.succ_le_succ (Nat.zero_le room)
  rw [value]
  split
  · exact gives_error _
  · next r h =>
    have text : Gives (·.height ≤ room + 1) ((stringTail [] r).map str) :=
      gives_map _ fun _ => lowest
    exact text.within _
  · next r h =>
    -- An array takes one level of the room, and without any it is refused.
    have shorter := length_lt_of_skipGaps h
    cases room with
    | zero => exact gives_error _
    | succ room =>
      dsimp only
      split
      · exact gives_error _
      · exact gives_ok lowest
      · exact (gives_items room [] r (List.forall_mem_nil _)).within _
  · next r h =>
    have shorter := length_lt_of_skipGaps h
    cases room with
    | zero => exact gives_error _
    | succ room =>
      dsimp only
      split
      · exact gives_error _
      · exact gives_ok lowest
      · exact (gives_members room [] r (List.forall_mem_nil _)).within _
  · exact (gives_literal lowest).within _
  · exact (gives_literal lowest).within _
  · exact (gives_literal lowest).within _
  · next c r _ _ _ _ _ _ h =>
    split
    · have numeral : Gives (·.height ≤ room + 1) ((numeral (c :: r)).map num) :=
        gives_map _ fun _ => lowest
      exact numeral.within _
    · exact gives_error _
termination_by (s.length, 0)

/-- The items of an array are scanned with one level less of room. -/
theorem gives_items (room : Nat) (read : List Json) (s : List Char)
    (low : ∀ v ∈ read, v.height ≤ room + 1) :
    Gives (·.height ≤ room + 2) (items room read s) := by
  rw [items]
  refine (gives_value room s).andThen fun v lower => ?_
  have longer : ∀ w ∈ v.value :: read, w.height ≤ room + 1 :=
    List.forall_mem_cons.2 ⟨lower, low⟩
  split
  · exact gives_error _
  · exact gives_ok (height_arr_le fun w mem => longer w (List.mem_reverse.1 mem))
  · next r h =>
    have shorter := length_lt_of_skipGaps h
    have := v.shorter
    dsimp only
    split
    · exact gives_error _
    · exact gives_error _
    · exact (gives_items room (v.value :: read) r longer).within _
  · exact gives_error _
termination_by (s.length, 1)

/-- The members of an object are scanned with one level less of room. -/
theorem gives_members (room : Nat) (read : List (String × Json)) (s : List Char)
    (low : ∀ m ∈ read, m.2.height ≤ room + 1) :
    Gives (·.height ≤ room + 2) (members room read s) := by
  rw [members]
  split
  · next q h =>
    have shorter := length_lt_of_skipGaps h
    refine (Gives.andThen (gives_true _) fun key _ => ?_).within _
    have := key.shorter
    dsimp only
    split
    · exact (gives_numeralMember key.rest).imp fun _ low => Nat.le_trans low (by omega)
    · split
      · exact gives_error _
      · next p h' =>
        have shorter' := length_lt_of_skipGaps h'
        refine ((gives_value room p).andThen fun v lower => ?_).within _
        have := v.shorter
        have longer : ∀ m ∈ put key.value v.value read, m.2.height ≤ room + 1 :=
          forall_mem_put lower low
        split
        · exact gives_error _
        · exact gives_ok (height_obj_le longer)
        · next r h'' =>
          have shorter'' := length_lt_of_skipGaps h''
          split
          · exact gives_error _
          · exact gives_error _
          · exact (gives_members room (put key.value v.value read) r longer).within _
        · exact gives_error _
      · exact gives_error _
  · exact gives_error _
termination_by (s.length, 1)
end

/-- A value that is read from a text is at most one level higher than there was room. -/
theorem height_le_of_ofText {room : Nat} {text : String} {v : Json}
    (given : ofText room text = .ok v) : v.height ≤ room + 1 := by
  unfold ofText at given
  dsimp only at given
  split at given
  · cases given
  · next r read =>
    split at given
    · cases given
      exact (gives_value room text.toList).holds r read
    · cases given

end ProgramModel.Json
