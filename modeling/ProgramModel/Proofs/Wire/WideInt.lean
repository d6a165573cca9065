import ProgramModel.Constant.IntLiteral
import ProgramModel.Proofs.Json.Numeral
import ProgramModel.Proofs.Wire.Members
import ProgramModel.Proofs.Wire.Readers

/-!
Integers of a double word. A numeral is tried as a signed word, as an unsigned one and by
its text; the three attempts agree with reading the text alone (`wideInt?_num`), and what a
value reads as is the integer that its text denotes (`wideInt_exact`).
-/

namespace ProgramModel

open ProgramModel.Text

/-- The integer that a value writes out: a number without fraction and exponent, or a string
of digits with a sign, or none, before them, and blanks around. -/
inductive Json.Writes : Json → Int → Prop where
  | number {n : Json.Numeral} {i : Int} (decimal : Decimal n.text.toList i) : Writes (.num n) i
  | string {s : String} {core : List Char} {i : Int} (padded : Padded core s.toList)
      (signed : Signed core i) : Writes (.str s) i

namespace Reading

variable {v : Json} {i : WideInt} {o : Options}

/-- The attempts by words give nothing that the text of a numeral does not. -/
theorem wideInt?_num (n : Json.Numeral) :
    wideInt? (.num n) = (signed? n.text.toList).bind (Bounded.ofInt? _ _) := by
  have bySigned : ∀ w : WideInt,
      (n.integer?.bind (Bounded.ofInt? _ _)).map WireId.toWide = some w →
        n.integer? = some w.val := by
    intro w given
    obtain ⟨word, read, rfl⟩ := Option.map_eq_some_iff.1 given
    rw [Bounded.bind_ofInt?_eq_some_iff.1 read]
    rfl
  have byUnsigned : ∀ w : WideInt,
      (n.natural?.bind fun k => Bounded.ofInt? _ _ k).map Extent.toWide = some w →
        n.integer? = some w.val := by
    intro w given
    obtain ⟨word, read, rfl⟩ := Option.map_eq_some_iff.1 given
    obtain ⟨k, natural, within⟩ := Option.bind_eq_some_iff.1 read
    rw [Json.Numeral.integer?_of_natural? natural, ← Bounded.ofInt?_eq_some_iff.1 within]
    rfl
  -- Signed words come first, unsigned ones after them, and the text only when both are too small.
  simp only [wideInt?, Json.Numeral.signed?_text]
  cases signed : (n.integer?.bind (Bounded.ofInt? _ _)).map WireId.toWide with
  | some w => exact (Bounded.bind_ofInt?_eq_some_iff.2 (bySigned w signed)).symm
  | none =>
    cases unsigned : (n.natural?.bind fun k => Bounded.ofInt? _ _ k).map Extent.toWide with
    | some w => exact (Bounded.bind_ofInt?_eq_some_iff.2 (byUnsigned w unsigned)).symm
    | none => rfl

/-- The reader of wide integers gives the integer that a value writes, and none out of range. -/
theorem wideInt?_eq_some_iff : wideInt? v = some i ↔ v.Writes i.val := by
  cases v with
  | num n =>
    rw [wideInt?_num, Bounded.bind_ofInt?_eq_some_iff, Json.Numeral.signed?_text,
      ← Json.Numeral.decimal_text_iff]
    exact ⟨.number, fun | .number decimal => decimal⟩
  | str s =>
    rw [wideInt?, Bounded.bind_ofInt?_eq_some_iff, signed?_eq_some_iff, signed_trim_iff]
    exact ⟨fun ⟨_, padded, signed⟩ => .string padded signed,
      fun | .string padded signed => ⟨_, padded, signed⟩⟩
  | _ => exact ⟨nofun, nofun⟩

/-- The answer for a wide integer is exact. -/
theorem answer_wideInt_eq_ok_iff {context : String} :
    (wideInt v context).answer o = .ok i ↔ v.Writes i.val := by
  rw [← wideInt?_eq_some_iff, wideInt]
  cases wideInt? v with
  | some w => simp [answer_pure]
  | none => simp [mismatch, answer_throw]

/-- A value that writes out no integer of the range is a mismatch. -/
theorem answer_wideInt_of_forall_not {context : String} (nothing : ∀ i : WideInt, ¬v.Writes i.val) :
    (wideInt v context).answer o = .error (.shapeMismatch .wideInteger context v.glimpse) := by
  have unread : wideInt? v = none := by
    rw [Option.eq_none_iff_forall_ne_some]
    exact fun i read => nothing i (wideInt?_eq_some_iff.1 read)
  rw [wideInt, unread]
  rfl

/-! ### Literals -/

theorem answer_booleanField_eq_ok_iff {key context : String} {b : Bool} :
    (booleanField v key context).answer o = .ok b ↔ v.member? key = some (.bool b) := by
  have boolean_eq : ∀ w : Json, (boolean w context).answer o = .ok b ↔ w = .bool b := by
    intro w
    cases w with
    | bool b' => simp [boolean, answer_pure]
    | _ => simp [boolean, mismatch, answer_throw]
  rw [booleanField,
    answer_bind_eq_ok_iff (flat_field ..).regular fun _ => (flat_boolean ..).regular]
  simp only [answer_field_eq_ok_iff, boolean_eq]
  constructor
  · rintro ⟨w, found, same⟩
    rw [found, same]
  · intro found
    exact ⟨⟨.bool b, Json.child_of_member? found⟩, found, rfl⟩

/-- A literal is read from its three members, and keeps the value of one of them. -/
theorem answer_intLiteral_eq_ok_iff {l : IntLiteral} :
    (intLiteral v).answer o = .ok l ↔
      ∃ u, v.member? "unsigned" = some (.bool u) ∧ ∃ w, v.member? "value" = some w ∧
        ∃ i : WideInt, w.Writes i.val ∧ ∃ p, v.member? "is_pointer" = some (.bool p) ∧
          (if p && i.val == 0 then .null else ⟨i, u, false⟩) = l := by
  have flag (key : String) : Regular (booleanField v key "integer literal") :=
    (flat_booleanField ..).regular
  have value : Regular (field v "value" "integer literal") := (flat_field ..).regular
  have number (w : Json) : Regular (wideInt w "integer literal") := (flat_wideInt ..).regular
  have finish (u p : Bool) (i : WideInt) :
      (if p && i.val == 0 then pure .null else pure ⟨i, u, false⟩ : Reading IntLiteral) =
        pure (if p && i.val == 0 then .null else ⟨i, u, false⟩) := by
    split <;> rfl
  unfold intLiteral
  simp (disch := grind) only [finish, answer_bind_eq_ok_iff, answer_field_eq_ok_iff,
    answer_booleanField_eq_ok_iff, answer_wideInt_eq_ok_iff, answer_pure, Except.ok.injEq]
  constructor
  · rintro ⟨u, unsigned, w, found, rest⟩
    exact ⟨u, unsigned, w, found, rest⟩
  · rintro ⟨u, unsigned, w, found, rest⟩
    exact ⟨u, unsigned, ⟨w, Json.child_of_member? found⟩, found, rest⟩

/-- A pointer literal loses its mark, or is the null pointer; its value stays. -/
theorem exists_intLiteral_iff {k : Int} :
    (∃ l, (intLiteral v).answer o = .ok l ∧ l.value.val = k) ↔
      (∃ u, v.member? "unsigned" = some (.bool u)) ∧
      (∃ p, v.member? "is_pointer" = some (.bool p)) ∧
      ∃ w, v.member? "value" = some w ∧ ∃ i : WideInt, w.Writes i.val ∧ i.val = k := by
  have kept (u p : Bool) (i : WideInt) :
      (if p && i.val == 0 then .null else ⟨i, u, false⟩ : IntLiteral).value.val = i.val := by
    split
    · next zero => simp_all [IntLiteral.null]
    · rfl
  constructor
  · rintro ⟨l, given, rfl⟩
    obtain ⟨u, unsigned, w, found, i, writes, p, pointer, rfl⟩ :=
      answer_intLiteral_eq_ok_iff.1 given
    exact ⟨⟨u, unsigned⟩, ⟨p, pointer⟩, w, found, i, writes, (kept u p i).symm⟩
  · rintro ⟨⟨u, unsigned⟩, ⟨p, pointer⟩, w, found, i, writes, rfl⟩
    exact ⟨_, answer_intLiteral_eq_ok_iff.2 ⟨u, unsigned, w, found, i, writes, p, pointer, rfl⟩,
      kept u p i⟩

end Reading

/-- Wide integers are the integers of their range. -/
theorem WideInt.exists_val_iff {P : Int → Prop} {k : Int} :
    (∃ i : WideInt, P i.val ∧ i.val = k) ↔ P k ∧ -2 ^ 127 ≤ k ∧ k ≤ 2 ^ 127 - 1 := by
  constructor
  · rintro ⟨i, holds, rfl⟩
    exact ⟨holds, i.low_le, i.le_high⟩
  · rintro ⟨holds, low, high⟩
    exact ⟨⟨k, low, high⟩, holds, rfl⟩

/-- Integers are read exactly. A value reads as `k` if and only if it writes `k` out and a double
word holds `k`; any other value is a mismatch. What a number reads as is what its text reads as
by itself. Each integer of the range reads back from its number and from a string with its
digits, with zeros before them and blanks around. An integer literal has the value of its
member. -/
theorem wideInt_exact (o : Options) (context : String) :
    (∀ (v : Json) (k : Int),
      (∃ i : WideInt, (Reading.wideInt v context).answer o = .ok i ∧ i.val = k) ↔
        v.Writes k ∧ -2 ^ 127 ≤ k ∧ k ≤ 2 ^ 127 - 1) ∧
    (∀ v : Json, (∀ k : Int, -2 ^ 127 ≤ k → k ≤ 2 ^ 127 - 1 → ¬v.Writes k) →
      (Reading.wideInt v context).answer o =
        .error (.shapeMismatch .wideInteger context v.glimpse)) ∧
    (∀ n : Json.Numeral, Reading.wideInt? (.num n) =
      (signed? n.text.toList).bind (Bounded.ofInt? (-2 ^ 127) (2 ^ 127 - 1))) ∧
    (∀ i : WideInt, (Reading.wideInt (.ofInt i.val) context).answer o = .ok i ∧
      ∀ (s : String) (zeros : Nat), Padded (spelling zeros i.val) s.toList →
        (Reading.wideInt (.str s) context).answer o = .ok i) ∧
    ∀ (v : Json) (k : Int),
      (∃ l, (Reading.intLiteral v).answer o = .ok l ∧ l.value.val = k) ↔
        (∃ u, v.member? "unsigned" = some (.bool u)) ∧
        (∃ p, v.member? "is_pointer" = some (.bool p)) ∧
        ∃ w, v.member? "value" = some w ∧ w.Writes k ∧ -2 ^ 127 ≤ k ∧ k ≤ 2 ^ 127 - 1 := by
  refine ⟨fun v k => ?_, fun v nothing => ?_, Reading.wideInt?_num, fun i => ⟨?_, ?_⟩,
    fun v k => ?_⟩
  · simp only [Reading.answer_wideInt_eq_ok_iff, WideInt.exists_val_iff]
  · exact Reading.answer_wideInt_of_forall_not fun i => nothing i.val i.low_le i.le_high
  · refine Reading.answer_wideInt_eq_ok_iff.2 (.number ?_)
    rw [Json.Numeral.text_ofInt, ← spelling_zero]
    exact decimal_spelling 0 i.val
  · intro s zeros padded
    have signed := Signed.decimal (decimal_spelling zeros i.val)
    exact Reading.answer_wideInt_eq_ok_iff.2 (.string padded signed)
  · simp only [Reading.exists_intLiteral_iff, WideInt.exists_val_iff]

/-- The least integer of the range, with zeros and blanks in its text. -/
example : (Reading.wideInt? (.str " -00170141183460469231731687303715884105728\n")).map (·.val) =
    some (-2 ^ 127) := by
  decide +kernel

end ProgramModel
