import ProgramModel.Json.Numeral
import ProgramModel.Proofs.Text.Decimal

/-!
Numerals and their texts. The text of a numeral is a decimal exactly when the numeral has
neither fraction nor exponent, and denotes the integer that the numeral reads as; a reader
that looks at the text alone finds the same integer (`signed?_text`).
-/

namespace ProgramModel.Json

open ProgramModel.Text

theorem DigitRun.natural_text (r : DigitRun) : Natural r.text r.value :=
  ⟨r.digits, by simp [DigitRun.digits], rfl, digitsValue_eq _⟩

namespace Numeral

variable {n : Numeral} {i : Int}

/-- A numeral that is read as an integer is written in decimal notation. -/
theorem decimal_text (read : n.integer? = some i) : Decimal n.text.toList i := by
  obtain ⟨negative, whole, fraction, exponent⟩ := n
  unfold integer? at read
  split at read
  · next plain =>
    simp only [isPlain, Bool.and_eq_true, Option.isNone_iff_eq_none] at plain
    obtain ⟨rfl, rfl⟩ := plain
    simp only [text, String.toList_ofList, List.append_nil]
    cases negative <;> cases read
    · exact .natural whole.natural_text
    · exact .negative whole.natural_text
  · cases read

/-- A point or an exponent mark would show in the text. -/
theorem isPlain_of_signed (signed : Signed n.text.toList i) : n.isPlain = true := by
  have noPoint : n.fraction = none := by
    cases given : n.fraction with
    | none => rfl
    | some f => exact absurd (signed.of_mem (c := '.') (by simp [text, given])) (by decide)
  have noMark : n.exponent = none := by
    cases given : n.exponent with
    | none => rfl
    | some e =>
      exact absurd (signed.of_mem (c := 'e') (by simp [text, given, Exponent.text])) (by decide)
  simp [isPlain, noPoint, noMark]

/-- The text of a numeral reads as the integer of the numeral. -/
theorem signed?_text (n : Numeral) : signed? n.text.toList = n.integer? := by
  cases read : n.integer? with
  | some i => exact signed?_eq_some_iff.2 (.decimal (decimal_text read))
  | none =>
    rw [Option.eq_none_iff_forall_ne_some]
    intro i found
    have plain := isPlain_of_signed (signed?_eq_some_iff.1 found)
    simp [integer?, plain] at read

/-- The integers of numerals are those of their texts. -/
theorem decimal_text_iff : Decimal n.text.toList i ↔ n.integer? = some i := by
  constructor
  · intro decimal
    rw [← signed?_text]
    exact signed?_eq_some_iff.2 (.decimal decimal)
  · exact decimal_text

/-- A numeral without a sign that reads as a natural number is an integer as well. -/
theorem integer?_of_natural? {k : Nat} (read : n.natural? = some k) :
    n.integer? = some (k : Int) := by
  unfold natural? at read
  split at read
  · next given =>
    cases read
    simp_all [integer?]
  · cases read

/-- The numeral of an integer is its usual text. -/
theorem text_ofInt (i : Int) : (ofInt i).text = toString i := by
  rw [← String.toList_inj, toList_text_ofInt, ← spelling_zero]
  rfl

end Numeral
end ProgramModel.Json
