import Mathlib.Data.Nat.Digits.Defs
import ProgramModel.Text.Blank
import ProgramModel.Text.Digit

/-!
Decimal notation. `Natural`, `Decimal` and `Signed` say which texts denote a number, and
which one, without a reader: a natural number is written as one digit or more, a decimal
may have a minus before them, a signed decimal a plus as well. The readers of digits accept
these texts, with these numbers, and no others (`natural?_eq_some_iff`,
`signed?_eq_some_iff`). `spelling` is the usual text of an integer, with zeros before its
digits if need be; `Padded` puts blanks around a text, which trimming takes away again.
-/

namespace ProgramModel.Text

/-! ### Notation -/

/-- One digit or more, the most significant first. -/
def Natural (cs : List Char) (n : Nat) : Prop :=
  ∃ ds : List Digit, ds ≠ [] ∧ cs = ds.map Digit.char ∧ n = Nat.ofDigits 10 (ds.reverse.map Fin.val)

/-- An optional minus before the digits. -/
inductive Decimal : List Char → Int → Prop where
  | natural {cs : List Char} {n : Nat} (digits : Natural cs n) : Decimal cs n
  | negative {cs : List Char} {n : Nat} (digits : Natural cs n) : Decimal ('-' :: cs) (-n)

/-- An optional minus or an optional plus before the digits. -/
inductive Signed : List Char → Int → Prop where
  | decimal {cs : List Char} {i : Int} (digits : Decimal cs i) : Signed cs i
  | plus {cs : List Char} {n : Nat} (digits : Natural cs n) : Signed ('+' :: cs) n

/-- The decimal text of an integer, with zeros before its first digit. -/
def spelling (zeros : Nat) (i : Int) : List Char :=
  (if i < 0 then ['-'] else []) ++ (List.replicate zeros '0' ++ Nat.toDigits 10 i.natAbs)

/-- A text with blanks before and after it. -/
def Padded (core cs : List Char) : Prop :=
  ∃ before after, (∀ c ∈ before, isBlank c) ∧ (∀ c ∈ after, isBlank c) ∧
    cs = before ++ (core ++ after)

variable {cs core : List Char} {ds : List Digit} {n : Nat} {i j : Int}

/-! ### Digits -/

theorem Digit.ofChar?_eq_some_iff {c : Char} {d : Digit} :
    Digit.ofChar? c = some d ↔ c = d.char := by
  constructor
  · intro read
    unfold Digit.ofChar? at read
    split at read
    · next within =>
      cases read
      rw [Digit.char, Nat.add_sub_cancel' within.1, Char.ofNat_toNat]
    · cases read
  · rintro rfl
    exact Digit.ofChar?_char d

theorem Digit.isDigit_char (d : Digit) : d.char.isDigit = true := by
  revert d; decide

/-- The digits of a text are what it is written with. -/
theorem digits?_eq_some_iff : digits? cs = some ds ↔ cs = ds.map Digit.char := by
  rw [digits?]
  induction cs generalizing ds with
  | nil => cases ds <;> simp
  | cons c cs ih =>
    simp only [List.mapM_cons, Option.bind_eq_bind, Option.pure_def, Option.bind_eq_some_iff,
      Option.some.injEq, ih, Digit.ofChar?_eq_some_iff]
    constructor
    · rintro ⟨d, rfl, ds, rfl, rfl⟩
      rfl
    · intro same
      obtain ⟨d, ds, rfl, rfl, rfl⟩ := List.map_eq_cons_iff.1 same.symm
      exact ⟨d, rfl, ds, rfl, rfl⟩

/-- The value of a run of digits is that of its digits to the base ten. -/
theorem digitsValue_eq (ds : List Digit) :
    digitsValue ds = Nat.ofDigits 10 (ds.reverse.map Fin.val) := by
  rw [Nat.ofDigits_eq_foldr, List.foldr_map, List.foldr_reverse, digitsValue]
  simp only [Nat.cast_id, add_comm]

/-! ### Readers -/

/-- The reader of natural numbers is exact. -/
theorem natural?_eq_some_iff : natural? cs = some n ↔ Natural cs n := by
  have read : natural? cs = if cs = [] then none else (digits? cs).map digitsValue := by
    cases cs <;> rfl
  rw [read]
  constructor
  · intro found
    split at found
    · cases found
    · next nonempty =>
      obtain ⟨ds, digits, rfl⟩ := Option.map_eq_some_iff.1 found
      obtain rfl := digits?_eq_some_iff.1 digits
      exact ⟨ds, fun noDigits => nonempty (by rw [noDigits]; rfl), rfl, digitsValue_eq ds⟩
  · rintro ⟨ds, nonempty, rfl, rfl⟩
    rw [if_neg (by simpa using nonempty), digits?_eq_some_iff.2 rfl, Option.map_some,
      digitsValue_eq]

/-- A text that begins with a sign is no run of digits. -/
theorem not_natural_cons {c : Char} (sign : c.isDigit = false) : ¬Natural (c :: cs) n := by
  rintro ⟨ds, nonempty, same, -⟩
  obtain ⟨d, rest, rfl, rfl, rfl⟩ := List.map_eq_cons_iff.1 same.symm
  rw [d.isDigit_char] at sign
  cases sign

/-- The reader of numbers with a sign is exact. -/
theorem signed?_eq_some_iff : signed? cs = some i ↔ Signed cs i := by
  constructor
  · intro read
    unfold signed? at read
    split at read <;> obtain ⟨n, found, rfl⟩ := Option.map_eq_some_iff.1 read
    · exact .plus (natural?_eq_some_iff.1 found)
    · exact .decimal (.negative (natural?_eq_some_iff.1 found))
    · exact .decimal (.natural (natural?_eq_some_iff.1 found))
  · intro signed
    cases signed with
    | plus digits => rw [signed?, natural?_eq_some_iff.2 digits, Option.map_some]
    | decimal decimal =>
      cases decimal with
      | negative digits => rw [signed?, natural?_eq_some_iff.2 digits, Option.map_some]
      | natural digits =>
        unfold signed?
        split
        · exact absurd digits (not_natural_cons rfl)
        · exact absurd digits (not_natural_cons rfl)
        · rw [natural?_eq_some_iff.2 digits, Option.map_some]

/-! ### Characters -/

theorem Natural.digit_of_mem (digits : Natural cs n) {c : Char} (mem : c ∈ cs) :
    c.isDigit = true := by
  obtain ⟨ds, -, rfl, -⟩ := digits
  obtain ⟨d, -, rfl⟩ := List.mem_map.1 mem
  exact d.isDigit_char

theorem Decimal.of_mem (decimal : Decimal cs i) {c : Char} (mem : c ∈ cs) :
    c = '-' ∨ c.isDigit = true := by
  cases decimal with
  | natural digits => exact .inr (digits.digit_of_mem mem)
  | negative digits =>
    rcases List.mem_cons.1 mem with rfl | mem
    · exact .inl rfl
    · exact .inr (digits.digit_of_mem mem)

/-- Numbers are written with signs and digits only. -/
theorem Signed.of_mem (signed : Signed cs i) {c : Char} (mem : c ∈ cs) :
    c = '+' ∨ c = '-' ∨ c.isDigit = true := by
  cases signed with
  | decimal decimal => exact .inr (decimal.of_mem mem)
  | plus digits =>
    rcases List.mem_cons.1 mem with rfl | mem
    · exact .inl rfl
    · exact .inr (.inr (digits.digit_of_mem mem))

theorem isBlank_eq_false_of_isDigit {c : Char} (digit : c.isDigit = true) : isBlank c = false := by
  simp only [Char.isDigit, Bool.and_eq_true, decide_eq_true_eq, ge_iff_le,
    UInt32.le_iff_toNat_le] at digit
  have low : 48 ≤ c.toNat := digit.1
  have high : c.toNat ≤ 57 := digit.2
  simp [isBlank]
  omega

/-- No blank is part of a number. -/
theorem Signed.isBlank_eq_false (signed : Signed cs i) {c : Char} (mem : c ∈ cs) :
    isBlank c = false := by
  rcases signed.of_mem mem with rfl | rfl | digit
  · rfl
  · rfl
  · exact isBlank_eq_false_of_isDigit digit

/-! ### Usual texts -/

/-- Zeros before the digits do not change the number. -/
theorem Natural.zeros (zeros : Nat) (digits : Natural cs n) :
    Natural (List.replicate zeros '0' ++ cs) n := by
  obtain ⟨ds, nonempty, rfl, rfl⟩ := digits
  refine ⟨List.replicate zeros 0 ++ ds, by simp [nonempty], ?_, ?_⟩
  · rw [List.map_append, List.map_replicate]
    rfl
  · simp [Nat.ofDigits_append]

/-- The usual digits of a number are read as this number. -/
theorem natural_toDigits (n : Nat) : Natural (Nat.toDigits 10 n) n := by
  induction n using Nat.strongRecOn with
  | ind n ih =>
    rw [Nat.toDigits_eq_if (by decide)]
    split
    · next small => exact ⟨[⟨n, small⟩], by simp, by simp [← Digit.digitChar_eq], by simp⟩
    · next large =>
      obtain ⟨ds, nonempty, digits, value⟩ := ih (n / 10) (by omega)
      let last : Digit := ⟨n % 10, Nat.mod_lt n (by decide)⟩
      refine ⟨ds ++ [last], by simp, ?_, ?_⟩
      · rw [digits, List.map_append, List.map_singleton, ← Digit.digitChar_eq]
      · rw [List.reverse_append, List.reverse_singleton, List.singleton_append, List.map_cons,
          Nat.ofDigits_cons, ← value]
        exact (Nat.mod_add_div n 10).symm

/-- Zeros in front do not change the number, with or without a minus sign. -/
theorem decimal_spelling (zeros : Nat) (i : Int) : Decimal (spelling zeros i) i := by
  have digits := (natural_toDigits i.natAbs).zeros zeros
  unfold spelling
  split
  · next negative =>
    have decimal := Decimal.negative digits
    rwa [show -(i.natAbs : Int) = i by omega] at decimal
  · next nonneg =>
    have decimal := Decimal.natural digits
    rwa [show (i.natAbs : Int) = i by omega] at decimal

/-- Without zeros in front the spelling is the usual one. -/
theorem spelling_zero (i : Int) : spelling 0 i = (toString i).toList := by
  cases i with
  | ofNat n => exact Nat.toList_repr.symm
  | negSucc n =>
    have text : toString (Int.negSucc n) = "-" ++ (n + 1).repr := rfl
    rw [text, String.toList_append, Nat.toList_repr, spelling, if_pos (Int.negSucc_lt_zero n)]
    rfl

/-! ### Blanks at the ends -/

/-- A text is what trimming leaves of it, with blanks around. -/
theorem padded_trim (cs : List Char) : Padded (trim cs) cs := by
  have left : cs.takeWhile isBlank ++ trimLeft cs = cs := List.takeWhile_append_dropWhile
  have right : (trimLeft cs).reverse.takeWhile isBlank ++ trimLeft (trimLeft cs).reverse =
    (trimLeft cs).reverse := List.takeWhile_append_dropWhile
  refine ⟨cs.takeWhile isBlank, ((trimLeft cs).reverse.takeWhile isBlank).reverse, ?_, ?_, ?_⟩
  · exact List.all_eq_true.1 List.all_takeWhile
  · exact fun c mem => List.all_eq_true.1 List.all_takeWhile c (List.mem_reverse.1 mem)
  · rw [trim, ← List.reverse_append, right, List.reverse_reverse, left]

theorem trimLeft_append {before : List Char} (blank : ∀ c ∈ before, isBlank c) (cs : List Char) :
    trimLeft (before ++ cs) = trimLeft cs :=
  List.dropWhile_append_of_pos blank

theorem trimLeft_cons {c : Char} (solid : isBlank c = false) (cs : List Char) :
    trimLeft (c :: cs) = c :: cs :=
  List.dropWhile_cons_of_neg (by simp [solid])

/-- A text without blanks is left alone. -/
theorem trimLeft_eq_self (solid : ∀ c ∈ cs, isBlank c = false) : trimLeft cs = cs := by
  cases cs with
  | nil => rfl
  | cons c rest => exact trimLeft_cons (solid c List.mem_cons_self) rest

/-- Trimming takes the blanks around a text away, and none of the text. -/
theorem Padded.trim_eq (padded : Padded core cs) (solid : ∀ c ∈ core, isBlank c = false) :
    trim cs = core := by
  obtain ⟨before, after, blank, blank', rfl⟩ := padded
  have blank'' : ∀ c ∈ after.reverse, isBlank c := fun c mem => blank' c (List.mem_reverse.1 mem)
  rw [trim, trimLeft_append blank]
  cases core with
  | nil =>
    rw [List.nil_append, ← List.append_nil after, trimLeft_append blank']
    rfl
  | cons c rest =>
    rw [List.cons_append, trimLeft_cons (solid c List.mem_cons_self), ← List.cons_append,
      List.reverse_append, trimLeft_append blank'',
      trimLeft_eq_self fun d mem => solid d (List.mem_reverse.1 mem), List.reverse_reverse]

/-- The texts that are a signed decimal once trimmed are the padded signed decimals. -/
theorem signed_trim_iff : Signed (trim cs) i ↔ ∃ core, Padded core cs ∧ Signed core i := by
  constructor
  · intro signed
    exact ⟨trim cs, padded_trim cs, signed⟩
  · rintro ⟨core, padded, signed⟩
    rwa [padded.trim_eq fun _ mem => signed.isBlank_eq_false mem]

end ProgramModel.Text
