import ProgramModel.Text.Digit
import ProgramModel.Binary64.Nearest
import ProgramModel.Binary64.Shortest

/-!
Numbers as they are written in JSON. A numeral keeps every digit of its text, so
that it can be shown again and read exactly; only the exponent mark is brought to
one form. Readings: `integer?` is exact and admits neither fraction nor exponent,
`binary64?` is the nearest finite number.
-/

namespace ProgramModel.Json

open ProgramModel.Text

/-- One digit or more. -/
structure DigitRun where
  lead : Digit
  more : List Digit
  deriving DecidableEq, Repr

namespace DigitRun

def digits (r : DigitRun) : List Digit := r.lead :: r.more

def value (r : DigitRun) : Nat := digitsValue r.digits

def text (r : DigitRun) : List Char := r.digits.map Digit.char

end DigitRun

/-- The exponent of a numeral; its digits may begin with zeros. -/
structure Exponent where
  negative : Bool
  run : DigitRun
  deriving DecidableEq, Repr

namespace Exponent

def value (e : Exponent) : Int := if e.negative then -(e.run.value : Int) else e.run.value

/-- The mark is a small `e` and the sign is always written. -/
def text (e : Exponent) : List Char := 'e' :: (if e.negative then '-' else '+') :: e.run.text

end Exponent

structure Numeral where
  negative : Bool
  whole : DigitRun
  fraction : Option DigitRun
  exponent : Option Exponent
  deriving DecidableEq, Repr

namespace Numeral

def text (n : Numeral) : String :=
  String.ofList <|
    (if n.negative then ['-'] else []) ++ n.whole.text ++
    (match n.fraction with | none => [] | some f => '.' :: f.text) ++
    (match n.exponent with | none => [] | some e => e.text)

def isPlain (n : Numeral) : Bool := n.fraction.isNone && n.exponent.isNone

/-- The integer a numeral without fraction and exponent denotes. -/
def integer? (n : Numeral) : Option Int :=
  if n.isPlain then some (if n.negative then -(n.whole.value : Int) else n.whole.value) else none

/-- The integer of a plain numeral without a sign. Minus zero is written with one. -/
def natural? (n : Numeral) : Option Nat :=
  if n.isPlain && !n.negative then some n.whole.value else none

/-- The nearest binary64 number, an infinity for a numeral beyond the finite ones. -/
def nearest (n : Numeral) : Binary64 :=
  let parts := match n.fraction with | none => [] | some f => f.digits
  let power := match n.exponent with | none => 0 | some e => e.value
  Binary64.ofDecimal n.negative (digitsValue (n.whole.digits ++ parts)) (power - parts.length)

def binary64? (n : Numeral) : Option Binary64 :=
  if n.nearest.isFinite then some n.nearest else none

theorem isFinite_of_binary64? {n : Numeral} {x : Binary64} (h : n.binary64? = some x) :
    x.isFinite = true := by
  unfold binary64? at h
  split at h
  · next finite => cases h; exact finite
  · cases h

/-- The decimal digits of a number, as few as there can be. -/
private def runOf (n : Nat) : DigitRun :=
  if h : n < 10 then ⟨⟨n, h⟩, []⟩
  else
    let r := runOf (n / 10)
    ⟨r.lead, r.more ++ [⟨n % 10, by omega⟩]⟩

/-- The plain numeral of an integer. -/
def ofInt (i : Int) : Numeral := ⟨i < 0, runOf i.natAbs, none, none⟩

/-- The numeral of a decimal: its digits as a whole number, and the power of ten. -/
def ofDecimal (negative : Bool) (d : Binary64.Decimal) : Numeral :=
  ⟨negative, runOf d.digits, none, some ⟨d.exponent < 0, runOf d.exponent.natAbs⟩⟩

private theorem digitsValue_append (ds : List Digit) (d : Digit) :
    digitsValue (ds ++ [d]) = 10 * digitsValue ds + d.val := by
  simp [digitsValue]

private theorem runOf_value (n : Nat) : (runOf n).value = n := by
  fun_induction runOf n with
  | case1 n h => simp [DigitRun.value, DigitRun.digits, digitsValue]
  | case2 n h r ih =>
    have digits : ({ lead := r.lead, more := r.more ++ [⟨n % 10, by omega⟩] } : DigitRun).digits =
        r.digits ++ [⟨n % 10, by omega⟩] := rfl
    simp only [DigitRun.value] at ih ⊢
    rw [digits, digitsValue_append, ih]
    simp only
    omega

private theorem runOf_text (n : Nat) : (runOf n).text = Nat.toDigits 10 n := by
  fun_induction runOf n with
  | case1 n h =>
    rw [Nat.toDigits_of_lt_base h, DigitRun.text, DigitRun.digits, List.map_singleton,
      ← Digit.digitChar_eq]
  | case2 n h r ih =>
    have text : ({ lead := r.lead, more := r.more ++ [⟨n % 10, by omega⟩] } : DigitRun).text =
        r.text ++ [Digit.char ⟨n % 10, by omega⟩] := by
      simp [DigitRun.text, DigitRun.digits]
    rw [text, Nat.toDigits_of_base_le (by decide) (by omega), ← ih, ← Digit.digitChar_eq]

theorem toList_text_ofInt (i : Int) :
    (ofInt i).text.toList = (if i < 0 then ['-'] else []) ++ Nat.toDigits 10 i.natAbs := by
  simp [text, ofInt, runOf_text]

/-- The numeral of an integer reads back as that integer. -/
theorem integer?_ofInt (i : Int) : (ofInt i).integer? = some i := by
  simp only [integer?, ofInt, isPlain, runOf_value, Option.isNone_none, Bool.and_self,
    if_true, decide_eq_true_eq, Option.some.injEq]
  split <;> omega

/-- An integer that is not negative is written without a sign. -/
theorem natural?_ofInt {i : Int} (nonneg : 0 ≤ i) : (ofInt i).natural? = some i.toNat := by
  have unsigned : decide (i < 0) = false := decide_eq_false (Int.not_lt.2 nonneg)
  simp only [natural?, ofInt, isPlain, runOf_value, unsigned, Option.isNone_none, Bool.and_self,
    Bool.not_false, if_true, Option.some.injEq]
  omega

end Numeral
end ProgramModel.Json
