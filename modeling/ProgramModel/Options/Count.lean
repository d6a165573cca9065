import ProgramModel.Json.Refusal
import ProgramModel.Binary64.Product
import ProgramModel.Binary64.Shortest

/-!
A count: a whole number below 2^64, read where a text describes options. A numeral
that is no count is refused by what it is instead: a negative integer, or a number
that is only approximately what was written. The approximation keeps as many leading
digits as a count can hold and rounds after each product with a power of ten.
-/

namespace ProgramModel.Options

open ProgramModel.Json ProgramModel.Text

def countLimit : Nat := 0x10000000000000000

/-- The digits that are taken up as long as a count can hold them: the count reached
and the number of digits taken. -/
def absorb (n : Nat) : List Digit → Nat × Nat
  | [] => (n, 0)
  | d :: ds =>
    if 10 * n + d.val < countLimit then
      let (m, taken) := absorb (10 * n + d.val) ds
      (m, taken + 1)
    else (n, 0)

/-- Powers of ten beyond this one are reached in several factors. -/
def powerLimit : Int := 308

/-- `x` times ten to the power `e`, rounded once for each factor, or nothing when it
grows beyond the finite numbers. -/
def timesPower (x : Binary64) (e : Int) : Option Binary64 :=
  if powerLimit < e then if x.isZero then some x else none
  else if 0 ≤ e then
    let y := x.mul (.ofDecimal false 1 e)
    if y.isFinite then some y else none
  else if -powerLimit ≤ e then some (x.div (.ofDecimal false 1 (-e)))
  else if x.isZero then some x
  else timesPower (x.div (.ofDecimal false 1 powerLimit)) (e + powerLimit)
termination_by (-e).toNat
decreasing_by simp only [powerLimit] at *; omega

/-- The number of exponent digits after which the exponent is beyond 31 bits, if it is. -/
def exponentOverflow (n : Nat) : List Digit → Option Nat
  | [] => none
  | d :: ds =>
    if 0x80000000 ≤ 10 * n + d.val then some 1
    else (exponentOverflow (10 * n + d.val) ds).map (· + 1)

/-- The approximation of a numeral, followed by `rest` in its text. -/
def approximate (n : Numeral) (rest : List Char) : Except Stop Binary64 :=
  let whole := n.whole.digits
  let (head, takenWhole) := absorb 0 whole
  let fraction := match n.fraction with | none => [] | some f => f.digits
  let (digits, takenFraction) := absorb head fraction
  let power : Int := (whole.length - takenWhole : Nat) - (takenFraction : Int)
  let unsigned : Except Stop Binary64 :=
    match n.exponent with
    | none => scaledBy digits power rest
    | some e =>
      match exponentOverflow 0 e.run.digits with
      | none => scaledBy digits (power + e.value) rest
      | some read =>
        if digits ≠ 0 ∧ ¬ e.negative then
          .error ⟨.numberTooLarge, byteLength rest + (e.run.digits.length - read), none⟩
        else .ok (.zero false)
  unsigned.map fun x => if n.negative then x.negate else x
where
  /-- The digits times a power of ten, or the defect of a number too large. -/
  scaledBy (digits : Nat) (power : Int) (rest : List Char) : Except Stop Binary64 :=
    match timesPower (.ofDecimal false digits 0) power with
    | some x => .ok x
    | none => .error (.before .numberTooLarge rest)

/-- What a text describes where a count is read. -/
inductive Measure where
  | count (n : Nat)
  | negative (n : Nat)
  | approximate (x : Binary64)

/-- A negative integer that a signed word can hold stays exact. Minus zero is a number
that only approximates. -/
def measure (n : Numeral) (rest : List Char) : Except Stop Measure :=
  let digits := n.whole.value
  if n.isPlain && !n.negative && digits < countLimit then .ok (.count digits)
  else if n.isPlain && n.negative && 0 < digits && digits ≤ 0x8000000000000000 then
    .ok (.negative digits)
  else (approximate n rest).map .approximate

def count (s : List Char) : Scanned s Nat :=
  match numeral s with
  | .error e => .error e
  | .ok n =>
    match measure n.value n.rest with
    | .error e => .error e
    | .ok (.count k) => .ok ⟨k, n.rest, n.shorter⟩
    | .ok (.negative k) =>
      .error (.before (.wrongValue (foundInteger ("-" ++ toString k)) "usize") n.rest)
    | .ok (.approximate x) =>
      .error (.before (.wrongType ("floating point `" ++ x.measureText ++ "`") "usize") n.rest)

end ProgramModel.Options
