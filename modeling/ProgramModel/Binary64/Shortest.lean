import ProgramModel.Binary64.Basic

/-!
The shortest decimal that reads back as a given binary64 number, and its written
forms. Among the decimals inside the interval of reals that round to the number,
`shortest` takes one with the fewest digits and, of those, the nearest.
-/

namespace ProgramModel.Binary64

/-- The number `digits` times ten to the power `exponent`. -/
structure Decimal where
  digits : Nat
  exponent : Int
  deriving DecidableEq, Repr

/-- Which of two decimals equally near to the number is taken. -/
inductive Tie where
  | up
  | even
  deriving DecidableEq, Repr

/-- The reals that round to a finite number, as multiples of two to the power
`unit`: from `low` to `high` around `value`, the ends included when `closed`. -/
structure Interval where
  low : Nat
  value : Nat
  high : Nat
  unit : Int
  closed : Bool

/-- The gap below a power of two is half the gap above it, the least normal number apart. -/
def interval (x : Binary64) : Interval :=
  let m := x.significand
  let below := if x.fraction = 0 && 1 < x.biased then 1 else 2
  ⟨4 * m - below, 4 * m, 4 * m + 2, x.exponent - 2, m % 2 == 0⟩

/-- `a` times two to the power `e` as a fraction over ten to the power `k`. -/
def scaled (a : Nat) (e k : Int) : Nat × Nat :=
  (a * Nat.pow 2 e.toNat * Nat.pow 10 (-k).toNat, Nat.pow 2 (-e).toNat * Nat.pow 10 k.toNat)

/-- The nearest multiple of ten to the power `k` inside the interval, if there is
any. Only the two neighbours of the value can be it. -/
def candidate (i : Interval) (tie : Tie) (k : Int) : Option Nat :=
  let (value, den) := scaled i.value i.unit k
  let (low, _) := scaled i.low i.unit k
  let (high, _) := scaled i.high i.unit k
  let inside (n : Nat) : Bool :=
    0 < n && (low < n * den && n * den < high || i.closed && (n * den = low || n * den = high))
  let floor := value / den
  match inside floor, inside (floor + 1) with
  | false, false => none
  | true, false => some floor
  | false, true => some (floor + 1)
  | true, true =>
    let rest := 2 * (value % den)
    if rest < den then some floor
    else if den < rest then some (floor + 1)
    else match tie with
      | .up => some (floor + 1)
      | .even => some (floor + floor % 2)

/-- Tries ever finer powers of ten, from `k` on. -/
def refine (i : Interval) (tie : Tie) : Nat → Int → Decimal
  | 0, k => ⟨let (value, den) := scaled i.value i.unit k; value / den, k⟩
  | fuel + 1, k =>
    match candidate i tie k with
    | some n => ⟨n, k⟩
    | none => refine i tie fuel (k - 1)

/-- An exponent of ten above that of the number, at most three above it. -/
def decimalBound (x : Binary64) : Int :=
  ((x.significand.log2 : Int) + x.exponent + 1) * 30103 / 100000 + 1

/-- Seventeen digits always suffice, so twenty-four powers of ten are enough to try. -/
def shortest (x : Binary64) (tie : Tie) : Decimal :=
  if x.isZero then ⟨0, 0⟩ else refine x.interval tie 24 x.decimalBound

/-! ### Written forms -/

private def zeros (n : Nat) : List Char := List.replicate n '0'

private def sign (x : Binary64) : List Char := if x.isNegative then ['-'] else []

/-- Digits with the point in its place and no exponent, whatever the magnitude; a
whole number has no point. -/
def Decimal.positional (d : Decimal) : List Char :=
  let ds := Nat.toDigits 10 d.digits
  let point : Int := ds.length + d.exponent
  if 0 ≤ d.exponent then ds ++ zeros d.exponent.toNat
  else if 0 < point then ds.take point.toNat ++ '.' :: ds.drop point.toNat
  else '0' :: '.' :: (zeros (-point).toNat ++ ds)

/-- One digit before the point, and the power of ten after an `e`, always with a sign. -/
def Decimal.scientific (d : Decimal) : List Char :=
  let ds := Nat.toDigits 10 d.digits
  let power : Int := ds.length + d.exponent - 1
  let mantissa := match ds with
    | [] | [_] => ds
    | lead :: more => lead :: '.' :: more
  mantissa ++ 'e' :: (if power < 0 then '-' else '+') :: Nat.toDigits 10 power.natAbs

/-- The form a float constant is shown in. -/
def text (x : Binary64) : String :=
  if x.isNaN then "NaN"
  else if x.isInfinite then String.ofList (sign x ++ "inf".toList)
  else String.ofList (sign x ++ (x.shortest .up).positional)

/-- The form a count that is no whole number is shown in: it always has a point or
an exponent, and is positional from 1e-5 to below 1e16. -/
def measureText (x : Binary64) : String :=
  if x.isNaN then "NaN"
  else if x.isInfinite then String.ofList (sign x ++ "inf".toList)
  else
    let d := x.shortest .even
    let point : Int := (Nat.toDigits 10 d.digits).length + d.exponent
    let body :=
      if 0 ≤ d.exponent && point ≤ 16 then d.positional ++ ['.', '0']
      else if -5 < point && point ≤ 16 then d.positional
      else d.scientific
    String.ofList (sign x ++ body)

end ProgramModel.Binary64
