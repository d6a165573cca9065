import ProgramModel.Binary64.Basic

/-!
The binary64 number nearest to a fraction, with a tie going to the even
significand, and nearest to a decimal. All arithmetic is on natural numbers; a
decimal far outside the range is decided by its order of magnitude, so that no
power of ten grows with the written exponent.
-/

namespace ProgramModel.Binary64

/-- The quotient rounded to the nearest whole number, a half to the even one. -/
def roundHalfEven (num den : Nat) : Nat :=
  let q := num / den
  let r := num % den
  if 2 * r < den then q
  else if 2 * r = den then q + q % 2
  else q + 1

/-- The first word that is not a finite number, the sign apart. -/
def infinityBits : Nat := 2047 * Nat.pow 2 52

def ofParts (negative : Bool) (magnitude : Nat) : Binary64 :=
  ⟨BitVec.ofNat 64 (if negative then Nat.pow 2 63 + magnitude else magnitude)⟩

/-- The word with its sign bit turned over. -/
def negate (x : Binary64) : Binary64 := ⟨x.bits ^^^ BitVec.ofNat 64 (Nat.pow 2 63)⟩

def zero (negative : Bool) : Binary64 := ofParts negative 0

def infinity (negative : Bool) : Binary64 := ofParts negative infinityBits

/-- The power of two at which a quotient has a significand of fifty-three bits, or
the least power there is. -/
def scale (num den : Nat) : Int :=
  let guess : Int := max (-1074) ((num.log2 : Int) - den.log2 - 53)
  let fits := if guess < 0 then num * Nat.pow 2 guess.natAbs < den * Nat.pow 2 53
    else num < den * Nat.pow 2 guess.natAbs * Nat.pow 2 53
  if fits then guess else guess + 1

/-- The number nearest to `num / den`; too large a quotient gives an infinity. -/
def ofFraction (negative : Bool) (num den : Nat) : Binary64 :=
  if num = 0 then zero negative
  else
    let e := scale num den
    let m := if e < 0 then roundHalfEven (num * Nat.pow 2 e.natAbs) den
      else roundHalfEven num (den * Nat.pow 2 e.natAbs)
    -- A significand rounded up to 2^53 carries into the exponent bits by itself.
    let magnitude := (e + 1074).toNat * Nat.pow 2 52 + m
    ofParts negative (min magnitude infinityBits)

/-- The number nearest to `digits` times ten to the power `exponent`. -/
def ofDecimal (negative : Bool) (digits : Nat) (exponent : Int) : Binary64 :=
  let order : Int := (Nat.toDigits 10 digits).length + exponent
  if digits = 0 || order < -330 then zero negative
  else if 330 < order then infinity negative
  else if exponent < 0 then ofFraction negative digits (Nat.pow 10 exponent.natAbs)
  else ofFraction negative (digits * Nat.pow 10 exponent.natAbs) 1

end ProgramModel.Binary64
