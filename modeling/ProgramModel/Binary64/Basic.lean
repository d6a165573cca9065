/-!
Binary64 numbers as 64-bit words: a sign bit, eleven exponent bits and fifty-two
fraction bits. `same` is the comparison of numbers, not of words: it tells no two
zeros apart and accepts no NaN, not even beside itself.
-/

namespace ProgramModel

structure Binary64 where
  bits : BitVec 64
  deriving DecidableEq, Repr

namespace Binary64

def isNegative (x : Binary64) : Bool := x.bits.msb

/-- The eleven exponent bits as a number. -/
def biased (x : Binary64) : Nat := x.bits.toNat / Nat.pow 2 52 % Nat.pow 2 11

/-- The fifty-two fraction bits as a number. -/
def fraction (x : Binary64) : Nat := x.bits.toNat % Nat.pow 2 52

def isNaN (x : Binary64) : Bool := x.biased == 2047 && x.fraction != 0

def isInfinite (x : Binary64) : Bool := x.biased == 2047 && x.fraction == 0

def isFinite (x : Binary64) : Bool := x.biased != 2047

def isZero (x : Binary64) : Bool := x.biased == 0 && x.fraction == 0

/-- The one NaN that reading a document produces. -/
def nan : Binary64 := ⟨0x7FF8000000000000⟩

/-- The number `significand` times two to the power `exponent - 1074`, where the
implicit leading bit has been made explicit. Meant for finite numbers. -/
def significand (x : Binary64) : Nat :=
  if x.biased = 0 then x.fraction else Nat.pow 2 52 + x.fraction

/-- The power of two that the significand is multiplied by. -/
def exponent (x : Binary64) : Int :=
  if x.biased = 0 then -1074 else (x.biased : Int) - 1075

/-- Equality of numbers. -/
def same (x y : Binary64) : Bool :=
  !x.isNaN && !y.isNaN && (x.bits == y.bits || x.isZero && y.isZero)

theorem not_isFinite_iff (x : Binary64) :
    x.isFinite = false ↔ x.isNaN = true ∨ x.isInfinite = true := by
  cases h : x.fraction == 0 <;> simp_all [isFinite, isNaN, isInfinite]

end Binary64
end ProgramModel
