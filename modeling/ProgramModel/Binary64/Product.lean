import ProgramModel.Binary64.Nearest

/-!
Products and quotients of finite binary64 numbers, each rounded once.
-/

namespace ProgramModel.Binary64

/-- `num / den` times two to the power `e`, rounded once. -/
private def ofScaled (negative : Bool) (num den : Nat) (e : Int) : Binary64 :=
  ofFraction negative (num * Nat.pow 2 e.toNat) (den * Nat.pow 2 (-e).toNat)

/-- The product of two finite numbers. -/
def mul (x y : Binary64) : Binary64 :=
  ofScaled (x.isNegative != y.isNegative) (x.significand * y.significand) 1
    (x.exponent + y.exponent)

/-- The quotient of two finite numbers, the second of which is not zero. -/
def div (x y : Binary64) : Binary64 :=
  ofScaled (x.isNegative != y.isNegative) x.significand y.significand (x.exponent - y.exponent)

end ProgramModel.Binary64
