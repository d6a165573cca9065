/-!
Decimal digits and the integers they denote. `signed?` reads a whole text as an
integer with at most one sign; it accepts leading zeros and nothing but digits
after the sign.
-/

namespace ProgramModel.Text

abbrev Digit := Fin 10

namespace Digit

def char (d : Digit) : Char := Char.ofNat (48 + d.val)

/-- The digit an ASCII character stands for. Digits of other scripts are none. -/
def ofChar? (c : Char) : Option Digit :=
  if h : 48 ≤ c.toNat ∧ c.toNat < 58 then some ⟨c.toNat - 48, by omega⟩ else none

theorem ofChar?_char (d : Digit) : ofChar? d.char = some d := by
  revert d; decide

theorem digitChar_eq (d : Digit) : Nat.digitChar d.val = d.char := by
  revert d; decide

end Digit

/-- The number a run of digits denotes, the most significant digit first. -/
def digitsValue (ds : List Digit) : Nat := ds.foldl (fun n d => 10 * n + d.val) 0

def digits? (cs : List Char) : Option (List Digit) := cs.mapM Digit.ofChar?

/-- One digit or more, and nothing else. -/
def natural? : List Char → Option Nat
  | [] => none
  | cs => (digits? cs).map digitsValue

/-- An optional sign, then one digit or more, and nothing else. -/
def signed? : List Char → Option Int
  | '+' :: cs => (natural? cs).map fun n : Nat => (n : Int)
  | '-' :: cs => (natural? cs).map fun n : Nat => -(n : Int)
  | cs => (natural? cs).map fun n : Nat => (n : Int)

end ProgramModel.Text
