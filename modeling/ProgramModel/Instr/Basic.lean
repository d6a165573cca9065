import ProgramModel.Expr.Basic
import ProgramModel.Location

/-!
Instructions: loads, stores, assumptions on branches, and calls. Each has the location
that it comes from.
-/

namespace ProgramModel

/-- The construct that a branch comes from. -/
inductive BranchKind where
  | conditional
  | doWhile
  | forLoop
  | ifElse
  | shortCircuit
  | whileLoop
  | switch
  deriving DecidableEq, Repr, Ord

instance : Tagged BranchKind where
  name := "branch kind"
  all := [.conditional, .doWhile, .forLoop, .ifElse, .shortCircuit, .whileLoop, .switch]
  tag
    | .conditional => "Ik_bexp"
    | .doWhile => "Ik_dowhile"
    | .forLoop => "Ik_for"
    | .ifElse => "Ik_if"
    | .shortCircuit => "Ik_land_lor"
    | .whileLoop => "Ik_while"
    | .switch => "Ik_switch"
  find?_tag a := by cases a <;> rfl

def BranchKind.isLoop : BranchKind → Bool
  | doWhile | forLoop | whileLoop => true
  | _ => false

/-- What is known of a call. -/
structure CallFlags where
  /-- The callee is chosen by the receiver. -/
  isVirtual : Bool
  /-- The callee never returns. -/
  isNoReturn : Bool
  /-- The callee is a closure. -/
  isBlock : Bool
  deriving DecidableEq, Repr

inductive Instr where
  /-- The temporary takes the value at an address. -/
  | load (target : Temporary) (address : Expr) (type : Ty) (location : Location)
  /-- The address takes a value. -/
  | store (address : Expr) (type : Ty) (value : Expr) (location : Location)
  /-- The condition holds from here on, or does not if this is the false branch. -/
  | prune (condition : Expr) (trueBranch : Bool) (kind : BranchKind) (location : Location)
  /-- The result takes what the callee returns for the arguments. -/
  | call (result : Temporary × Ty) (callee : Expr) (arguments : List (Expr × Ty))
      (flags : CallFlags) (location : Location)
  deriving DecidableEq, Repr

namespace Instr

def location : Instr → Location
  | load _ _ _ l | store _ _ _ l | prune _ _ _ l | call _ _ _ _ l => l

def text : Instr → String
  | load target address type _ => target.text ++ "=*" ++ address.text ++ ":" ++ type.text
  | store address type value _ => "*" ++ address.text ++ ":" ++ type.text ++ "=" ++ value.text
  | prune condition trueBranch _ _ =>
    "PRUNE(" ++ condition.text ++ ", " ++ toString trueBranch ++ ")"
  | call result callee arguments _ _ =>
    result.1.text ++ ":" ++ result.2.text ++ "=" ++ callee.text ++ "(" ++
      String.intercalate "," (arguments.map fun a => a.1.text ++ ":" ++ a.2.text) ++ ")"

/-- Equality of instructions, with float constants compared as numbers. -/
def agrees : Instr → Instr → Bool
  | load x e t l, load x' e' t' l' => decide (x = x') && e.agrees e' && decide (t = t' ∧ l = l')
  | store e t f l, store e' t' f' l' =>
    e.agrees e' && decide (t = t') && f.agrees f' && decide (l = l')
  | prune e b k l, prune e' b' k' l' => e.agrees e' && decide (b = b' ∧ k = k' ∧ l = l')
  | call r e as fs l, call r' e' as' fs' l' =>
    decide (r = r') && e.agrees e' &&
      as.isEqv as' (fun a a' => a.1.agrees a'.1 && decide (a.2 = a'.2)) &&
      decide (fs = fs' ∧ l = l')
  | _, _ => false

end Instr
end ProgramModel
