import Mathlib.Tactic.Tauto
import ProgramModel.Constituent

/-!
Agreement of expressions and instructions. Comparing floats as numbers takes both zeros for
one and a NaN for nothing. So two expressions agree when they are equal but for the signs of
zeros and neither of them holds a NaN, at any depth; main statement: `Instr.compares`.
-/

namespace ProgramModel

/-! ### Numbers -/

namespace Binary64

/-- The number, with all zeros written as one. -/
def withOneZero (x : Binary64) : Binary64 := if x.isZero then zero false else x

theorem isNaN_of_isZero {x : Binary64} (isZero : x.isZero = true) : x.isNaN = false := by
  have biased : x.biased = 0 := by
    rw [Binary64.isZero, Bool.and_eq_true_iff, beq_iff_eq] at isZero
    exact isZero.1
  rw [isNaN, biased]
  rfl

/-- Two floats are the same when neither is a NaN and they have the same bits, up to the sign of a
zero. -/
theorem same_iff {x y : Binary64} : x.same y = true ↔
    x.withOneZero = y.withOneZero ∧ x.isNaN = false ∧ y.isNaN = false := by
  have sameBits : x.bits = y.bits ↔ x = y := ⟨fun h => by cases x; cases y; cases h; rfl,
    congrArg bits⟩
  have zeroIsZero : (zero false).isZero = true := by decide
  simp only [same, withOneZero, Bool.and_eq_true, Bool.or_eq_true, Bool.not_eq_true', beq_iff_eq,
    sameBits]
  by_cases left : x.isZero = true <;> by_cases right : y.isZero = true
  · simp [left, right, isNaN_of_isZero left, isNaN_of_isZero right]
  · have differs : ¬ x = y := by
      rintro rfl
      exact right left
    have differs' : ¬ zero false = y := by
      rintro rfl
      exact right zeroIsZero
    simp [left, right, differs, differs']
  · have differs : ¬ x = y := by
      rintro rfl
      exact left right
    have differs' : ¬ x = zero false := by
      rintro rfl
      exact left zeroIsZero
    simp [left, right, differs, differs']
  · simp only [left, right, Bool.false_eq_true, and_self, or_false, if_false]
    exact and_comm

end Binary64

/-! ### Constituents without a NaN -/

namespace Constituent

/-- No float constant among the constituents is a NaN. -/
def Numeric (constituents : List Constituent) : Prop :=
  ∀ x, .float x ∈ constituents → x.isNaN = false

variable {cs ds : List Constituent}

@[simp]
theorem numeric_nil : Numeric [] := by simp [Numeric]

@[simp]
theorem numeric_float {x : Binary64} : Numeric [.float x] ↔ x.isNaN = false := by
  simp [Numeric]

/-- Constituents in two groups are numeric when those of both groups are. -/
@[simp]
theorem numeric_append : Numeric (cs ++ ds) ↔ Numeric cs ∧ Numeric ds := by
  simp [Numeric, or_imp, forall_and]

/-- Constituents of several items are numeric when those of each item are. -/
@[simp]
theorem numeric_flatMap {α : Type} {items : List α} {f : α → List Constituent} :
    Numeric (items.flatMap f) ↔ ∀ a ∈ items, Numeric (f a) := by
  simp only [Numeric, List.mem_flatMap, forall_exists_index, and_imp]
  exact ⟨fun h a mem x here => h x a mem here, fun h x a mem here => h a mem x here⟩

@[simp]
theorem numeric_typeName_cons {n : TypeName} : Numeric (.typeName n :: cs) ↔ Numeric cs := by
  simp [Numeric]

@[simp]
theorem numeric_signature_cons {s : Signature} : Numeric (.signature s :: cs) ↔ Numeric cs := by
  simp [Numeric]

@[simp]
theorem numeric_literal_cons {l : IntLiteral} : Numeric (.literal l :: cs) ↔ Numeric cs := by
  simp [Numeric]

/-- The float of a constant is listed besides the expression that is this constant. -/
@[simp]
theorem numeric_expr_cons {e : Expr} : Numeric (.expr e :: cs) ↔ Numeric cs := by
  simp [Numeric]

end Constituent

open Constituent (Numeric)

/-- No type has a float constant in it. -/
@[simp]
theorem Ty.numeric (t : Ty) : Numeric t.constituents := by
  induction t <;> simp [constituents, *]

@[simp]
theorem Ty.numeric_of (t : Option Ty) : Numeric (constituentsOf t) := by
  simp [constituentsOf]

@[simp]
theorem ProcName.numeric (p : ProcName) : Numeric p.constituents := by
  cases p <;> simp [constituents]

@[simp]
theorem FieldName.numeric (f : FieldName) : Numeric f.constituents := by
  simp [constituents]

@[simp]
theorem Variable.numeric (x : Variable) : Numeric x.constituents := by
  obtain ⟨_, storage⟩ := x
  cases storage <;> simp [constituents, Storage.constituents]

/-! ### Values with other floats -/

def Constant.mapFloats (f : Binary64 → Binary64) : Constant → Constant
  | float x => float (f x)
  | c => c

/-- The expression with all its float constants changed. -/
def Expr.mapFloats (f : Binary64 → Binary64) : Expr → Expr
  | temporary t => temporary t
  | unary op operand result => unary op (operand.mapFloats f) result
  | binary op left right => binary op (left.mapFloats f) (right.mapFloats f)
  | constant c => constant (c.mapFloats f)
  | cast target operand => cast target (operand.mapFloats f)
  | addressOf x => addressOf x
  | fieldOf base field type => fieldOf (base.mapFloats f) field type
  | elementOf array index => elementOf (array.mapFloats f) (index.mapFloats f)
  | sizeof type kind => sizeof type kind
  | sizeofArray type kind length => sizeofArray type kind (length.mapFloats f)

def Instr.mapFloats (f : Binary64 → Binary64) : Instr → Instr
  | load target address type location => load target (address.mapFloats f) type location
  | store address type value location =>
    store (address.mapFloats f) type (value.mapFloats f) location
  | prune condition trueBranch kind location =>
    prune (condition.mapFloats f) trueBranch kind location
  | call result callee arguments flags location =>
    call result (callee.mapFloats f) (arguments.map fun a => (a.1.mapFloats f, a.2)) flags location

/-! ### Agreement -/

/-- A comparison is an equality of what `f` leaves of the values, for those values alone that
meet a condition. -/
def Compares {α β : Type} (agrees : α → α → Bool) (f : α → β) (holds : α → Prop) : Prop :=
  ∀ a b, agrees a b = true ↔ f a = f b ∧ holds a ∧ holds b

namespace Compares

variable {α β : Type} {agrees : α → α → Bool} {f : α → β} {holds : α → Prop} {a b c : α}

/-- Agreement that is an equality of images is symmetric. -/
theorem symm (compares : Compares agrees f holds) (h : agrees a b = true) :
    agrees b a = true := by
  obtain ⟨same, left, right⟩ := (compares a b).1 h
  exact (compares b a).2 ⟨same.symm, right, left⟩

/-- Agreement that is an equality of images is transitive. -/
theorem trans (compares : Compares agrees f holds) (h : agrees a b = true)
    (h' : agrees b c = true) : agrees a c = true := by
  obtain ⟨same, left, _⟩ := (compares a b).1 h
  obtain ⟨same', _, right⟩ := (compares b c).1 h'
  exact (compares a c).2 ⟨same.trans same', left, right⟩

/-- A value agrees with itself exactly when it meets the condition, as a value with a NaN does
not. -/
theorem self_iff (compares : Compares agrees f holds) : agrees a a = true ↔ holds a := by
  rw [compares a a]
  simp

/-- Lists are compared item by item, and each item has to meet the condition. -/
theorem isEqv (compares : Compares agrees f holds) :
    Compares (fun l m : List α => l.isEqv m agrees) (List.map f) fun l => ∀ a ∈ l, holds a := by
  intro l m
  induction l generalizing m with
  | nil => cases m <;> simp [List.isEqv]
  | cons a l ih =>
    cases m with
    | nil => simp [List.isEqv]
    | cons b m =>
      simp only [List.isEqv, Bool.and_eq_true, compares a b, ih m, List.map_cons, List.cons.injEq,
        List.forall_mem_cons]
      tauto

end Compares

/-- Constants agree when they are equal up to the signs of zeros and none of them is a NaN. -/
theorem Constant.compares :
    Compares agrees (mapFloats Binary64.withOneZero) fun c => Numeric c.constituents := by
  intro c d
  cases c <;> cases d <;> simp [agrees, mapFloats, constituents, Binary64.same_iff]

/-- Expressions of different forms neither agree nor are equal. -/
theorem Expr.compares :
    Compares agrees (mapFloats Binary64.withOneZero) fun e => Numeric e.constituents := by
  intro e f
  induction e generalizing f with
  | constant c => cases f <;> simp [agrees, mapFloats, constituents, Constant.compares _ _]
  | _ => cases f <;> simp [agrees, mapFloats, constituents, *] <;> tauto

/-- Arguments of calls, each with its type. -/
theorem Expr.compares_argument :
    Compares (fun a b : Expr × Ty => a.1.agrees b.1 && decide (a.2 = b.2))
      (fun a => (a.1.mapFloats Binary64.withOneZero, a.2)) fun a => Numeric a.1.constituents := by
  intro a b
  simp only [Bool.and_eq_true, decide_eq_true_eq, Expr.compares _ _, Prod.mk.injEq]
  tauto

/-- Instructions agree when they are equal up to the signs of zeros and have no NaN in them. -/
theorem Instr.compares :
    Compares agrees (mapFloats Binary64.withOneZero) fun i => Numeric i.constituents := by
  intro i j
  have arguments := Expr.compares_argument.isEqv
  cases i <;> cases j <;>
    simp [agrees, mapFloats, constituents, Expr.compares _ _, arguments _ _] <;> tauto

end ProgramModel
