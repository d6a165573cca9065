import Mathlib.Data.List.Forall2
import ProgramModel.Proofs.Expr.Agreement
import ProgramModel.Proofs.Wire.Members
import ProgramModel.Proofs.Wire.Soundness

/-!
Float constants in documents. Any value at all may be given for a float constant, and only a
numeral whose nearest number is finite is read as a number. Main statement: what is read from
a node holds no NaN exactly when all values given for float constants in its instructions,
however deep, are such numerals (`ensures_nodeBody_numeric`).
-/

namespace ProgramModel

open Constituent (Numeric)
open Json (ofTagged)

/-! ### Where float constants stand -/

/-- The keys of the operands in expressions of a form. -/
def ExprForm.operandKeys : ExprForm → List String
  | unary | cast | fieldOf => ["expression"]
  | binary => ["left", "right"]
  | elementOf => ["array", "index"]
  | sizeof => ["dynamic_length"]
  | temporary | constant | addressOf => []

/-- The keys of the expressions in instructions of a form, the arguments of a call apart. -/
def InstrForm.exprKeys : InstrForm → List String
  | load => ["expression"]
  | store => ["lvalue", "rvalue"]
  | prune => ["condition"]
  | call => ["function_expression"]

namespace Json

/-- A numeral whose nearest number is finite. -/
def IsFinite : Json → Prop
  | num n => n.nearest.isFinite = true
  | _ => False

/-- The second value is given for a float constant that the first one, an expression, holds. -/
inductive FloatInExpr : Json → Json → Prop where
  | constant {v c w : Json} (form : v.member? "expr_kind" = some (ofTagged ExprForm.constant))
      (found : v.member? "constant" = some c)
      (kind : c.member? "kind" = some (ofTagged ConstantForm.float))
      (value : c.member? "float_value" = some w) : FloatInExpr v w
  | operand {v e w : Json} {f : ExprForm} {key : String}
      (form : v.member? "expr_kind" = some (ofTagged f)) (mem : key ∈ f.operandKeys)
      (found : v.member? key = some e) (inner : FloatInExpr e w) : FloatInExpr v w

inductive FloatInInstr (v w : Json) : Prop where
  | expr {e : Json} {f : InstrForm} {key : String}
      (form : v.member? "instruction_kind" = some (ofTagged f)) (mem : key ∈ f.exprKeys)
      (found : v.member? key = some e) (inner : e.FloatInExpr w)
  | argument {arguments : List Json} {a e : Json}
      (form : v.member? "instruction_kind" = some (ofTagged InstrForm.call))
      (found : v.member? "args" = some (.arr arguments)) (mem : a ∈ arguments)
      (value : a.member? "expression" = some e) (inner : e.FloatInExpr w)

def FloatInNode (v w : Json) : Prop :=
  ∃ instrs, v.member? "nd_instrs" = some (.arr instrs) ∧ ∃ i ∈ instrs, i.FloatInInstr w

def FloatInGraph (v w : Json) : Prop :=
  ∃ nodes, v.member? "nodes" = some (.arr nodes) ∧ ∃ n ∈ nodes, n.FloatInNode w

/-! ### Values without a NaN -/

/-- If the constant is a float, its value is finite. -/
def ConstantFinite (v : Json) : Prop :=
  v.member? "kind" = some (ofTagged ConstantForm.float) →
    ∀ w, v.member? "float_value" = some w → w.IsFinite

def ExprFinite (v : Json) : Prop := ∀ w, v.FloatInExpr w → w.IsFinite

def InstrFinite (v : Json) : Prop := ∀ w, v.FloatInInstr w → w.IsFinite

variable {v w c : Json} {key context : String}

theorem ofTagged_injective {α : Type} [Tagged α] {a b : α}
    (same : v.member? key = some (ofTagged a)) (same' : v.member? key = some (ofTagged b)) :
    a = b := by
  rw [same, Option.some.injEq, ofTagged, ofTagged, Json.str.injEq] at same'
  exact Tagged.tag_injective same'

/-- A constant has no other floats than its own. -/
theorem exprFinite_iff_of_constant
    (form : v.member? "expr_kind" = some (ofTagged ExprForm.constant))
    (found : v.member? "constant" = some c) : v.ExprFinite ↔ c.ConstantFinite := by
  constructor
  · intro finite kind w value
    exact finite w (.constant form found kind value)
  · intro finite w here
    cases here with
    | constant _ found' kind value =>
      cases found.symm.trans found'
      exact finite kind w value
    | operand form' mem =>
      cases ofTagged_injective form form'
      cases mem

/-- An expression with operands has the floats of these and none of its own. -/
theorem exprFinite_iff_of_operands {f : ExprForm}
    (form : v.member? "expr_kind" = some (ofTagged f)) (other : f ≠ .constant) :
    v.ExprFinite ↔ ∀ key ∈ f.operandKeys, ∀ e, v.member? key = some e → e.ExprFinite := by
  constructor
  · intro finite key mem e found w inner
    exact finite w (.operand form mem found inner)
  · intro finite w here
    cases here with
    | constant form' => exact absurd (ofTagged_injective form form') other
    | operand form' mem found inner =>
      cases ofTagged_injective form form'
      exact finite _ mem _ found w inner

theorem exprFinite_null : null.ExprFinite := by
  intro w here
  cases here with
  | constant form => cases form
  | operand form => cases form

/-- An instruction has the floats of its expressions, and a call those of its arguments too. -/
theorem instrFinite_iff {f : InstrForm}
    (form : v.member? "instruction_kind" = some (ofTagged f)) :
    v.InstrFinite ↔ (∀ key ∈ f.exprKeys, ∀ e, v.member? key = some e → e.ExprFinite) ∧
      (f = .call → ∀ arguments, v.member? "args" = some (.arr arguments) →
        ∀ a ∈ arguments, ∀ e, a.member? "expression" = some e → e.ExprFinite) := by
  constructor
  · intro finite
    constructor
    · intro key mem e found w inner
      exact finite w (.expr form mem found inner)
    · rintro rfl arguments found a mem e value w inner
      exact finite w (.argument form found mem value inner)
  · rintro ⟨exprs, arguments⟩ w here
    cases here with
    | expr form' mem found inner =>
      cases ofTagged_injective form form'
      exact exprs _ mem _ found w inner
    | argument form' found mem value inner =>
      exact arguments (ofTagged_injective form form') _ found _ mem _ value w inner

end Json

/-! ### What is read -/

theorem Binary64.isNaN_of_isFinite {x : Binary64} (finite : x.isFinite = true) :
    x.isNaN = false := by
  simp_all [isFinite, isNaN]

namespace Reading

variable {α : Type} {o : Options} {v : Json} {key context : String}

/-- A payload gives a NaN unless it is a number that is finite as a double. -/
theorem isNaN_binary64_iff : (binary64 v).isNaN = false ↔ v.IsFinite := by
  have isNaN_nan : Binary64.nan.isNaN = true := by decide
  cases v with
  | num n =>
    by_cases finite : n.nearest.isFinite = true
    · simp [binary64, Json.Numeral.binary64?, Json.IsFinite, finite,
        Binary64.isNaN_of_isFinite finite]
    · simp [binary64, Json.Numeral.binary64?, Json.IsFinite, finite, isNaN_nan]
  | _ => simp [binary64, Json.IsFinite, isNaN_nan]

/-! ### Members that a reading has seen -/

/-- A field that is read is the first member with its key. -/
theorem ensures_field : Ensures (field v key context) o fun w => v.member? key = some w.1 := by
  cases found : v.member? key with
  | some w =>
    rw [field_eq_pure found]
    exact .pure rfl
  | none =>
    cases v with
    | obj members =>
      rw [field_eq_throw found]
      exact .throw _
    | _ => exact .throw _

/-- An absent member may be a null. -/
theorem ensures_optional : Ensures (optional v key context) o fun found =>
    match found with
    | some w => v.member? key = some w.1
    | none => ∀ w, v.member? key = some w → w = .null := by
  cases found : v.member? key with
  | some w =>
    by_cases null : w = .null
    · subst null
      rw [optional_eq_none_of_null found]
      exact .pure fun w same => (Option.some.inj same).symm
    · rw [optional_eq_some found null]
      exact .pure rfl
  | none =>
    cases v with
    | obj members =>
      rw [optional_eq_none found]
      exact .pure fun w same => by cases same
    | _ => exact .throw _

theorem ensures_string : Ensures (string v context) o fun s => v = .str s := by
  cases v with
  | str s => exact .pure rfl
  | _ => exact .throw _

/-- A form that is read stands under its key by its tag. -/
theorem ensures_formField [Tagged α] :
    Ensures (formField α v key context) o fun a => v.member? key = some (ofTagged a) := by
  have text : Ensures (stringField v key context) o fun s => v.member? key = some (.str s) := by
    refine .bind ensures_field fun w found => ⟨fun given => ?_⟩
    rw [found, ensures_string.holds given]
  refine .bind text fun s found => ?_
  unfold ofTag
  split
  · next a tag => exact .pure (by rw [found, ofTagged, Tagged.tag_of_ofTag? tag])
  · exact .throw _

/-- Items stand to what is read from them as the reading of an item ensures. -/
theorem ensures_listField {readItem : Json → Reading α} {R : Json → α → Prop}
    (each : ∀ w, Ensures (readItem w) o (R w)) :
    Ensures (listField v key context readItem) o fun results =>
      ∃ items, v.member? key = some (.arr items) ∧ List.Forall₂ R items results := by
  have all (items : List Json) : Ensures (items.mapM readItem) o (List.Forall₂ R items) := by
    induction items with
    | nil => exact .pure .nil
    | cons w rest ih =>
      rw [List.mapM_cons]
      exact (each w).bind fun _ first => ih.bind fun _ others => .pure (.cons first others)
  have array (w : Json) : Ensures (items w context) o fun found => w = .arr found := by
    cases w with
    | arr found => exact .pure rfl
    | _ => exact .throw _
  refine .bind ensures_field fun w found => .bind (array w.1) fun items same => ⟨fun given => ?_⟩
  exact ⟨items, same ▸ found, (all items).holds given⟩

/-! ### Expressions and instructions -/

/-- A constant that is read is numeric exactly when its payload is finite. -/
theorem ensures_constant_numeric (v : Json) :
    Ensures (constant v) o fun c => Numeric c.constituents ↔ v.ConstantFinite := by
  refine .bind ensures_formField fun form kind => ?_
  have vacuous (other : form ≠ .float) : v.ConstantFinite :=
    fun kind' => absurd (Json.ofTagged_injective kind kind') other
  cases form with
  | float =>
    refine .bind ensures_field fun w value => .pure ?_
    simp [Constant.constituents, Json.ConstantFinite, kind, value, isNaN_binary64_iff]
  | int => exact .skip fun _ => .skip fun l => .pure (by simp [Constant.constituents, vacuous])
  | procedure => exact .skip fun p => .pure (by simp [Constant.constituents, vacuous])
  | string => exact .skip fun s => .pure (by simp [Constant.constituents, vacuous])
  | classRef => exact .skip fun s => .pure (by simp [Constant.constituents, vacuous])

/-- An expression that is read holds no NaN exactly when the values given for its float
constants are finite. -/
theorem ensures_expr_numeric (v : Json) :
    Ensures (expr v) o fun e => Numeric e.constituents ↔ v.ExprFinite := by
  induction v using expr.induct with
  | case1 v member =>
    rw [expr]
    refine .nested _ (.bind ensures_formField fun form is => ?_)
    have operands := Json.exprFinite_iff_of_operands is
    cases form with
    | temporary =>
      refine .skip fun t => .pure ?_
      simp [Expr.constituents, operands, ExprForm.operandKeys]
    | unary =>
      refine .skip fun op => .bind ensures_field fun w found =>
        .bind (member w.1 w.2) fun operand inner => .skip fun result => .pure ?_
      simp [Expr.constituents, operands, ExprForm.operandKeys, found, inner]
    | binary =>
      refine .skip fun op => .bind ensures_field fun w found =>
        .bind (member w.1 w.2) fun left inner => .bind ensures_field fun w' found' =>
        .bind (member w'.1 w'.2) fun right inner' => .pure ?_
      simp [Expr.constituents, operands, ExprForm.operandKeys, found, inner, found', inner']
    | constant =>
      refine .bind ensures_field fun w found =>
        .bind (ensures_constant_numeric w.1) fun c inner => .pure ?_
      simp [Expr.constituents, Json.exprFinite_iff_of_constant is found, inner]
    | cast =>
      refine .skip fun target => .bind ensures_field fun w found =>
        .bind (member w.1 w.2) fun operand inner => .pure ?_
      simp [Expr.constituents, operands, ExprForm.operandKeys, found, inner]
    | addressOf =>
      refine .skip fun _ => .skip fun x => .pure ?_
      simp [Expr.constituents, operands, ExprForm.operandKeys]
    | fieldOf =>
      refine .bind ensures_field fun w found => .bind (member w.1 w.2) fun base inner =>
        .skip fun _ => .skip fun name => .skip fun type => .pure ?_
      simp [Expr.constituents, operands, ExprForm.operandKeys, found, inner]
    | elementOf =>
      refine .bind ensures_field fun w found => .bind (member w.1 w.2) fun array inner =>
        .bind ensures_field fun w' found' =>
        .bind (member w'.1 w'.2) fun index inner' => .pure ?_
      simp [Expr.constituents, operands, ExprForm.operandKeys, found, inner, found', inner']
    | sizeof =>
      refine .skip fun type => .skip fun kind => .bind ensures_optional fun length found => ?_
      cases length with
      | some length =>
        refine .bind (member length.1 length.2) fun e inner => .pure ?_
        simp [Expr.constituents, operands, ExprForm.operandKeys, found, inner]
      | none =>
        -- A length that is null counts as absent, and a null holds no float.
        have absent : ∀ e, v.member? "dynamic_length" = some e → e.ExprFinite := by
          intro e here
          rw [found e here]
          exact Json.exprFinite_null
        refine .pure ?_
        simpa [Expr.constituents, operands, ExprForm.operandKeys] using absent

/-- An expression that is read from a field is the one that stands there. -/
theorem ensures_exprField_numeric : Ensures (exprField v key context) o fun e =>
    ∃ w, v.member? key = some w ∧ (Numeric e.constituents ↔ w.ExprFinite) :=
  .bind ensures_field fun w found => ⟨fun given =>
    ⟨w, found, (ensures_expr_numeric w.1).holds given⟩⟩

theorem ensures_argument_numeric (v : Json) : Ensures (argument v) o fun a =>
    ∃ w, v.member? "expression" = some w ∧ (Numeric a.1.constituents ↔ w.ExprFinite) :=
  .bind ensures_exprField_numeric fun _ told => .skip fun _ => .pure told

/-- The same of items and what is read from them. -/
theorem forall_mem_iff_of_forall₂ {P : Json → Prop} {Q : α → Prop} {items : List Json}
    {results : List α} (each : List.Forall₂ (fun w a => Q a ↔ P w) items results) :
    (∀ a ∈ results, Q a) ↔ ∀ w ∈ items, P w := by
  induction each with
  | nil => simp
  | cons first _ ih => rw [List.forall_mem_cons, List.forall_mem_cons, first, ih]

/-- An instruction that is read is numeric exactly when all payloads in it are finite. -/
theorem ensures_instr_numeric (v : Json) :
    Ensures (instr v) o fun i => Numeric i.constituents ↔ v.InstrFinite := by
  refine .bind ensures_formField fun form is => ?_
  have parts := Json.instrFinite_iff is
  cases form with
  | load =>
    refine .skip fun target => .bind ensures_exprField_numeric fun address told =>
      .skip fun type => .skip fun location => .pure ?_
    obtain ⟨w, found, inner⟩ := told
    simp [Instr.constituents, parts, InstrForm.exprKeys, found, inner]
  | store =>
    refine .bind ensures_exprField_numeric fun address told => .skip fun type =>
      .bind ensures_exprField_numeric fun value told' => .skip fun location => .pure ?_
    obtain ⟨w, found, inner⟩ := told
    obtain ⟨w', found', inner'⟩ := told'
    simp [Instr.constituents, parts, InstrForm.exprKeys, found, inner, found', inner']
  | prune =>
    refine .bind ensures_exprField_numeric fun condition told =>
      .skip fun _ => .skip fun _ => .skip fun _ => .pure ?_
    obtain ⟨w, found, inner⟩ := told
    simp [Instr.constituents, parts, InstrForm.exprKeys, found, inner]
  | call =>
    refine .skip fun result => .skip fun type =>
      .bind ensures_exprField_numeric fun callee told =>
      .bind (ensures_listField ensures_argument_numeric) fun arguments listing =>
      .skip fun _ => .skip fun flags => .skip fun location => .pure ?_
    obtain ⟨w, found, inner⟩ := told
    obtain ⟨items, listed, each⟩ := listing
    have same : (∀ a ∈ arguments, Numeric a.1.constituents) ↔
        ∀ a ∈ items, ∀ e, a.member? "expression" = some e → e.ExprFinite := by
      apply forall_mem_iff_of_forall₂
      refine each.imp ?_
      rintro a b ⟨e, value, told⟩
      simp [value, told]
    rw [Prod.forall] at same
    simp [Instr.constituents, parts, InstrForm.exprKeys, found, inner, listed, same]

/-- The instructions of a node hold no NaN exactly when the values given for float constants
in them are finite. -/
theorem ensures_nodeBody_numeric (v : Json) : Ensures (nodeBody v) o fun b =>
    (∀ i ∈ b.instrs, Numeric i.constituents) ↔ ∀ w, v.FloatInNode w → w.IsFinite := by
  refine .skip fun temporaries => .skip fun _ => .skip fun kind => .skip fun location =>
    .bind (ensures_listField ensures_instr_numeric) fun instrs listing =>
    .skip fun before => .skip fun after => .pure ?_
  obtain ⟨items, listed, each⟩ := listing
  rw [forall_mem_iff_of_forall₂ each]
  simp only [Json.FloatInNode, listed, Option.some.injEq, Json.arr.injEq, exists_eq_left']
  constructor
  · rintro finite w ⟨i, mem, here⟩
    exact finite i mem w here
  · intro finite i mem w here
    exact finite w ⟨i, mem, here⟩

end Reading
end ProgramModel
