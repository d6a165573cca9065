import ProgramModel.Constituent
import ProgramModel.Proofs.Wire.Regular

/-!
What readings ensure. A reading ensures a property when every value that it gives has it;
what is read without use for the property is skipped. Each reader below ensures that all
constituents of its values are sound, which its proof puts together from the readers that
it calls, in their order.
-/

namespace ProgramModel

/-! ### Sound constituents -/

/-- The simple part of a name starts behind the last separator, so it has none in it. -/
theorem TypeName.simple_ofQualified (o : Options) (full : String) :
    (TypeName.ofQualified o.separator full).Simple o := by
  unfold TypeName.ofQualified
  split
  · next found =>
    rw [TypeName.Simple, String.toList_ofList]
    exact (splitLast_eq_some_iff.1 found).2
  · next absent => exact splitLast_eq_none_iff.1 absent

namespace IntLiteral

theorem isNull_null : null.isNull = true := rfl

/-- A canonical literal is null when it is the null pointer, and only then. -/
theorem Canonical.isNull_iff {l : IntLiteral} (canonical : l.Canonical) :
    l.isNull = true ↔ l = .null := by
  constructor
  · intro isNull
    exact canonical (Bool.and_eq_true_iff.1 isNull).1
  · rintro rfl
    exact isNull_null

/-- A canonical literal is sound. -/
theorem Canonical.sound {l : IntLiteral} (canonical : l.Canonical) (o : Options) :
    (Constituent.literal l).Sound o :=
  ⟨canonical, canonical.isNull_iff⟩

end IntLiteral

namespace Expr

/-- Only a constant is null, and of the constants only a literal. -/
theorem isNull_eq_true_iff {e : Expr} :
    e.isNull = true ↔ ∃ l, e = .constant (.int l) ∧ l.isNull = true := by
  cases e with
  | constant c => cases c <;> simp [isNull, Constant.isNull]
  | _ => simp [isNull]

/-- An expression is sound as soon as the literal is that it may consist of. -/
theorem sound_self {o : Options} {e : Expr}
    (literal : ∀ l, e = .constant (.int l) → (Constituent.literal l).Sound o) :
    (Constituent.expr e).Sound o := by
  rw [Constituent.Sound, isNull_eq_true_iff]
  constructor
  · rintro ⟨l, rfl, isNull⟩
    rw [(literal l rfl).2.1 isNull, null]
  · rintro rfl
    exact ⟨.null, rfl, IntLiteral.isNull_null⟩

end Expr

namespace Reading

variable {α β : Type} {m : Reading α} {f : α → Reading β} {o : Options} {P : α → Prop}
  {Q : β → Prop}

/-! ### Ensured properties -/

/-- Every value that the reading gives has the property, however many levels are open. -/
structure Ensures (m : Reading α) (o : Options) (P : α → Prop) : Prop where
  holds {g : Gauge} {a : α} (given : (m.outcome o g).1 = .ok a) : P a

/-- All constituents of the values that the reading gives are sound. -/
abbrev Sound (m : Reading α) (o : Options) (constituents : α → List Constituent) : Prop :=
  Ensures m o fun a => ∀ c ∈ constituents a, c.Sound o

namespace Ensures

theorem pure {a : α} (holds : P a) : Ensures (pure a : Reading α) o P where
  holds given := by
    cases given
    exact holds

theorem throw (fault : Fault) : Ensures (throw fault : Reading α) o P where
  holds given := by cases given

/-- What the first part ensures may be used for the second one. -/
theorem bind (first : Ensures m o P) (rest : ∀ a, P a → Ensures (f a) o Q) :
    Ensures (m >>= f) o Q where
  holds {g b} given := by
    cases outcome : (m.outcome o g).1 with
    | error fault =>
      rw [outcome_bind_of_error outcome] at given
      cases given
    | ok a =>
      rw [outcome_bind_of_ok outcome] at given
      exact (rest a (first.holds outcome)).holds given

/-- Nothing is asked of what comes first. -/
theorem skip (rest : ∀ a, Ensures (f a) o Q) : Ensures (m >>= f) o Q :=
  bind (P := fun _ => True) ⟨fun _ => trivial⟩ fun a _ => rest a

theorem options {f : Options → Reading β} (rest : Ensures (f o) o Q) :
    Ensures (read >>= f) o Q where
  holds := rest.holds

theorem nested (context : String) (inner : Ensures m o P) :
    Ensures (nested context m) o P where
  holds {g a} given := by
    rw [outcome_nested] at given
    split at given
    · exact inner.holds given
    · cases given

theorem map {result : α → β} (ensures : Ensures m o fun a => Q (result a)) :
    Ensures (result <$> m) o Q := by
  rw [← bind_pure_comp]
  exact ensures.bind fun _ holds => .pure holds

/-- What is ensured of each item is ensured of all of them. -/
theorem mapM (each : ∀ a, Ensures (f a) o Q) (items : List α) :
    Ensures (items.mapM f) o fun results => ∀ b ∈ results, Q b := by
  induction items with
  | nil => exact .pure (by simp)
  | cons a rest ih =>
    rw [List.mapM_cons]
    apply (each a).bind
    intro b first
    apply ih.bind
    intro results others
    exact .pure (List.forall_mem_cons.2 ⟨first, others⟩)

theorem listField {readItem : Json → Reading α} (each : ∀ w, Ensures (readItem w) o P)
    (v : Json) (key context : String) :
    Ensures (listField v key context readItem) o fun items => ∀ a ∈ items, P a :=
  .skip fun _ => .skip fun items => .mapM each items

end Ensures

/-- A list is sound when its items are. -/
theorem sound_listField {readItem : Json → Reading α} {constituents : α → List Constituent}
    (each : ∀ w, Sound (readItem w) o constituents) (v : Json) (key context : String) :
    Sound (listField v key context readItem) o (·.flatMap constituents) := by
  constructor
  intro g items given
  rw [List.forall_mem_flatMap]
  exact (Ensures.listField each v key context).holds given

/-! ### Names and types -/

/-- Names that are read are simple, from a text or from a descriptor. -/
theorem ensures_typeName (v : Json) : Ensures (typeName v) o (TypeName.Simple o) := by
  have named (full : String) : Ensures (do return TypeName.ofQualified (← read).separator full) o
      (TypeName.Simple o) :=
    .options (.pure (TypeName.simple_ofQualified o full))
  unfold typeName
  cases v with
  | str s => exact .skip named
  | obj members =>
    apply Ensures.skip
    intro kind
    by_cases descriptor : kind = TypeName.classDescriptor
    · rw [if_neg (not_not_intro descriptor)]
      exact .skip named
    · rw [if_pos descriptor]
      exact .bind (P := fun _ => False) (.throw _) fun _ impossible => impossible.elim
  | _ => exact .skip named

theorem sound_typeName (v : Json) : Sound (typeName v) o fun n => [.typeName n] where
  holds given := List.forall_mem_singleton.2 ((ensures_typeName v).holds given)

theorem sound_fieldName (v : Json) : Sound (fieldName v) o FieldName.constituents := by
  refine .skip fun w => .bind (sound_typeName w) fun owner simple => .skip fun name => ?_
  exact .pure simple

/-- Types are sound, by induction on the value that they are read from. -/
theorem sound_ty (v : Json) : Sound (ty v) o Ty.constituents := by
  induction v using ty.induct with
  | case1 v member =>
    rw [ty]
    apply Ensures.nested
    apply Ensures.skip
    intro form
    cases form with
    | void => exact .pure (by simp [Ty.constituents])
    | int => exact .skip fun _ => .pure (by simp [Ty.constituents])
    | float => exact .skip fun _ => .pure (by simp [Ty.constituents])
    | pointer =>
      refine .skip fun ⟨w, child⟩ => .bind (member w child) fun target sound => ?_
      exact .skip fun _ => .pure sound
    | array =>
      refine .skip fun ⟨w, child⟩ => .bind (member w child) fun element sound => ?_
      exact .skip fun _ => .skip fun _ => .pure sound
    | struct => exact .skip fun w => .bind (sound_typeName w) fun _ sound => .pure sound
    | var => exact .skip fun _ => .pure (by simp [Ty.constituents])
    | enumeration => exact .throw _

theorem sound_tyField (v : Json) (key context : String) :
    Sound (tyField v key context) o Ty.constituents :=
  .skip fun w => sound_ty w

theorem sound_optionalTy (v : Json) (key context : String) :
    Sound (optionalTy v key context) o Ty.constituentsOf := by
  apply Ensures.skip
  intro found
  cases found with
  | some w =>
    refine .bind (sound_ty w) fun t sound => .pure ?_
    simpa [Ty.constituentsOf] using sound
  | none => exact .pure (by simp [Ty.constituentsOf])

/-- A constructor has no result, and any other method one with sound constituents. -/
theorem ensures_methodResult (v : Json) (name : String) :
    Ensures (methodResult v name) o fun result =>
      (result = none ↔ name = o.constructorName) ∧ ∀ c ∈ Ty.constituentsOf result, c.Sound o := by
  apply Ensures.options
  by_cases constructor : name = o.constructorName
  · rw [if_pos constructor]
    exact .pure (by simp [constructor, Ty.constituentsOf])
  · rw [if_neg constructor]
    refine .bind (sound_tyField ..) fun t sound => .pure ?_
    simpa [constructor, Ty.constituentsOf] using sound

theorem sound_procName (v : Json) : Sound (procName v) o ProcName.constituents := by
  refine .skip fun name => .options ?_
  by_cases builtin : name = o.builtinNewName
  · rw [if_pos builtin]
    exact .pure (by simp [ProcName.constituents])
  · rw [if_neg builtin]
    refine .skip fun w => .bind (ensures_typeName w) fun owner simple =>
      .bind (sound_listField sound_ty ..) fun parameters sound =>
      .bind (ensures_methodResult v name) fun result ⟨given, soundResult⟩ =>
      .skip fun isStatic => .pure ?_
    simp only [ProcName.constituents, List.forall_mem_cons, List.forall_mem_append]
    exact ⟨⟨builtin, given⟩, simple, sound, soundResult⟩

theorem sound_procNameField (v : Json) (key context : String) :
    Sound (procNameField v key context) o ProcName.constituents :=
  .skip fun w => sound_procName w

theorem sound_programVariable (v : Json) : Sound (programVariable v) o Variable.constituents := by
  have stored : Sound (storage v) o Storage.constituents := by
    apply Ensures.skip
    intro form
    cases form with
    | localOf => exact .bind (sound_procNameField ..) fun _ sound => .pure sound
    | calledOf => exact .bind (sound_procNameField ..) fun _ sound => .pure sound
    | global => exact .pure (by simp [Storage.constituents])
  exact .skip fun name => .bind stored fun _ sound => .pure sound

/-! ### Constants, expressions and instructions -/

/-- Literals that are read are canonical. -/
theorem ensures_intLiteral (v : Json) : Ensures (intLiteral v) o IntLiteral.Canonical := by
  refine .skip fun isUnsigned => .skip fun _ => .skip fun value => .skip fun isPointer => ?_
  split
  · exact .pure fun _ => rfl
  · exact .pure fun marked => nomatch marked

/-- No payload is read as an infinity. -/
theorem isFinite_or_isNaN_binary64 (v : Json) :
    (binary64 v).isFinite = true ∨ (binary64 v).isNaN = true := by
  have isNaN_nan : Binary64.nan.isNaN = true := by decide
  cases v with
  | num n =>
    cases nearest : n.binary64? with
    | some x =>
      rw [binary64, nearest]
      exact Or.inl (Json.Numeral.isFinite_of_binary64? nearest)
    | none =>
      rw [binary64, nearest]
      exact Or.inr isNaN_nan
  | _ => exact Or.inr isNaN_nan

theorem sound_constant (v : Json) : Sound (constant v) o Constant.constituents := by
  apply Ensures.skip
  intro form
  cases form with
  | int =>
    refine .skip fun w => .bind (ensures_intLiteral w) fun l canonical => .pure ?_
    exact List.forall_mem_singleton.2 (canonical.sound o)
  | procedure => exact .bind (sound_procNameField ..) fun _ sound => .pure sound
  | string => exact .skip fun _ => .pure (by simp [Constant.constituents])
  | float =>
    refine .skip fun w => .pure ?_
    exact List.forall_mem_singleton.2 (isFinite_or_isNaN_binary64 w.1)
  | classRef => exact .skip fun _ => .pure (by simp [Constant.constituents])

/-- Expressions are sound, by induction on the value that they are read from. -/
theorem sound_expr (v : Json) : Sound (expr v) o Expr.constituents := by
  induction v using expr.induct with
  | case1 v member =>
    rw [expr]
    apply Ensures.nested
    apply Ensures.skip
    intro form
    cases form with
    | temporary => exact .skip fun _ => .pure (by simp [Expr.constituents, Expr.sound_self])
    | unary =>
      refine .skip fun op => .skip fun ⟨w, child⟩ => .bind (member w child) fun operand sound =>
        .bind (sound_optionalTy ..) fun result soundResult => .pure ?_
      simp only [Expr.constituents, List.forall_mem_cons, List.forall_mem_append]
      exact ⟨Expr.sound_self (by simp), sound, soundResult⟩
    | binary =>
      refine .skip fun op => .skip fun ⟨w, child⟩ => .bind (member w child) fun left soundLeft =>
        .skip fun ⟨w', child'⟩ => .bind (member w' child') fun right soundRight => .pure ?_
      simp only [Expr.constituents, List.forall_mem_cons, List.forall_mem_append]
      exact ⟨Expr.sound_self (by simp), soundLeft, soundRight⟩
    | constant =>
      refine .skip fun w => .bind (sound_constant w) fun c sound => .pure ?_
      simp only [Expr.constituents, List.forall_mem_cons]
      refine ⟨Expr.sound_self ?_, sound⟩
      -- Whether a constant is null is a matter of its literal.
      rintro l ⟨⟩
      exact sound (.literal l) (List.mem_singleton_self _)
    | cast =>
      refine .bind (sound_tyField ..) fun target soundTarget => .skip fun ⟨w, child⟩ =>
        .bind (member w child) fun operand sound => .pure ?_
      simp only [Expr.constituents, List.forall_mem_cons, List.forall_mem_append]
      exact ⟨Expr.sound_self (by simp), soundTarget, sound⟩
    | addressOf =>
      refine .skip fun w => .bind (sound_programVariable w) fun x sound => .pure ?_
      simp only [Expr.constituents, List.forall_mem_cons]
      exact ⟨Expr.sound_self (by simp), sound⟩
    | fieldOf =>
      refine .skip fun ⟨w, child⟩ => .bind (member w child) fun base sound => .skip fun w' =>
        .bind (sound_fieldName w') fun name soundName =>
        .bind (sound_tyField ..) fun type soundType => .pure ?_
      simp only [Expr.constituents, List.forall_mem_cons, List.forall_mem_append]
      exact ⟨Expr.sound_self (by simp), sound, soundName, soundType⟩
    | elementOf =>
      refine .skip fun ⟨w, child⟩ => .bind (member w child) fun array soundArray =>
        .skip fun ⟨w', child'⟩ => .bind (member w' child') fun index soundIndex => .pure ?_
      simp only [Expr.constituents, List.forall_mem_cons, List.forall_mem_append]
      exact ⟨Expr.sound_self (by simp), soundArray, soundIndex⟩
    | sizeof =>
      refine .bind (sound_tyField ..) fun type soundType => .skip fun kind =>
        .skip fun found => ?_
      cases found with
      | some length =>
        refine .bind (member length.1 length.2) fun _ sound => .pure ?_
        simp only [Expr.constituents, List.forall_mem_cons, List.forall_mem_append]
        exact ⟨Expr.sound_self (by simp), soundType, sound⟩
      | none =>
        refine .pure ?_
        simp only [Expr.constituents, List.forall_mem_cons]
        exact ⟨Expr.sound_self (by simp), soundType⟩

theorem sound_exprField (v : Json) (key context : String) :
    Sound (exprField v key context) o Expr.constituents :=
  .skip fun w => sound_expr w

theorem sound_argument (v : Json) :
    Sound (argument v) o fun a => a.1.constituents ++ a.2.constituents :=
  .bind (sound_exprField ..) fun _ soundValue => .bind (sound_tyField ..) fun _ soundType =>
    .pure (List.forall_mem_append.2 ⟨soundValue, soundType⟩)

theorem sound_instr (v : Json) : Sound (instr v) o Instr.constituents := by
  apply Ensures.skip
  intro form
  cases form with
  | load =>
    refine .skip fun target => .bind (sound_exprField ..) fun address soundAddress =>
      .bind (sound_tyField ..) fun type soundType => .skip fun location => .pure ?_
    exact List.forall_mem_append.2 ⟨soundAddress, soundType⟩
  | store =>
    refine .bind (sound_exprField ..) fun address soundAddress =>
      .bind (sound_tyField ..) fun type soundType =>
      .bind (sound_exprField ..) fun value soundValue => .skip fun location => .pure ?_
    simp only [Instr.constituents, List.forall_mem_append]
    exact ⟨soundAddress, soundType, soundValue⟩
  | prune =>
    exact .bind (sound_exprField ..) fun _ sound => .skip fun _ => .skip fun _ => .skip fun _ =>
      .pure sound
  | call =>
    refine .skip fun result => .bind (sound_tyField ..) fun resultType soundResult =>
      .bind (sound_exprField ..) fun callee soundCallee =>
      .bind (sound_listField sound_argument ..) fun arguments sound => .skip fun w =>
      .skip fun flags => .skip fun location => .pure ?_
    simp only [Instr.constituents, List.forall_mem_append]
    exact ⟨soundResult, soundCallee, sound⟩

/-! ### Declarations and records -/

theorem sound_binding (context : String) (v : Json) :
    Sound (binding context v) o (·.type.constituents) :=
  .skip fun _ => .bind (sound_tyField ..) fun _ sound => .pure sound

theorem sound_localDecl (v : Json) : Sound (localDecl v) o (·.type.constituents) :=
  .skip fun _ => .bind (sound_tyField ..) fun _ sound => .skip fun _ => .skip fun _ => .pure sound

/-- Attributes are sound in all names and types that they hold. -/
theorem sound_attributes (v : Json) : Sound (attributes v) o Attributes.constituents := by
  refine .bind (sound_listField (sound_binding _) ..) fun captured soundCaptured =>
    .skip fun exceptions =>
    .bind (sound_listField (sound_binding _) ..) fun formals soundFormals =>
    .bind (sound_listField sound_localDecl ..) fun locals soundLocals => .skip fun access => ?_
  refine .skip fun isAbstract => .skip fun isBridge => .skip fun isDefined =>
    .skip fun isSynthetic => .skip fun location => .skip fun w => .skip fun annotations => ?_
  refine .bind (sound_procNameField ..) fun name soundName =>
    .bind (sound_tyField ..) fun result soundResult => .pure ?_
  simp only [Attributes.constituents, List.forall_mem_append]
  exact ⟨soundCaptured, soundFormals, soundLocals, soundName, soundResult⟩

theorem sound_structField (v : Json) : Sound (structField v) o StructField.constituents := by
  refine .skip fun w => .bind (sound_fieldName w) fun name soundName =>
    .bind (sound_tyField ..) fun type soundType => .skip fun _ => .skip fun _ => .pure ?_
  exact List.forall_mem_append.2 ⟨soundName, soundType⟩

theorem sound_structDef (v : Json) : Sound (structDef v) o StructDef.constituents := by
  refine .bind (sound_listField sound_structField ..) fun fields soundFields =>
    .bind (sound_listField sound_structField ..) fun statics soundStatics =>
    .bind (Ensures.listField ensures_typeName ..) fun supers simple =>
    .bind (sound_listField sound_procName ..) fun methods soundMethods => .skip fun _ =>
    .skip fun annotations => .pure ?_
  simp only [StructDef.constituents, List.forall_mem_append, List.forall_mem_map]
  exact ⟨soundFields, soundStatics, simple, soundMethods⟩

theorem sound_typeEntry (v : Json) :
    Sound (typeEntry v) o fun e => .typeName e.1 :: e.2.constituents :=
  .skip fun w => .bind (ensures_typeName w) fun _ simple => .skip fun w' =>
    .bind (sound_structDef w') fun _ sound => .pure (List.forall_mem_cons.2 ⟨simple, sound⟩)

theorem sound_nodeBody (v : Json) : Sound (nodeBody v) o NodeBody.constituents := by
  have temporary (w : Json) : Sound (nodeTemporary w) o (·.2.constituents) :=
    .skip fun _ => .bind (sound_tyField ..) fun _ sound => .pure sound
  refine .bind (sound_listField temporary ..) fun temporaries soundTemporaries => .skip fun w =>
    .skip fun kind => .skip fun location =>
    .bind (sound_listField sound_instr ..) fun instrs soundInstrs =>
    .bind (sound_listField sound_programVariable ..) fun deadBefore soundBefore =>
    .bind (sound_listField sound_programVariable ..) fun deadAfter soundAfter => .pure ?_
  simp only [NodeBody.constituents, List.forall_mem_append]
  exact ⟨soundTemporaries, soundInstrs, soundBefore, soundAfter⟩

end Reading
end ProgramModel
