import ProgramModel.Proofs.FlowGraph.Nesting

/-!
Headroom. Each level that a reading opens is paid for by a level of the value it reads: types
and expressions open one level and go on with members, which are lower, and all other readings
only hand their members on. So as many levels as the value is high are always enough, whether
the reading ends with a value or with a fault. Main statements: `within_ty`, `within_expr`, and
`within_flowGraph`.
-/

namespace ProgramModel

variable {α β : Type}

theorem Json.height_pos (v : Json) : 0 < v.height := by
  cases v <;> exact Nat.succ_pos _

namespace Reading

/-- A reading that is not refused for its depth as long as some levels are left. -/
structure Within (levels : Nat) (m : Reading α) : Prop where
  regular : Regular m
  final {o : Options} {g : Gauge} (left : g.depth + levels ≤ o.maxDepth) :
    Final (m.outcome o g).1

namespace Within

variable {n : Nat} {m : Reading α} {f : α → Reading β} {v : Json} {key context : String}

/-! ### Readings put together -/

theorem pure (a : α) : Within n (pure a : Reading α) where
  regular := .pure a
  final _ := final_ok a

theorem throw (fault : Fault) (other : fault.isDepth = false) :
    Within n (throw fault : Reading α) where
  regular := .throw fault
  final _ := final_error other

/-- The limit is among the options, but a reading within some levels is so for every limit. -/
theorem options {f : Options → Reading β} (rest : ∀ o, Within n (f o)) :
    Within n (read >>= f) where
  regular := .bind .options fun o => (rest o).regular
  final left := (rest _).final left

/-- What comes second finds as many levels left as what came first did. -/
theorem bind (first : Within n m) (rest : ∀ a, Within n (f a)) : Within n (m >>= f) where
  regular := .bind first.regular fun a => (rest a).regular
  final {o g} left := by
    have final := first.final left
    have kept := first.regular.balanced.depth o g
    cases given : (m.outcome o g).1 with
    | error fault =>
      rw [outcome_bind_of_error given]
      exact final_error (final.isDepth fault given)
    | ok a =>
      rw [outcome_bind_of_ok given]
      exact (rest a).final (by omega)

/-- A nested reading is within one level more. -/
theorem nested (context : String) (inner : Within n m) : Within (n + 1) (nested context m) where
  regular := .nested context inner.regular
  final {o g} left := by
    have room : g.depth + 1 ≤ o.maxDepth := by omega
    rw [outcome_nested, if_pos room]
    apply inner.final
    rw [Gauge.depth_enter]
    omega

theorem map (result : α → β) (within : Within n m) : Within n (result <$> m) := by
  rw [← bind_pure_comp]
  exact within.bind fun _ => .pure _

/-- Items that are each within some levels are within them one after another, as each gives its
levels back. -/
theorem mapM {items : List α} (each : ∀ a ∈ items, Within n (f a)) : Within n (items.mapM f) := by
  induction items with
  | nil => exact .pure []
  | cons a rest ih =>
    obtain ⟨first, others⟩ := List.forall_mem_cons.1 each
    rw [List.mapM_cons]
    exact first.bind fun _ => (ih others).bind fun _ => .pure _

end Within

section Readers

variable {n : Nat} {v : Json} {key context : String}

/-! ### Members and scalars -/

theorem within_mismatch (expected : Shape) (context : String) (v : Json) :
    Within n (mismatch expected context v : Reading α) := .throw _ rfl

theorem within_field (v : Json) (key context : String) : Within n (field v key context) := by
  unfold field
  split
  · split
    · exact .pure _
    · exact .throw _ rfl
  · exact within_mismatch ..

/-- A member is lower than its object. -/
theorem Within.of_field {f : Member v → Reading β} (low : v.height ≤ n + 1)
    (rest : ∀ w : Member v, w.val.height ≤ n → Within n (f w)) :
    Within n (field v key context >>= f) :=
  .bind (within_field ..) fun w =>
    rest w (Nat.le_of_lt_succ (Nat.lt_of_lt_of_le w.property.height_lt low))

theorem within_optional (v : Json) (key context : String) : Within n (optional v key context) := by
  unfold optional
  split
  · split
    · exact .pure none
    · exact .pure _
  · exact within_mismatch ..

theorem within_string (v : Json) (context : String) : Within n (string v context) := by
  cases v with
  | str s => exact .pure s
  | _ => exact within_mismatch ..

theorem within_boolean (v : Json) (context : String) : Within n (boolean v context) := by
  cases v with
  | bool b => exact .pure b
  | _ => exact within_mismatch ..

theorem within_wireId (v : Json) (context : String) : Within n (wireId v context) := by
  unfold wireId
  split
  · split
    · exact .pure _
    · exact within_mismatch ..
  · exact within_mismatch ..

theorem within_extent (v : Json) (context : String) : Within n (extent v context) := by
  unfold extent
  split
  · split
    · exact .pure _
    · exact within_mismatch ..
  · exact within_mismatch ..

theorem within_coordinate (v : Json) (context : String) : Within n (coordinate v context) := by
  unfold coordinate
  split
  · split
    · exact .pure _
    · exact within_mismatch ..
  · exact within_mismatch ..

theorem within_wideInt (v : Json) (context : String) : Within n (wideInt v context) := by
  unfold wideInt
  split
  · exact .pure _
  · exact within_mismatch ..

theorem within_items (v : Json) (context : String) : Within n (items v context) := by
  cases v with
  | arr items => exact .pure items
  | _ => exact within_mismatch ..

/-- An item is lower than its array. -/
theorem Within.of_items {f : List Json → Reading β} (low : v.height ≤ n + 1)
    (rest : ∀ items : List Json, (∀ w ∈ items, w.height ≤ n) → Within n (f items)) :
    Within n (items v context >>= f) := by
  cases v with
  | arr items =>
    refine rest items fun w mem => ?_
    exact Nat.le_of_lt_succ (Nat.lt_of_lt_of_le (Json.Child.item mem).height_lt low)
  | _ => exact .throw _ rfl

/-- The items of a list are one level lower than the list. -/
theorem within_list {readItem : Json → Reading α} (low : v.height ≤ n + 1)
    (each : ∀ w, w.height ≤ n → Within n (readItem w)) :
    Within n (list v context readItem) :=
  .of_items low fun _ lower => .mapM fun w mem => each w (lower w mem)

theorem within_listField {readItem : Json → Reading α} (low : v.height ≤ n + 1)
    (each : ∀ w, w.height ≤ n → Within n (readItem w)) :
    Within n (listField v key context readItem) :=
  .of_field low fun _ lower => within_list (Nat.le_succ_of_le lower) each

/-- Items that may be of any height. -/
theorem within_flatListField {readItem : Json → Reading α}
    (each : ∀ w, Within n (readItem w)) (v : Json) (key context : String) :
    Within n (listField v key context readItem) :=
  .bind (within_field ..) fun _ => .bind (within_items ..) fun _ => .mapM fun w _ => each w

theorem within_stringField (v : Json) (key context : String) :
    Within n (stringField v key context) :=
  .bind (within_field ..) fun _ => within_string ..

theorem within_booleanField (v : Json) (key context : String) :
    Within n (booleanField v key context) :=
  .bind (within_field ..) fun _ => within_boolean ..

theorem within_wireIdField (v : Json) (key context : String) :
    Within n (wireIdField v key context) :=
  .bind (within_field ..) fun _ => within_wireId ..

/-! ### Tags -/

section Tags

variable [Tagged α]

theorem within_ofTag (s : String) : Within n (ofTag α s) := by
  unfold ofTag
  split
  · exact .pure _
  · exact .throw _ rfl

theorem within_tagged (v : Json) : Within n (tagged α v) :=
  .bind (within_string ..) fun _ => within_ofTag _

theorem within_taggedField (v : Json) (key context : String) :
    Within n (taggedField α v key context) :=
  .bind (within_field ..) fun _ => within_tagged _

theorem within_formField (v : Json) (key context : String) :
    Within n (formField α v key context) :=
  .bind (within_stringField ..) fun _ => within_ofTag _

end Tags

/-! ### Names and types -/

theorem within_ofQualified (full : String) :
    Within n (do return TypeName.ofQualified (← read).separator full) :=
  .options fun _ => .pure _

theorem within_typeName (v : Json) : Within n (typeName v) := by
  unfold typeName
  cases v with
  | str s => exact .bind (.pure s) within_ofQualified
  | obj members =>
    refine .bind (within_stringField ..) fun kind => ?_
    split
    · exact .bind (.throw _ rfl) fun _ => .bind (within_stringField ..) within_ofQualified
    · exact .bind (within_stringField ..) within_ofQualified
  | _ => exact .bind (within_mismatch ..) within_ofQualified

theorem within_fieldName (v : Json) : Within n (fieldName v) :=
  .bind (within_field ..) fun _ => .bind (within_typeName _) fun _ =>
    .bind (within_stringField ..) fun _ => .pure _

theorem within_optionalExtent (v : Json) (key context : String) :
    Within n (optionalExtent v key context) := by
  refine .bind (within_optional ..) fun found => ?_
  cases found with
  | some w => exact .bind (within_extent ..) fun _ => .pure _
  | none => exact .pure none

/-- A type opens a level and goes on with the types below it, which are lower. -/
theorem within_ty (v : Json) (low : v.height ≤ n) : Within n (ty v) := by
  induction v using ty.induct generalizing n with
  | case1 v member =>
    obtain ⟨k, rfl⟩ := Nat.exists_eq_add_one.2 (Nat.lt_of_lt_of_le v.height_pos low)
    rw [ty]
    refine .nested "type" (.bind (within_formField ..) fun form => ?_)
    cases form with
    | void => exact .pure _
    | int => exact .bind (within_taggedField ..) fun _ => .pure _
    | float => exact .bind (within_taggedField ..) fun _ => .pure _
    | pointer =>
      exact .of_field low fun w lower => .bind (member w.val w.property lower) fun _ =>
        .bind (within_taggedField ..) fun _ => .pure _
    | array =>
      exact .of_field low fun w lower => .bind (member w.val w.property lower) fun _ =>
        .bind (within_optionalExtent ..) fun _ => .bind (within_optionalExtent ..) fun _ => .pure _
    | struct => exact .bind (within_field ..) fun _ => .bind (within_typeName _) fun _ => .pure _
    | var => exact .bind (within_stringField ..) fun _ => .pure _
    | enumeration => exact .throw _ rfl

theorem within_tyField (low : v.height ≤ n + 1) : Within n (tyField v key context) :=
  .of_field low fun _ lower => within_ty _ lower

theorem within_optionalTy (low : v.height ≤ n + 1) : Within n (optionalTy v key context) := by
  refine .bind (within_optional ..) fun found => ?_
  cases found with
  | some w =>
    have lower := w.property.height_lt
    exact .bind (within_ty _ (by omega)) fun _ => .pure _
  | none => exact .pure none

theorem within_methodResult (low : v.height ≤ n + 1) (name : String) :
    Within n (methodResult v name) := by
  refine .options fun o => ?_
  split
  · exact .pure none
  · exact .bind (within_tyField low) fun _ => .pure _

theorem within_procName (low : v.height ≤ n + 1) : Within n (procName v) := by
  refine .bind (within_stringField ..) fun name => .options fun o => ?_
  split
  · exact .pure _
  · exact .bind (within_field ..) fun _ => .bind (within_typeName _) fun _ =>
      .bind (within_listField low within_ty) fun _ => .bind (within_methodResult low _) fun _ =>
      .bind (within_booleanField ..) fun _ => .pure _

theorem within_procNameField (low : v.height ≤ n + 1) :
    Within n (procNameField v key context) :=
  .of_field low fun _ lower => within_procName (Nat.le_succ_of_le lower)

/-! ### Variables, locations and annotations -/

theorem within_temporary (v : Json) : Within n (temporary v) :=
  .bind (within_taggedField ..) fun _ => .bind (within_stringField ..) fun _ =>
    .bind (within_wireIdField ..) fun _ => .pure _

theorem within_temporaryField (v : Json) (key context : String) :
    Within n (temporaryField v key context) :=
  .bind (within_field ..) fun _ => within_temporary _

theorem within_storage (low : v.height ≤ n + 1) : Within n (storage v) := by
  refine .bind (within_formField ..) fun form => ?_
  cases form with
  | localOf => exact .bind (within_procNameField low) fun _ => .pure _
  | calledOf => exact .bind (within_procNameField low) fun _ => .pure _
  | global => exact .pure _

theorem within_programVariable (low : v.height ≤ n + 1) : Within n (programVariable v) :=
  .bind (within_stringField ..) fun _ => .bind (within_storage low) fun _ => .pure _

theorem within_optionalString (v : Json) (key context : String) :
    Within n (optionalString v key context) := by
  refine .bind (within_optional ..) fun found => ?_
  cases found with
  | some w => exact .bind (within_string ..) fun _ => .pure _
  | none => exact .pure none

theorem within_location (v : Json) : Within n (location v) :=
  .bind (within_optionalString ..) fun _ =>
    .bind (within_field ..) fun _ => .bind (within_coordinate ..) fun _ =>
    .bind (within_field ..) fun _ => .bind (within_coordinate ..) fun _ => .pure _

theorem within_locationField (v : Json) (key context : String) :
    Within n (locationField v key context) :=
  .bind (within_field ..) fun _ => within_location _

theorem within_annotationParam (v : Json) : Within n (annotationParam v) :=
  .bind (within_optionalString ..) fun _ => .bind (within_stringField ..) fun _ => .pure _

theorem within_annotationUse (v : Json) : Within n (annotationUse v) :=
  .bind (within_field ..) fun _ => .bind (within_flatListField within_annotationParam ..) fun _ =>
    .bind (within_stringField ..) fun _ => .bind (within_booleanField ..) fun _ => .pure _

theorem within_itemAnnotations (v : Json) : Within n (itemAnnotations v) :=
  .bind (within_items ..) fun _ => .mapM fun w _ => within_annotationUse w

theorem within_methodAnnotations (v : Json) : Within n (methodAnnotations v) :=
  .bind (within_field ..) fun _ => .bind (within_itemAnnotations _) fun _ =>
    .bind (within_flatListField within_itemAnnotations ..) fun _ => .pure _

/-! ### Constants, expressions and instructions -/

theorem within_intLiteral (v : Json) : Within n (intLiteral v) := by
  refine .bind (within_booleanField ..) fun _ => .bind (within_field ..) fun _ =>
    .bind (within_wideInt ..) fun value => .bind (within_booleanField ..) fun isPointer => ?_
  split
  · exact .pure _
  · exact .pure _

theorem within_constant (low : v.height ≤ n + 1) : Within n (constant v) := by
  refine .bind (within_formField ..) fun form => ?_
  cases form with
  | int => exact .bind (within_field ..) fun _ => .bind (within_intLiteral _) fun _ => .pure _
  | procedure => exact .bind (within_procNameField low) fun _ => .pure _
  | string => exact .bind (within_stringField ..) fun _ => .pure _
  | float => exact .bind (within_field ..) fun _ => .pure _
  | classRef => exact .bind (within_stringField ..) fun _ => .pure _

/-- An expression opens a level and goes on with its operands and types, which are lower. -/
theorem within_expr (v : Json) (low : v.height ≤ n) : Within n (expr v) := by
  induction v using expr.induct generalizing n with
  | case1 v member =>
    obtain ⟨k, rfl⟩ := Nat.exists_eq_add_one.2 (Nat.lt_of_lt_of_le v.height_pos low)
    rw [expr]
    refine .nested "expression" (.bind (within_formField ..) fun form => ?_)
    cases form with
    | temporary => exact .bind (within_temporaryField ..) fun _ => .pure _
    | unary =>
      exact .bind (within_taggedField ..) fun _ =>
        .of_field low fun w lower => .bind (member w.val w.property lower) fun _ =>
        .bind (within_optionalTy low) fun _ => .pure _
    | binary =>
      exact .bind (within_taggedField ..) fun _ =>
        .of_field low fun w lower => .bind (member w.val w.property lower) fun _ =>
        .of_field low fun w lower => .bind (member w.val w.property lower) fun _ => .pure _
    | constant =>
      exact .of_field low fun _ lower =>
        .bind (within_constant (Nat.le_succ_of_le lower)) fun _ => .pure _
    | cast =>
      exact .bind (within_tyField low) fun _ =>
        .of_field low fun w lower => .bind (member w.val w.property lower) fun _ => .pure _
    | addressOf =>
      exact .of_field low fun _ lower =>
        .bind (within_programVariable (Nat.le_succ_of_le lower)) fun _ => .pure _
    | fieldOf =>
      exact .of_field low fun w lower => .bind (member w.val w.property lower) fun _ =>
        .bind (within_field ..) fun _ => .bind (within_fieldName _) fun _ =>
        .bind (within_tyField low) fun _ => .pure _
    | elementOf =>
      exact .of_field low fun w lower => .bind (member w.val w.property lower) fun _ =>
        .of_field low fun w lower => .bind (member w.val w.property lower) fun _ => .pure _
    | sizeof =>
      refine .bind (within_tyField low) fun _ => .bind (within_taggedField ..) fun _ =>
        .bind (within_optional ..) fun found => ?_
      cases found with
      | some length =>
        have lower := length.property.height_lt
        exact .bind (member length.val length.property (by omega)) fun _ => .pure _
      | none => exact .pure _

theorem within_exprField (low : v.height ≤ n + 1) : Within n (exprField v key context) :=
  .of_field low fun _ lower => within_expr _ lower

theorem within_callFlags (v : Json) : Within n (callFlags v) :=
  .bind (within_booleanField ..) fun _ => .bind (within_booleanField ..) fun _ =>
    .bind (within_booleanField ..) fun _ => .pure _

theorem within_argument (low : v.height ≤ n + 1) : Within n (argument v) :=
  .bind (within_exprField low) fun _ => .bind (within_tyField low) fun _ => .pure _

/-- An instruction opens no level, so its members may be as high as the levels that are left. -/
theorem within_instr (low : v.height ≤ n + 1) : Within n (instr v) := by
  refine .bind (within_formField ..) fun form => ?_
  cases form with
  | load =>
    exact .bind (within_temporaryField ..) fun _ => .bind (within_exprField low) fun _ =>
      .bind (within_tyField low) fun _ => .bind (within_locationField ..) fun _ => .pure _
  | store =>
    exact .bind (within_exprField low) fun _ => .bind (within_tyField low) fun _ =>
      .bind (within_exprField low) fun _ => .bind (within_locationField ..) fun _ => .pure _
  | prune =>
    exact .bind (within_exprField low) fun _ => .bind (within_booleanField ..) fun _ =>
      .bind (within_taggedField ..) fun _ => .bind (within_locationField ..) fun _ => .pure _
  | call =>
    exact .bind (within_temporaryField ..) fun _ => .bind (within_tyField low) fun _ =>
      .bind (within_exprField low) fun _ =>
      .bind (within_listField low fun _ lower => within_argument (Nat.le_succ_of_le lower)) fun _ =>
      .bind (within_field ..) fun _ => .bind (within_callFlags _) fun _ =>
      .bind (within_locationField ..) fun _ => .pure _

/-! ### Declarations -/

theorem within_binding (context : String) (low : v.height ≤ n + 1) :
    Within n (binding context v) :=
  .bind (within_stringField ..) fun _ => .bind (within_tyField low) fun _ => .pure _

theorem within_localDecl (low : v.height ≤ n + 1) : Within n (localDecl v) :=
  .bind (within_stringField ..) fun _ => .bind (within_tyField low) fun _ =>
    .bind (within_booleanField ..) fun _ => .bind (within_booleanField ..) fun _ => .pure _

theorem within_attributes (low : v.height ≤ n + 1) : Within n (attributes v) := by
  have bindings (context : String) (w : Json) (lower : w.height ≤ n) :
      Within n (binding context w) := within_binding context (Nat.le_succ_of_le lower)
  have locals (w : Json) (lower : w.height ≤ n) : Within n (localDecl w) :=
    within_localDecl (Nat.le_succ_of_le lower)
  refine .bind (within_listField low (bindings _)) fun _ =>
    .bind (within_flatListField (within_string · _) ..) fun _ =>
    .bind (within_listField low (bindings _)) fun _ => .bind (within_listField low locals) fun _ =>
    .bind (within_taggedField ..) fun _ => ?_
  refine .bind (within_booleanField ..) fun _ => .bind (within_booleanField ..) fun _ =>
    .bind (within_booleanField ..) fun _ => .bind (within_booleanField ..) fun _ => ?_
  exact .bind (within_locationField ..) fun _ =>
    .bind (within_field ..) fun _ => .bind (within_methodAnnotations _) fun _ =>
    .bind (within_procNameField low) fun _ => .bind (within_tyField low) fun _ => .pure _

theorem within_structField (low : v.height ≤ n + 1) : Within n (structField v) :=
  .bind (within_field ..) fun _ => .bind (within_fieldName _) fun _ =>
    .bind (within_tyField low) fun _ =>
    .bind (within_field ..) fun _ => .bind (within_itemAnnotations _) fun _ => .pure _

theorem within_structDef (low : v.height ≤ n + 1) : Within n (structDef v) := by
  have fields (w : Json) (lower : w.height ≤ n) : Within n (structField w) :=
    within_structField (Nat.le_succ_of_le lower)
  exact .bind (within_listField low fields) fun _ => .bind (within_listField low fields) fun _ =>
    .bind (within_flatListField within_typeName ..) fun _ =>
    .bind (within_listField low fun _ lower => within_procName (Nat.le_succ_of_le lower)) fun _ =>
    .bind (within_field ..) fun _ => .bind (within_itemAnnotations _) fun _ => .pure _

theorem within_typeEntry (low : v.height ≤ n + 1) : Within n (typeEntry v) :=
  .bind (within_field ..) fun _ => .bind (within_typeName _) fun _ =>
    .of_field low fun _ lower =>
    .bind (within_structDef (Nat.le_succ_of_le lower)) fun _ => .pure _

/-- A table opens no level, so it may be one higher than the levels that are left. -/
theorem within_typeTable (low : v.height ≤ n + 1) : Within n (typeTable v) :=
  .bind (within_list low fun _ lower => within_typeEntry (Nat.le_succ_of_le lower)) fun _ =>
    .pure _

/-! ### Graphs -/

theorem within_nodeKind (v : Json) : Within n (nodeKind v) := by
  refine .bind (within_formField ..) fun form => ?_
  cases form with
  | start => exact .pure _
  | exit => exact .pure _
  | stmt => exact .bind (within_taggedField ..) fun _ => .pure _
  | join => exact .pure _
  | prune =>
    exact .bind (within_booleanField ..) fun _ => .bind (within_taggedField ..) fun _ =>
      .bind (within_taggedField ..) fun _ => .pure _
  | skip => exact .bind (within_stringField ..) fun _ => .pure _

theorem within_procRecord (low : v.height ≤ n + 1) : Within n (procRecord v) :=
  .bind (within_wireIdField ..) fun _ => .of_field low fun _ lower =>
    .bind (within_attributes (Nat.le_succ_of_le lower)) fun _ =>
    .bind (within_wireIdField ..) fun _ => .bind (within_wireIdField ..) fun _ => .pure _

theorem within_nodeTemporary (low : v.height ≤ n + 1) : Within n (nodeTemporary v) :=
  .bind (within_temporaryField ..) fun _ => .bind (within_tyField low) fun _ => .pure _

theorem within_nodeBody (low : v.height ≤ n + 1) : Within n (nodeBody v) := by
  have dead (w : Json) (lower : w.height ≤ n) : Within n (programVariable w) :=
    within_programVariable (Nat.le_succ_of_le lower)
  exact .bind (within_listField low fun _ lower => within_nodeTemporary (Nat.le_succ_of_le lower))
    fun _ => .bind (within_field ..) fun _ => .bind (within_nodeKind _) fun _ =>
    .bind (within_locationField ..) fun _ =>
    .bind (within_listField low fun _ lower => within_instr (Nat.le_succ_of_le lower)) fun _ =>
    .bind (within_listField low dead) fun _ => .bind (within_listField low dead) fun _ =>
    .pure _

theorem within_nodeIds (v : Json) (key : String) : Within n (nodeIds v key) :=
  within_flatListField (within_wireId · _) ..

theorem within_nodeRecord (isProcedure : WireId → Bool) (low : v.height ≤ n + 1) :
    Within n (nodeRecord isProcedure v) := by
  refine .bind (within_wireIdField ..) fun id => .bind (within_wireIdField ..) fun owner => ?_
  have rest : Within n (do
      let body ← nodeBody v
      let succs ← nodeIds v "nd_succ_ids"
      let preds ← nodeIds v "nd_pred_ids"
      let exceptional ← nodeIds v "nd_exn_ids"
      return (id, ({ owner, body, succs, preds, exceptional } : NodeRecord))) :=
    .bind (within_nodeBody low) fun _ => .bind (within_nodeIds ..) fun _ =>
      .bind (within_nodeIds ..) fun _ => .bind (within_nodeIds ..) fun _ => .pure _
  split
  · exact .bind (.throw _ rfl) fun _ => rest
  · exact rest

/-- Registration reads item by item, and a repeated id is no fault of depth. -/
theorem within_register {readRecord : Json → Reading (WireId × α)} (entity : Entity)
    {items : List Json} (each : ∀ w ∈ items, Within n (readRecord w)) (roster : Roster α) :
    Within n (register entity readRecord roster items) := by
  induction items generalizing roster with
  | nil => exact .pure roster
  | cons w rest ih =>
    obtain ⟨first, others⟩ := List.forall_mem_cons.1 each
    rw [register]
    apply first.bind
    rintro ⟨id, record⟩
    dsimp only
    cases roster.insert? id record with
    | some grown => exact ih others grown
    | none => exact .throw _ rfl

theorem within_ofExcept {result : Except Fault α} (final : Final result) :
    Within n (ofExcept result) where
  regular := regular_ofExcept result
  final _ := final

/-- A document of procedures and nodes opens no level by itself, and linking has no fault of
depth. -/
theorem within_flowGraph (low : v.height ≤ n + 1) : Within n (flowGraph v) := by
  refine .of_field low fun procs lower => .of_items (Nat.le_succ_of_le lower) fun procs lowest =>
    .of_field low fun nodes lower' => .of_items (Nat.le_succ_of_le lower') fun nodes lowest' => ?_
  have procedures : Within n (register .procedure procRecord .empty procs) :=
    within_register .procedure (fun w mem => within_procRecord (Nat.le_succ_of_le (lowest w mem)))
      .empty
  refine .bind procedures fun P => ?_
  have bodies : Within n (register .node (nodeRecord P.contains) .empty nodes) :=
    within_register .node
      (fun w mem => within_nodeRecord P.contains (Nat.le_succ_of_le (lowest' w mem))) .empty
  exact .bind bodies fun N => within_ofExcept (FlowGraph.final_ofRosters P N)

end Readers
end Reading
end ProgramModel
