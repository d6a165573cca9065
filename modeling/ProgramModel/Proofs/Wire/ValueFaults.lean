import ProgramModel.Proofs.Wire.Regular
import ProgramModel.FlowGraph.Record

/-!
Faults of readings. A reader that is given one value can miss a member, find another shape or
an unknown tag, meet what is not supported, or be refused for its depth. It never speaks of
ids that are taken or that have no record, which is left to those that bring records together.
Main statements: `plain_procRecord`, and `plain_nodeRecord` for nodes whose owner is not looked
up.
-/

namespace ProgramModel

variable {α β : Type}

/-- The faults that a single value can have. -/
def Fault.isOfValue : Fault → Bool
  | missingField .. | unknownVariant .. | shapeMismatch .. | unsupported .. | depthExceeded .. =>
    true
  | _ => false

namespace Reading

/-- A reading all of whose faults are those of a single value. -/
structure Plain (m : Reading α) : Prop where
  isOfValue {o : Options} {g : Gauge} {fault : Fault} (given : (m.outcome o g).1 = .error fault) :
    fault.isOfValue = true

namespace Plain

variable {m : Reading α} {f : α → Reading β}

/-- The faults of a plain reading are faults of the value. -/
theorem answer (plain : Plain m) {o : Options} {fault : Fault} (given : m.answer o = .error fault) :
    fault.isOfValue = true :=
  plain.isOfValue given

/-! ### Readings put together -/

theorem pure (a : α) : Plain (pure a : Reading α) where
  isOfValue given := by cases given

theorem throw {fault : Fault} (ofValue : fault.isOfValue = true) :
    Plain (throw fault : Reading α) where
  isOfValue given := by
    cases given
    exact ofValue

theorem options {f : Options → Reading β} (rest : ∀ o, Plain (f o)) : Plain (read >>= f) where
  isOfValue given := (rest _).isOfValue given

/-- A sequence fails in one of its parts. -/
theorem bind (first : Plain m) (rest : ∀ a, Plain (f a)) : Plain (m >>= f) where
  isOfValue {o g fault} given := by
    cases outcome : (m.outcome o g).1 with
    | error other =>
      rw [outcome_bind_of_error outcome] at given
      cases given
      exact first.isOfValue outcome
    | ok a =>
      rw [outcome_bind_of_ok outcome] at given
      exact (rest a).isOfValue given

/-- Going too deep is a fault of the value too. -/
theorem nested (context : String) (inner : Plain m) : Plain (nested context m) where
  isOfValue {o g fault} given := by
    rw [outcome_nested] at given
    split at given
    · exact inner.isOfValue given
    · cases given
      rfl

/-- Items fail one by one. -/
theorem mapM (each : ∀ a, Plain (f a)) (items : List α) : Plain (items.mapM f) := by
  induction items with
  | nil => exact .pure []
  | cons a rest ih =>
    rw [List.mapM_cons]
    exact (each a).bind fun _ => ih.bind fun _ => .pure _

end Plain

/-! ### Members and scalars -/

theorem plain_mismatch (expected : Shape) (context : String) (v : Json) :
    Plain (mismatch expected context v : Reading α) := .throw rfl

/-- A missing field and a value that is no object are faults of the value. -/
theorem plain_field (v : Json) (key context : String) : Plain (field v key context) := by
  unfold field
  split
  · split
    · exact .pure _
    · exact .throw rfl
  · exact plain_mismatch ..

theorem plain_optional (v : Json) (key context : String) : Plain (optional v key context) := by
  unfold optional
  split
  · split
    · exact .pure none
    · exact .pure _
  · exact plain_mismatch ..

theorem plain_string (v : Json) (context : String) : Plain (string v context) := by
  cases v with
  | str s => exact .pure s
  | _ => exact plain_mismatch ..

theorem plain_boolean (v : Json) (context : String) : Plain (boolean v context) := by
  cases v with
  | bool b => exact .pure b
  | _ => exact plain_mismatch ..

theorem plain_wireId (v : Json) (context : String) : Plain (wireId v context) := by
  unfold wireId
  split
  · split
    · exact .pure _
    · exact plain_mismatch ..
  · exact plain_mismatch ..

theorem plain_extent (v : Json) (context : String) : Plain (extent v context) := by
  unfold extent
  split
  · split
    · exact .pure _
    · exact plain_mismatch ..
  · exact plain_mismatch ..

theorem plain_coordinate (v : Json) (context : String) : Plain (coordinate v context) := by
  unfold coordinate
  split
  · split
    · exact .pure _
    · exact plain_mismatch ..
  · exact plain_mismatch ..

/-- A number out of range is a fault of the value. -/
theorem plain_wideInt (v : Json) (context : String) : Plain (wideInt v context) := by
  unfold wideInt
  split
  · exact .pure _
  · exact plain_mismatch ..

theorem plain_items (v : Json) (context : String) : Plain (items v context) := by
  cases v with
  | arr items => exact .pure items
  | _ => exact plain_mismatch ..

/-- A list fails for its shape or for an item. -/
theorem plain_list {readItem : Json → Reading α} (plain : ∀ w, Plain (readItem w)) (v : Json)
    (context : String) : Plain (list v context readItem) :=
  .bind (plain_items ..) fun items => .mapM plain items

theorem plain_listField {readItem : Json → Reading α} (plain : ∀ w, Plain (readItem w)) (v : Json)
    (key context : String) : Plain (listField v key context readItem) :=
  .bind (plain_field ..) fun _ => plain_list plain ..

theorem plain_stringField (v : Json) (key context : String) : Plain (stringField v key context) :=
  .bind (plain_field ..) fun _ => plain_string ..

theorem plain_booleanField (v : Json) (key context : String) :
    Plain (booleanField v key context) :=
  .bind (plain_field ..) fun _ => plain_boolean ..

theorem plain_wireIdField (v : Json) (key context : String) : Plain (wireIdField v key context) :=
  .bind (plain_field ..) fun _ => plain_wireId ..

/-! ### Tags -/

section Tags

variable [Tagged α]

/-- A tag that is not known is a fault of the value. -/
theorem plain_ofTag (s : String) : Plain (ofTag α s) := by
  unfold ofTag
  split
  · exact .pure _
  · exact .throw rfl

theorem plain_tagged (v : Json) : Plain (tagged α v) :=
  .bind (plain_string ..) fun _ => plain_ofTag _

theorem plain_taggedField (v : Json) (key context : String) :
    Plain (taggedField α v key context) :=
  .bind (plain_field ..) fun _ => plain_tagged _

theorem plain_formField (v : Json) (key context : String) : Plain (formField α v key context) :=
  .bind (plain_stringField ..) fun _ => plain_ofTag _

end Tags

/-! ### Names and types -/

theorem plain_ofQualified (full : String) :
    Plain (do return TypeName.ofQualified (← read).separator full) :=
  .options fun _ => .pure _

theorem plain_typeName (v : Json) : Plain (typeName v) := by
  unfold typeName
  cases v with
  | str s => exact .bind (.pure s) plain_ofQualified
  | obj members =>
    refine .bind (plain_stringField ..) fun kind => ?_
    split
    · exact .bind (.throw rfl) fun _ => .bind (plain_stringField ..) plain_ofQualified
    · exact .bind (plain_stringField ..) plain_ofQualified
  | _ => exact .bind (plain_mismatch ..) plain_ofQualified

theorem plain_fieldName (v : Json) : Plain (fieldName v) :=
  .bind (plain_field ..) fun _ => .bind (plain_typeName _) fun _ =>
    .bind (plain_stringField ..) fun _ => .pure _

theorem plain_optionalExtent (v : Json) (key context : String) :
    Plain (optionalExtent v key context) := by
  refine .bind (plain_optional ..) fun found => ?_
  cases found with
  | some w => exact .bind (plain_extent ..) fun _ => .pure _
  | none => exact .pure none

/-- Types fail for faults of the value alone, also for a form that is not supported. -/
theorem plain_ty (v : Json) : Plain (ty v) := by
  induction v using ty.induct with
  | case1 v member =>
    rw [ty]
    refine .nested "type" (.bind (plain_formField ..) fun form => ?_)
    cases form with
    | void => exact .pure _
    | int => exact .bind (plain_taggedField ..) fun _ => .pure _
    | float => exact .bind (plain_taggedField ..) fun _ => .pure _
    | pointer =>
      exact .bind (plain_field ..) fun w => .bind (member w.val w.property) fun _ =>
        .bind (plain_taggedField ..) fun _ => .pure _
    | array =>
      exact .bind (plain_field ..) fun w => .bind (member w.val w.property) fun _ =>
        .bind (plain_optionalExtent ..) fun _ => .bind (plain_optionalExtent ..) fun _ => .pure _
    | struct => exact .bind (plain_field ..) fun _ => .bind (plain_typeName _) fun _ => .pure _
    | var => exact .bind (plain_stringField ..) fun _ => .pure _
    | enumeration => exact .throw rfl

theorem plain_tyField (v : Json) (key context : String) : Plain (tyField v key context) :=
  .bind (plain_field ..) fun _ => plain_ty _

theorem plain_optionalTy (v : Json) (key context : String) : Plain (optionalTy v key context) := by
  refine .bind (plain_optional ..) fun found => ?_
  cases found with
  | some w => exact .bind (plain_ty _) fun _ => .pure _
  | none => exact .pure none

theorem plain_methodResult (v : Json) (name : String) : Plain (methodResult v name) := by
  refine .options fun o => ?_
  split
  · exact .pure none
  · exact .bind (plain_tyField ..) fun _ => .pure _

theorem plain_procName (v : Json) : Plain (procName v) := by
  refine .bind (plain_stringField ..) fun name => .options fun o => ?_
  split
  · exact .pure _
  · exact .bind (plain_field ..) fun _ => .bind (plain_typeName _) fun _ =>
      .bind (plain_listField plain_ty ..) fun _ => .bind (plain_methodResult ..) fun _ =>
      .bind (plain_booleanField ..) fun _ => .pure _

theorem plain_procNameField (v : Json) (key context : String) :
    Plain (procNameField v key context) :=
  .bind (plain_field ..) fun _ => plain_procName _

/-! ### Variables, locations and annotations -/

theorem plain_temporary (v : Json) : Plain (temporary v) :=
  .bind (plain_taggedField ..) fun _ => .bind (plain_stringField ..) fun _ =>
    .bind (plain_wireIdField ..) fun _ => .pure _

theorem plain_temporaryField (v : Json) (key context : String) :
    Plain (temporaryField v key context) :=
  .bind (plain_field ..) fun _ => plain_temporary _

theorem plain_storage (v : Json) : Plain (storage v) := by
  refine .bind (plain_formField ..) fun form => ?_
  cases form with
  | localOf => exact .bind (plain_procNameField ..) fun _ => .pure _
  | calledOf => exact .bind (plain_procNameField ..) fun _ => .pure _
  | global => exact .pure _

theorem plain_programVariable (v : Json) : Plain (programVariable v) :=
  .bind (plain_stringField ..) fun _ => .bind (plain_storage v) fun _ => .pure _

theorem plain_optionalString (v : Json) (key context : String) :
    Plain (optionalString v key context) := by
  refine .bind (plain_optional ..) fun found => ?_
  cases found with
  | some w => exact .bind (plain_string ..) fun _ => .pure _
  | none => exact .pure none

theorem plain_location (v : Json) : Plain (location v) :=
  .bind (plain_optionalString ..) fun _ =>
    .bind (plain_field ..) fun _ => .bind (plain_coordinate ..) fun _ =>
    .bind (plain_field ..) fun _ => .bind (plain_coordinate ..) fun _ => .pure _

theorem plain_locationField (v : Json) (key context : String) :
    Plain (locationField v key context) :=
  .bind (plain_field ..) fun _ => plain_location _

theorem plain_annotationParam (v : Json) : Plain (annotationParam v) :=
  .bind (plain_optionalString ..) fun _ => .bind (plain_stringField ..) fun _ => .pure _

theorem plain_annotationUse (v : Json) : Plain (annotationUse v) :=
  .bind (plain_field ..) fun _ => .bind (plain_listField plain_annotationParam ..) fun _ =>
    .bind (plain_stringField ..) fun _ => .bind (plain_booleanField ..) fun _ => .pure _

theorem plain_itemAnnotations (v : Json) : Plain (itemAnnotations v) :=
  plain_list plain_annotationUse ..

theorem plain_methodAnnotations (v : Json) : Plain (methodAnnotations v) :=
  .bind (plain_field ..) fun _ => .bind (plain_itemAnnotations _) fun _ =>
    .bind (plain_listField plain_itemAnnotations ..) fun _ => .pure _

/-! ### Constants, expressions and instructions -/

theorem plain_intLiteral (v : Json) : Plain (intLiteral v) := by
  refine .bind (plain_booleanField ..) fun _ => .bind (plain_field ..) fun _ =>
    .bind (plain_wideInt ..) fun value => .bind (plain_booleanField ..) fun isPointer => ?_
  split
  · exact .pure _
  · exact .pure _

theorem plain_constant (v : Json) : Plain (constant v) := by
  refine .bind (plain_formField ..) fun form => ?_
  cases form with
  | int => exact .bind (plain_field ..) fun _ => .bind (plain_intLiteral _) fun _ => .pure _
  | procedure => exact .bind (plain_procNameField ..) fun _ => .pure _
  | string => exact .bind (plain_stringField ..) fun _ => .pure _
  | float => exact .bind (plain_field ..) fun _ => .pure _
  | classRef => exact .bind (plain_stringField ..) fun _ => .pure _

/-- Expressions fail for faults of the value alone, by induction on it. -/
theorem plain_expr (v : Json) : Plain (expr v) := by
  induction v using expr.induct with
  | case1 v member =>
    rw [expr]
    refine .nested "expression" (.bind (plain_formField ..) fun form => ?_)
    cases form with
    | temporary => exact .bind (plain_temporaryField ..) fun _ => .pure _
    | unary =>
      exact .bind (plain_taggedField ..) fun _ =>
        .bind (plain_field ..) fun w => .bind (member w.val w.property) fun _ =>
        .bind (plain_optionalTy ..) fun _ => .pure _
    | binary =>
      exact .bind (plain_taggedField ..) fun _ =>
        .bind (plain_field ..) fun w => .bind (member w.val w.property) fun _ =>
        .bind (plain_field ..) fun w => .bind (member w.val w.property) fun _ => .pure _
    | constant => exact .bind (plain_field ..) fun _ => .bind (plain_constant _) fun _ => .pure _
    | cast =>
      exact .bind (plain_tyField ..) fun _ =>
        .bind (plain_field ..) fun w => .bind (member w.val w.property) fun _ => .pure _
    | addressOf =>
      exact .bind (plain_field ..) fun _ => .bind (plain_programVariable _) fun _ => .pure _
    | fieldOf =>
      exact .bind (plain_field ..) fun w => .bind (member w.val w.property) fun _ =>
        .bind (plain_field ..) fun _ => .bind (plain_fieldName _) fun _ =>
        .bind (plain_tyField ..) fun _ => .pure _
    | elementOf =>
      exact .bind (plain_field ..) fun w => .bind (member w.val w.property) fun _ =>
        .bind (plain_field ..) fun w => .bind (member w.val w.property) fun _ => .pure _
    | sizeof =>
      refine .bind (plain_tyField ..) fun _ => .bind (plain_taggedField ..) fun _ =>
        .bind (plain_optional ..) fun found => ?_
      cases found with
      | some length => exact .bind (member length.val length.property) fun _ => .pure _
      | none => exact .pure _

theorem plain_exprField (v : Json) (key context : String) : Plain (exprField v key context) :=
  .bind (plain_field ..) fun _ => plain_expr _

theorem plain_callFlags (v : Json) : Plain (callFlags v) :=
  .bind (plain_booleanField ..) fun _ => .bind (plain_booleanField ..) fun _ =>
    .bind (plain_booleanField ..) fun _ => .pure _

theorem plain_argument (v : Json) : Plain (argument v) :=
  .bind (plain_exprField ..) fun _ => .bind (plain_tyField ..) fun _ => .pure _

/-- Instructions fail for faults of the value alone, whatever their form. -/
theorem plain_instr (v : Json) : Plain (instr v) := by
  refine .bind (plain_formField ..) fun form => ?_
  cases form with
  | load =>
    exact .bind (plain_temporaryField ..) fun _ => .bind (plain_exprField ..) fun _ =>
      .bind (plain_tyField ..) fun _ => .bind (plain_locationField ..) fun _ => .pure _
  | store =>
    exact .bind (plain_exprField ..) fun _ => .bind (plain_tyField ..) fun _ =>
      .bind (plain_exprField ..) fun _ => .bind (plain_locationField ..) fun _ => .pure _
  | prune =>
    exact .bind (plain_exprField ..) fun _ => .bind (plain_booleanField ..) fun _ =>
      .bind (plain_taggedField ..) fun _ => .bind (plain_locationField ..) fun _ => .pure _
  | call =>
    exact .bind (plain_temporaryField ..) fun _ => .bind (plain_tyField ..) fun _ =>
      .bind (plain_exprField ..) fun _ => .bind (plain_listField plain_argument ..) fun _ =>
      .bind (plain_field ..) fun _ => .bind (plain_callFlags _) fun _ =>
      .bind (plain_locationField ..) fun _ => .pure _

/-! ### Records -/

theorem plain_binding (context : String) (v : Json) : Plain (binding context v) :=
  .bind (plain_stringField ..) fun _ => .bind (plain_tyField ..) fun _ => .pure _

theorem plain_localDecl (v : Json) : Plain (localDecl v) :=
  .bind (plain_stringField ..) fun _ => .bind (plain_tyField ..) fun _ =>
    .bind (plain_booleanField ..) fun _ => .bind (plain_booleanField ..) fun _ => .pure _

theorem plain_attributes (v : Json) : Plain (attributes v) := by
  refine .bind (plain_listField (plain_binding _) ..) fun _ =>
    .bind (plain_listField (plain_string · _) ..) fun _ =>
    .bind (plain_listField (plain_binding _) ..) fun _ =>
    .bind (plain_listField plain_localDecl ..) fun _ => .bind (plain_taggedField ..) fun _ => ?_
  refine .bind (plain_booleanField ..) fun _ => .bind (plain_booleanField ..) fun _ =>
    .bind (plain_booleanField ..) fun _ => .bind (plain_booleanField ..) fun _ => ?_
  exact .bind (plain_locationField ..) fun _ =>
    .bind (plain_field ..) fun _ => .bind (plain_methodAnnotations _) fun _ =>
    .bind (plain_procNameField ..) fun _ => .bind (plain_tyField ..) fun _ => .pure _

theorem plain_procRecord (v : Json) : Plain (procRecord v) :=
  .bind (plain_wireIdField ..) fun _ => .bind (plain_field ..) fun _ =>
    .bind (plain_attributes _) fun _ => .bind (plain_wireIdField ..) fun _ =>
    .bind (plain_wireIdField ..) fun _ => .pure _

theorem plain_nodeKind (v : Json) : Plain (nodeKind v) := by
  refine .bind (plain_formField ..) fun form => ?_
  cases form with
  | start => exact .pure _
  | exit => exact .pure _
  | stmt => exact .bind (plain_taggedField ..) fun _ => .pure _
  | join => exact .pure _
  | prune =>
    exact .bind (plain_booleanField ..) fun _ => .bind (plain_taggedField ..) fun _ =>
      .bind (plain_taggedField ..) fun _ => .pure _
  | skip => exact .bind (plain_stringField ..) fun _ => .pure _

theorem plain_nodeTemporary (v : Json) : Plain (nodeTemporary v) :=
  .bind (plain_temporaryField ..) fun _ => .bind (plain_tyField ..) fun _ => .pure _

theorem plain_nodeBody (v : Json) : Plain (nodeBody v) :=
  .bind (plain_listField plain_nodeTemporary ..) fun _ => .bind (plain_field ..) fun _ =>
    .bind (plain_nodeKind _) fun _ => .bind (plain_locationField ..) fun _ =>
    .bind (plain_listField plain_instr ..) fun _ =>
    .bind (plain_listField plain_programVariable ..) fun _ =>
    .bind (plain_listField plain_programVariable ..) fun _ => .pure _

theorem plain_nodeIds (v : Json) (key : String) : Plain (nodeIds v key) :=
  plain_listField (plain_wireId · _) ..

/-- When all owners are accepted, no id is looked up. -/
theorem plain_nodeRecord (v : Json) : Plain (nodeRecord (fun _ => true) v) :=
  .bind (plain_wireIdField ..) fun _ => .bind (plain_wireIdField ..) fun _ =>
    .bind (plain_nodeBody v) fun _ => .bind (plain_nodeIds ..) fun _ =>
    .bind (plain_nodeIds ..) fun _ => .bind (plain_nodeIds ..) fun _ => .pure _

end Reading
end ProgramModel
