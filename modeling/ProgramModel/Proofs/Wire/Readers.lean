import ProgramModel.Proofs.Wire.Graded

/-!
All readings of wire values are graded. Each is a chain of smaller ones, which its proof
follows link by link and whose last link compares the levels of the others with the depth
of the value; only types and expressions read values of their own kind, and they do so by
recursion on the height of the value.
-/

namespace ProgramModel

/-! ### Depths -/

@[simp]
theorem Ty.depthOf_some (t : Ty) : Ty.depthOf (some t) = t.depth := Nat.max_zero _

theorem Ty.depth_pos (t : Ty) : 0 < t.depth := by
  cases t <;> exact Nat.succ_pos _

theorem Expr.depth_pos (e : Expr) : 0 < e.depth := by
  cases e <;> exact Nat.succ_pos _

/-- The depth of the procedure's name that a variable of this storage has. -/
def Storage.depth : Storage → Nat
  | localOf p | calledOf p => p.depth
  | global => 0

/-- The depth of a variable is that of the procedure it belongs to. -/
theorem Variable.depth_eq (x : Variable) : x.depth = x.storage.depth := by
  obtain ⟨name, storage⟩ := x
  cases storage with
  | localOf p => exact Nat.max_zero _
  | calledOf p => exact Nat.max_zero _
  | global => rfl

namespace Reading

variable {α : Type} {before : Nat} {depth : α → Nat}

/-! ### Members and scalars -/

theorem graded_mismatch (expected : Shape) (context : String) (v : Json) :
    Graded before (mismatch expected context v : Reading α) depth := .throw _

/-- Access to a field opens no level, found or not. -/
theorem flat_field (v : Json) (key context : String) : Flat (field v key context) := by
  unfold field
  split
  · split
    · exact .pure _ rfl
    · exact .throw _
  · exact graded_mismatch ..

theorem flat_optional (v : Json) (key context : String) : Flat (optional v key context) := by
  unfold optional
  split
  · split
    · exact .pure none rfl
    · exact .pure _ rfl
  · exact graded_mismatch ..

theorem flat_string (v : Json) (context : String) : Flat (string v context) := by
  cases v with
  | str s => exact .pure s rfl
  | _ => exact graded_mismatch ..

theorem flat_boolean (v : Json) (context : String) : Flat (boolean v context) := by
  cases v with
  | bool b => exact .pure b rfl
  | _ => exact graded_mismatch ..

theorem flat_wireId (v : Json) (context : String) : Flat (wireId v context) := by
  unfold wireId
  split
  · split
    · exact .pure _ rfl
    · exact graded_mismatch ..
  · exact graded_mismatch ..

theorem flat_extent (v : Json) (context : String) : Flat (extent v context) := by
  unfold extent
  split
  · split
    · exact .pure _ rfl
    · exact graded_mismatch ..
  · exact graded_mismatch ..

theorem flat_coordinate (v : Json) (context : String) : Flat (coordinate v context) := by
  unfold coordinate
  split
  · split
    · exact .pure _ rfl
    · exact graded_mismatch ..
  · exact graded_mismatch ..

theorem flat_wideInt (v : Json) (context : String) : Flat (wideInt v context) := by
  unfold wideInt
  split
  · exact .pure _ rfl
  · exact graded_mismatch ..

theorem flat_items (v : Json) (context : String) : Flat (items v context) := by
  cases v with
  | arr items => exact .pure items rfl
  | _ => exact graded_mismatch ..

/-- A list is as deep as its deepest item. -/
theorem graded_list {readItem : Json → Reading α} (graded : ∀ w, Graded 0 (readItem w) depth)
    (v : Json) (context : String) :
    Graded 0 (list v context readItem) fun items => deepest (items.map depth) :=
  .flat_bind (flat_items ..) fun items => .mapM graded items

/-- A list of flat items is flat. -/
theorem flat_list {readItem : Json → Reading α} (flat : ∀ w, Flat (readItem w))
    (v : Json) (context : String) : Flat (list v context readItem) :=
  (graded_list flat v context).of_eq deepest_map_zero

theorem flat_stringField (v : Json) (key context : String) : Flat (stringField v key context) :=
  .flat_bind (flat_field ..) fun _ => flat_string ..

theorem flat_booleanField (v : Json) (key context : String) : Flat (booleanField v key context) :=
  .flat_bind (flat_field ..) fun _ => flat_boolean ..

theorem flat_wireIdField (v : Json) (key context : String) : Flat (wireIdField v key context) :=
  .flat_bind (flat_field ..) fun _ => flat_wireId ..

/-- A list under a key needs what its items need. -/
theorem graded_listField {readItem : Json → Reading α}
    (graded : ∀ w, Graded 0 (readItem w) depth) (v : Json) (key context : String) :
    Graded 0 (listField v key context readItem) fun items => deepest (items.map depth) :=
  .flat_bind (flat_field ..) fun _ => graded_list graded ..

theorem flat_listField {readItem : Json → Reading α} (flat : ∀ w, Flat (readItem w))
    (v : Json) (key context : String) : Flat (listField v key context readItem) :=
  .flat_bind (flat_field ..) fun _ => flat_list flat ..

/-! ### Tags -/

section Tags

variable [Tagged α]

theorem flat_ofTag (s : String) : Flat (ofTag α s) := by
  unfold ofTag
  split
  · exact .pure _ rfl
  · exact .throw _

theorem flat_tagged (v : Json) : Flat (tagged α v) :=
  .flat_bind (flat_string ..) fun _ => flat_ofTag _

theorem flat_taggedField (v : Json) (key context : String) : Flat (taggedField α v key context) :=
  .flat_bind (flat_field ..) fun _ => flat_tagged _

theorem flat_formField (v : Json) (key context : String) : Flat (formField α v key context) :=
  .flat_bind (flat_stringField ..) fun _ => flat_ofTag _

end Tags

/-! ### Names and types -/

theorem flat_ofQualified (full : String) :
    Flat (do return TypeName.ofQualified (← read).separator full) :=
  .options (fun _ _ => rfl) fun _ => .pure _ rfl

theorem flat_typeName (v : Json) : Flat (typeName v) := by
  unfold typeName
  cases v with
  | str s => exact .flat_bind (.pure s rfl) flat_ofQualified
  | obj members =>
    refine .flat_bind (flat_stringField ..) fun kind => ?_
    split
    · exact .flat_bind (.throw _) fun _ => .flat_bind (flat_stringField ..) flat_ofQualified
    · exact .flat_bind (flat_stringField ..) flat_ofQualified
  | _ => exact .flat_bind (graded_mismatch ..) flat_ofQualified

theorem flat_fieldName (v : Json) : Flat (fieldName v) :=
  .flat_bind (flat_field ..) fun _ => .flat_bind (flat_typeName _) fun _ =>
    .flat_bind (flat_stringField ..) fun _ => .pure _ rfl

theorem flat_optionalExtent (v : Json) (key context : String) :
    Flat (optionalExtent v key context) := by
  refine .flat_bind (flat_optional ..) fun found => ?_
  cases found with
  | some w => exact .flat_bind (flat_extent ..) fun _ => .pure _ rfl
  | none => exact .pure none rfl

/-- Each type opens a level, so a reading needs as many levels as types are inside each other. -/
theorem graded_ty (v : Json) : Graded 0 (ty v) Ty.depth := by
  induction v using ty.induct with
  | case1 v member =>
    rw [ty]
    refine .level "type" Ty.depth_pos (.flat_bind (flat_formField ..) fun form => ?_)
    cases form with
    | void => exact .pure _ rfl
    | int => exact .flat_bind (flat_taggedField ..) fun _ => .pure _ rfl
    | float => exact .flat_bind (flat_taggedField ..) fun _ => .pure _ rfl
    | pointer =>
      exact .flat_bind (flat_field ..) fun ⟨w, child⟩ => .bind (member w child) fun _ =>
        .flat_bind (flat_taggedField ..) fun _ => .pure _ (by simp [Ty.depth])
    | array =>
      exact .flat_bind (flat_field ..) fun ⟨w, child⟩ => .bind (member w child) fun _ =>
        .flat_bind (flat_optionalExtent ..) fun _ => .flat_bind (flat_optionalExtent ..) fun _ =>
        .pure _ (by simp [Ty.depth])
    | struct =>
      exact .flat_bind (flat_field ..) fun _ => .flat_bind (flat_typeName _) fun _ => .pure _ rfl
    | var => exact .flat_bind (flat_stringField ..) fun _ => .pure _ rfl
    | enumeration => exact .throw _

theorem graded_tyField (v : Json) (key context : String) :
    Graded 0 (tyField v key context) Ty.depth :=
  .flat_bind (flat_field ..) fun _ => graded_ty _

theorem graded_optionalTy (v : Json) (key context : String) :
    Graded 0 (optionalTy v key context) Ty.depthOf := by
  refine .flat_bind (flat_optional ..) fun found => ?_
  cases found with
  | some w => exact .bind (graded_ty _) fun _ => .pure _ (by simp)
  | none => exact .pure none rfl

theorem graded_methodResult (v : Json) (name : String) :
    Graded 0 (methodResult v name) Ty.depthOf := by
  refine .options (fun _ _ => rfl) fun o => ?_
  split
  · exact .pure none rfl
  · exact .bind (graded_tyField ..) fun _ => .pure _ (by simp)

/-- A name of a procedure needs what the types of its parameters and its result need. -/
theorem graded_procName (v : Json) : Graded 0 (procName v) ProcName.depth := by
  refine .flat_bind (flat_stringField ..) fun name => .options (fun _ _ => rfl) fun o => ?_
  split
  · exact .pure _ rfl
  · exact .flat_bind (flat_field ..) fun _ => .flat_bind (flat_typeName _) fun _ =>
      .bind (graded_listField graded_ty ..) fun _ => .bind (graded_methodResult ..) fun _ =>
      .flat_bind (flat_booleanField ..) fun _ => .pure _ (by simp [ProcName.depth])

theorem graded_procNameField (v : Json) (key context : String) :
    Graded 0 (procNameField v key context) ProcName.depth :=
  .flat_bind (flat_field ..) fun _ => graded_procName _

/-! ### Variables, locations and annotations -/

theorem flat_temporary (v : Json) : Flat (temporary v) :=
  .flat_bind (flat_taggedField ..) fun _ => .flat_bind (flat_stringField ..) fun _ =>
    .flat_bind (flat_wireIdField ..) fun _ => .pure _ rfl

theorem flat_temporaryField (v : Json) (key context : String) :
    Flat (temporaryField v key context) :=
  .flat_bind (flat_field ..) fun _ => flat_temporary _

theorem graded_storage (v : Json) : Graded 0 (storage v) Storage.depth := by
  refine .flat_bind (flat_formField ..) fun form => ?_
  cases form with
  | localOf => exact .bind (graded_procNameField ..) fun _ => .pure _ (Nat.zero_max _)
  | calledOf => exact .bind (graded_procNameField ..) fun _ => .pure _ (Nat.zero_max _)
  | global => exact .pure _ rfl

/-- A variable needs what its storage needs. -/
theorem graded_programVariable (v : Json) : Graded 0 (programVariable v) Variable.depth :=
  .flat_bind (flat_stringField ..) fun _ => .bind (graded_storage v) fun _ =>
    .pure _ (by simp [Variable.depth_eq])

theorem flat_optionalString (v : Json) (key context : String) :
    Flat (optionalString v key context) := by
  refine .flat_bind (flat_optional ..) fun found => ?_
  cases found with
  | some w => exact .flat_bind (flat_string ..) fun _ => .pure _ rfl
  | none => exact .pure none rfl

theorem flat_location (v : Json) : Flat (location v) :=
  .flat_bind (flat_optionalString ..) fun _ =>
    .flat_bind (flat_field ..) fun _ => .flat_bind (flat_coordinate ..) fun _ =>
    .flat_bind (flat_field ..) fun _ => .flat_bind (flat_coordinate ..) fun _ => .pure _ rfl

theorem flat_locationField (v : Json) (key context : String) :
    Flat (locationField v key context) :=
  .flat_bind (flat_field ..) fun _ => flat_location _

theorem flat_annotationParam (v : Json) : Flat (annotationParam v) :=
  .flat_bind (flat_optionalString ..) fun _ => .flat_bind (flat_stringField ..) fun _ =>
    .pure _ rfl

theorem flat_annotationUse (v : Json) : Flat (annotationUse v) :=
  .flat_bind (flat_field ..) fun _ =>
    .flat_bind (flat_listField flat_annotationParam ..) fun _ =>
    .flat_bind (flat_stringField ..) fun _ => .flat_bind (flat_booleanField ..) fun _ =>
    .pure _ rfl

theorem flat_itemAnnotations (v : Json) : Flat (itemAnnotations v) :=
  flat_list flat_annotationUse ..

theorem flat_methodAnnotations (v : Json) : Flat (methodAnnotations v) :=
  .flat_bind (flat_field ..) fun _ => .flat_bind (flat_itemAnnotations _) fun _ =>
    .flat_bind (flat_listField flat_itemAnnotations ..) fun _ => .pure _ rfl

/-! ### Constants, expressions and instructions -/

theorem flat_intLiteral (v : Json) : Flat (intLiteral v) := by
  refine .flat_bind (flat_booleanField ..) fun _ => .flat_bind (flat_field ..) fun _ =>
    .flat_bind (flat_wideInt ..) fun value => .flat_bind (flat_booleanField ..) fun isPointer => ?_
  split
  · exact .pure _ rfl
  · exact .pure _ rfl

theorem graded_constant (v : Json) : Graded 0 (constant v) Constant.depth := by
  refine .flat_bind (flat_formField ..) fun form => ?_
  cases form with
  | int =>
    exact .flat_bind (flat_field ..) fun _ => .flat_bind (flat_intLiteral _) fun _ => .pure _ rfl
  | procedure => exact .bind (graded_procNameField ..) fun _ => .pure _ (Nat.zero_max _)
  | string => exact .flat_bind (flat_stringField ..) fun _ => .pure _ rfl
  | float => exact .flat_bind (flat_field ..) fun _ => .pure _ rfl
  | classRef => exact .flat_bind (flat_stringField ..) fun _ => .pure _ rfl

/-- Each expression opens a level. Its operands and types come after each other, so the deepest
one decides. -/
theorem graded_expr (v : Json) : Graded 0 (expr v) Expr.depth := by
  induction v using expr.induct with
  | case1 v member =>
    rw [expr]
    refine .level "expression" Expr.depth_pos (.flat_bind (flat_formField ..) fun form => ?_)
    cases form with
    | temporary => exact .flat_bind (flat_temporaryField ..) fun _ => .pure _ rfl
    | unary =>
      exact .flat_bind (flat_taggedField ..) fun _ =>
        .flat_bind (flat_field ..) fun ⟨w, child⟩ => .bind (member w child) fun _ =>
        .bind (graded_optionalTy ..) fun _ => .pure _ (by simp [Expr.depth])
    | binary =>
      exact .flat_bind (flat_taggedField ..) fun _ =>
        .flat_bind (flat_field ..) fun ⟨w, child⟩ => .bind (member w child) fun _ =>
        .flat_bind (flat_field ..) fun ⟨w', child'⟩ => .bind (member w' child') fun _ =>
        .pure _ (by simp [Expr.depth])
    | constant =>
      exact .flat_bind (flat_field ..) fun _ => .bind (graded_constant _) fun _ =>
        .pure _ (by simp [Expr.depth])
    | cast =>
      exact .bind (graded_tyField ..) fun _ =>
        .flat_bind (flat_field ..) fun ⟨w, child⟩ => .bind (member w child) fun _ =>
        .pure _ (by simp [Expr.depth])
    | addressOf =>
      exact .flat_bind (flat_field ..) fun _ => .bind (graded_programVariable _) fun _ =>
        .pure _ (by simp [Expr.depth])
    | fieldOf =>
      exact .flat_bind (flat_field ..) fun ⟨w, child⟩ => .bind (member w child) fun _ =>
        .flat_bind (flat_field ..) fun _ => .flat_bind (flat_fieldName _) fun _ =>
        .bind (graded_tyField ..) fun _ => .pure _ (by simp [Expr.depth])
    | elementOf =>
      exact .flat_bind (flat_field ..) fun ⟨w, child⟩ => .bind (member w child) fun _ =>
        .flat_bind (flat_field ..) fun ⟨w', child'⟩ => .bind (member w' child') fun _ =>
        .pure _ (by simp [Expr.depth])
    | sizeof =>
      refine .bind (graded_tyField ..) fun _ => .flat_bind (flat_taggedField ..) fun _ =>
        .flat_bind (flat_optional ..) fun found => ?_
      cases found with
      | some length =>
        exact .bind (member length.1 length.2) fun _ => .pure _ (by simp [Expr.depth])
      | none => exact .pure _ (by simp [Expr.depth])

theorem graded_exprField (v : Json) (key context : String) :
    Graded 0 (exprField v key context) Expr.depth :=
  .flat_bind (flat_field ..) fun _ => graded_expr _

theorem flat_callFlags (v : Json) : Flat (callFlags v) :=
  .flat_bind (flat_booleanField ..) fun _ => .flat_bind (flat_booleanField ..) fun _ =>
    .flat_bind (flat_booleanField ..) fun _ => .pure _ rfl

theorem graded_argument (v : Json) :
    Graded 0 (argument v) fun a => max a.1.depth a.2.depth :=
  .bind (graded_exprField ..) fun _ => .bind (graded_tyField ..) fun _ => .pure _ (by simp)

/-- An instruction opens no level and needs what its deepest member needs. -/
theorem graded_instr (v : Json) : Graded 0 (instr v) Instr.depth := by
  refine .flat_bind (flat_formField ..) fun form => ?_
  cases form with
  | load =>
    exact .flat_bind (flat_temporaryField ..) fun _ => .bind (graded_exprField ..) fun _ =>
      .bind (graded_tyField ..) fun _ => .flat_bind (flat_locationField ..) fun _ =>
      .pure _ (by simp [Instr.depth])
  | store =>
    exact .bind (graded_exprField ..) fun _ => .bind (graded_tyField ..) fun _ =>
      .bind (graded_exprField ..) fun _ => .flat_bind (flat_locationField ..) fun _ =>
      .pure _ (by simp [Instr.depth, Nat.max_assoc])
  | prune =>
    exact .bind (graded_exprField ..) fun _ => .flat_bind (flat_booleanField ..) fun _ =>
      .flat_bind (flat_taggedField ..) fun _ => .flat_bind (flat_locationField ..) fun _ =>
      .pure _ (by simp [Instr.depth])
  | call =>
    exact .flat_bind (flat_temporaryField ..) fun _ => .bind (graded_tyField ..) fun _ =>
      .bind (graded_exprField ..) fun _ => .bind (graded_listField graded_argument ..) fun _ =>
      .flat_bind (flat_field ..) fun _ => .flat_bind (flat_callFlags _) fun _ =>
      .flat_bind (flat_locationField ..) fun _ => .pure _ (by simp [Instr.depth])

/-! ### Declarations -/

theorem graded_binding (context : String) (v : Json) :
    Graded 0 (binding context v) fun b => b.type.depth :=
  .flat_bind (flat_stringField ..) fun _ => .bind (graded_tyField ..) fun _ => .pure _ (by simp)

theorem graded_localDecl (v : Json) : Graded 0 (localDecl v) fun d => d.type.depth :=
  .flat_bind (flat_stringField ..) fun _ => .bind (graded_tyField ..) fun _ =>
    .flat_bind (flat_booleanField ..) fun _ => .flat_bind (flat_booleanField ..) fun _ =>
    .pure _ (by simp)

/-- Attributes need what the deepest of their types needs. -/
theorem graded_attributes (v : Json) : Graded 0 (attributes v) Attributes.depth := by
  refine .bind (graded_listField (graded_binding _) ..) fun _ =>
    .flat_bind (flat_listField (flat_string · _) ..) fun _ =>
    .bind (graded_listField (graded_binding _) ..) fun _ =>
    .bind (graded_listField graded_localDecl ..) fun _ => .flat_bind (flat_taggedField ..) fun _ =>
    ?_
  refine .flat_bind (flat_booleanField ..) fun _ => .flat_bind (flat_booleanField ..) fun _ =>
    .flat_bind (flat_booleanField ..) fun _ => .flat_bind (flat_booleanField ..) fun _ => ?_
  exact .flat_bind (flat_locationField ..) fun _ =>
    .flat_bind (flat_field ..) fun _ => .flat_bind (flat_methodAnnotations _) fun _ =>
    .bind (graded_procNameField ..) fun _ => .bind (graded_tyField ..) fun _ =>
    .pure _ (by simp [Attributes.depth, Nat.max_assoc])

theorem graded_structField (v : Json) : Graded 0 (structField v) fun f => f.type.depth :=
  .flat_bind (flat_field ..) fun _ => .flat_bind (flat_fieldName _) fun _ =>
    .bind (graded_tyField ..) fun _ =>
    .flat_bind (flat_field ..) fun _ => .flat_bind (flat_itemAnnotations _) fun _ =>
    .pure _ (by simp)

/-- A definition needs what the deepest type of its fields and methods needs. -/
theorem graded_structDef (v : Json) : Graded 0 (structDef v) StructDef.depth :=
  .bind (graded_listField graded_structField ..) fun _ =>
    .bind (graded_listField graded_structField ..) fun _ =>
    .flat_bind (flat_listField flat_typeName ..) fun _ =>
    .bind (graded_listField graded_procName ..) fun _ =>
    .flat_bind (flat_field ..) fun _ => .flat_bind (flat_itemAnnotations _) fun _ =>
    .pure _ (by simp [StructDef.depth])

theorem graded_typeEntry (v : Json) : Graded 0 (typeEntry v) fun e => e.2.depth :=
  .flat_bind (flat_field ..) fun _ => .flat_bind (flat_typeName _) fun _ =>
    .flat_bind (flat_field ..) fun _ => .bind (graded_structDef _) fun _ => .pure _ (by simp)

/-- The table itself is not graded: it forgets definitions, however deep they are. -/
theorem regular_typeTable (v : Json) : Regular (typeTable v) :=
  .bind (graded_list graded_typeEntry ..).regular fun _ => .pure _

/-! ### Records of graphs -/

theorem flat_nodeKind (v : Json) : Flat (nodeKind v) := by
  refine .flat_bind (flat_formField ..) fun form => ?_
  cases form with
  | start => exact .pure _ rfl
  | exit => exact .pure _ rfl
  | stmt => exact .flat_bind (flat_taggedField ..) fun _ => .pure _ rfl
  | join => exact .pure _ rfl
  | prune =>
    exact .flat_bind (flat_booleanField ..) fun _ => .flat_bind (flat_taggedField ..) fun _ =>
      .flat_bind (flat_taggedField ..) fun _ => .pure _ rfl
  | skip => exact .flat_bind (flat_stringField ..) fun _ => .pure _ rfl

theorem graded_procRecord (v : Json) :
    Graded 0 (procRecord v) fun e => e.2.attributes.depth :=
  .flat_bind (flat_wireIdField ..) fun _ =>
    .flat_bind (flat_field ..) fun _ => .bind (graded_attributes _) fun _ =>
    .flat_bind (flat_wireIdField ..) fun _ => .flat_bind (flat_wireIdField ..) fun _ =>
    .pure _ (by simp)

theorem graded_nodeTemporary (v : Json) : Graded 0 (nodeTemporary v) fun t => t.2.depth :=
  .flat_bind (flat_temporaryField ..) fun _ => .bind (graded_tyField ..) fun _ =>
    .pure _ (by simp)

theorem graded_nodeBody (v : Json) : Graded 0 (nodeBody v) NodeBody.depth :=
  .bind (graded_listField graded_nodeTemporary ..) fun _ =>
    .flat_bind (flat_field ..) fun _ => .flat_bind (flat_nodeKind _) fun _ =>
    .flat_bind (flat_locationField ..) fun _ => .bind (graded_listField graded_instr ..) fun _ =>
    .bind (graded_listField graded_programVariable ..) fun _ =>
    .bind (graded_listField graded_programVariable ..) fun _ =>
    .pure _ (by simp [NodeBody.depth, Nat.max_assoc])

theorem flat_nodeIds (v : Json) (key : String) : Flat (nodeIds v key) :=
  flat_listField (flat_wireId · _) ..

/-- A node needs what its body needs, for its ids are flat. -/
theorem graded_nodeRecord (isProcedure : WireId → Bool) (v : Json) :
    Graded 0 (nodeRecord isProcedure v) fun e => e.2.body.depth := by
  refine .flat_bind (flat_wireIdField ..) fun id => .flat_bind (flat_wireIdField ..) fun owner => ?_
  have rest : Graded 0 (do
      let body ← nodeBody v
      let succs ← nodeIds v "nd_succ_ids"
      let preds ← nodeIds v "nd_pred_ids"
      let exceptional ← nodeIds v "nd_exn_ids"
      return (id, ({ owner, body, succs, preds, exceptional } : NodeRecord)))
      fun e => e.2.body.depth :=
    .bind (graded_nodeBody v) fun _ => .flat_bind (flat_nodeIds ..) fun _ =>
      .flat_bind (flat_nodeIds ..) fun _ => .flat_bind (flat_nodeIds ..) fun _ =>
      .pure _ (by simp)
  split
  · exact .flat_bind (.throw _) fun _ => rest
  · exact rest

/-! ### Regular readings -/

@[grind ←]
theorem regular_field (v : Json) (key context : String) : Regular (field v key context) :=
  (flat_field ..).regular

@[grind ←]
theorem regular_items (v : Json) (context : String) : Regular (items v context) :=
  (flat_items ..).regular

@[grind ←]
theorem regular_wireId (v : Json) (context : String) : Regular (wireId v context) :=
  (flat_wireId ..).regular

@[grind ←]
theorem regular_wireIdField (v : Json) (key context : String) :
    Regular (wireIdField v key context) :=
  (flat_wireIdField ..).regular

@[grind ←]
theorem regular_attributes (v : Json) : Regular (attributes v) := (graded_attributes v).regular

@[grind ←]
theorem regular_procRecord (v : Json) : Regular (procRecord v) := (graded_procRecord v).regular

@[grind ←]
theorem regular_nodeBody (v : Json) : Regular (nodeBody v) := (graded_nodeBody v).regular

@[grind ←]
theorem regular_nodeIds (v : Json) (key : String) : Regular (nodeIds v key) :=
  (flat_nodeIds ..).regular

@[grind ←]
theorem regular_nodeRecord (isProcedure : WireId → Bool) (v : Json) :
    Regular (nodeRecord isProcedure v) :=
  (graded_nodeRecord isProcedure v).regular

@[grind ←]
theorem regular_ofExcept (result : Except Fault α) : Regular (ofExcept result) := by
  cases result with
  | error fault => exact .throw fault
  | ok a => exact .pure a

/-- Registration of regular readings is regular. -/
@[grind ←]
theorem regular_register {readRecord : Json → Reading (WireId × α)}
    (regular : ∀ w, Regular (readRecord w)) (entity : Entity) (roster : Roster α)
    (items : List Json) : Regular (register entity readRecord roster items) := by
  induction items generalizing roster with
  | nil => exact .pure roster
  | cons w rest ih =>
    rw [register]
    refine .bind (regular w) fun ⟨id, record⟩ => ?_
    dsimp only
    cases roster.insert? id record with
    | some roster => exact ih roster
    | none => exact .throw _

end Reading
end ProgramModel
