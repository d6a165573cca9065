import ProgramModel.Proofs.Wire.Members
import ProgramModel.Session
import ProgramModel.Wire.Schema

/-!
Readings see nothing but members under the keys of the schema. Each law below is an equation
between two readings, of a value and of what is left of it, so it covers values and faults
alike; a fault shows of a value only what stays. Main statement: `outcome_normalize`.
-/

namespace ProgramModel.Reading

variable {α β : Type} {v : Json} {key context : String}

/-! ### Sequence -/

/-- Items in normal form are read like the items, if each of them is. -/
theorem mapM_normalize {readItem : Json → Reading α}
    (each : ∀ w : Json, readItem w.normalize = readItem w) (items : List Json) :
    (items.map Json.normalize).mapM readItem = items.mapM readItem := by
  induction items with
  | nil => rfl
  | cons w rest ih => rw [List.map_cons, List.mapM_cons, List.mapM_cons, each, ih]

/-! ### Members -/

/-- What is shown of a value in a fault is the same for its normal form. -/
theorem mismatch_normalize (expected : Shape) (context : String) (v : Json) :
    (mismatch expected context v.normalize : Reading α) = mismatch expected context v := by
  rw [mismatch, mismatch, Json.glimpse_normalize]

/-- What follows a field may depend on the member, which is a normalized one on the left. -/
theorem field_normalize {f' : Member v.normalize → Reading β} {f : Member v → Reading β}
    [Schema.Strict key]
    (rest : ∀ w child' child, f' ⟨w.normalize, child'⟩ = f ⟨w, child⟩) :
    field v.normalize key context >>= f' = field v key context >>= f := by
  have kept := Json.member?_normalize_of_strict v key
  cases found : v.member? key with
  | some w =>
    rw [found] at kept
    rw [field_eq_pure found, field_eq_pure kept, pure_bind, pure_bind]
    exact rest _ _ _
  | none =>
    rw [found] at kept
    cases v with
    | obj members =>
      have missing : field (Json.obj members).normalize key context =
          throw (.missingField key context) :=
        field_eq_throw kept
      rw [missing, field_eq_throw found, throw_bind, throw_bind]
    | arr items =>
      have refused : field (Json.arr items).normalize key context =
          mismatch .object context (Json.arr items).normalize := rfl
      rw [refused, mismatch_normalize]
      rfl
    | _ => rfl

/-- A null that is dropped and a null that is left are both absent. -/
theorem optional_normalize {f' : Option (Member v.normalize) → Reading β}
    {f : Option (Member v) → Reading β} [Schema.Known key] (absent : f' none = f none)
    (present : ∀ w child' child, f' (some ⟨w.normalize, child'⟩) = f (some ⟨w, child⟩)) :
    optional v.normalize key context >>= f' = optional v key context >>= f := by
  cases found : v.member? key with
  | some w =>
    by_cases null : w = .null
    · -- The null is dropped under an optional key and stays under another one.
      subst null
      obtain ⟨members, rfl⟩ := exists_obj_of_member? found
      have none : optional (Json.obj members).normalize key context = pure none := by
        have kept := Json.member?_normalize_obj members key
        by_cases seen : Json.isSeen members key
        · rw [if_pos seen, found] at kept
          exact optional_eq_none_of_null kept
        · rw [if_neg seen] at kept
          exact optional_eq_none kept
      rw [none, optional_eq_none_of_null found, pure_bind, pure_bind, absent]
    · have kept := Json.member?_normalize_of_present found null
      have left : w.normalize ≠ .null := fun h => null (Json.normalize_eq_null_iff.1 h)
      rw [optional_eq_some found null, optional_eq_some kept left, pure_bind, pure_bind]
      exact present _ _ _
  | none =>
    cases v with
    | obj members =>
      have none : optional (Json.obj members).normalize key context = pure none := by
        have kept := Json.member?_normalize_obj members key
        rw [found, Option.map_none, ite_self] at kept
        exact optional_eq_none kept
      rw [none, optional_eq_none found, pure_bind, pure_bind, absent]
    | arr items =>
      have refused : optional (Json.arr items).normalize key context =
          mismatch .object context (Json.arr items).normalize := rfl
      rw [refused, mismatch_normalize]
      rfl
    | _ => rfl

/-- The items of a normal form are the normal forms of the items. -/
theorem items_normalize {f' f : List Json → Reading β}
    (rest : ∀ items, f' (items.map Json.normalize) = f items) :
    items v.normalize context >>= f' = items v context >>= f := by
  cases v with
  | arr found =>
    have left : items (Json.arr found).normalize context = pure (found.map Json.normalize) := by
      rw [← Json.normalizeItems_eq_map]
      rfl
    rw [left, pure_bind]
    exact rest found
  | _ => rfl

/-- A list in normal form is read like the list, if its items are. -/
theorem list_normalize {readItem : Json → Reading α}
    (each : ∀ w : Json, readItem w.normalize = readItem w) (v : Json) (context : String) :
    list v.normalize context readItem = list v context readItem :=
  items_normalize fun items => mapM_normalize each items

/-- So is a list under a key that has to be there. -/
theorem listField_normalize {readItem : Json → Reading α}
    [Schema.Strict key] (each : ∀ w : Json, readItem w.normalize = readItem w) :
    listField v.normalize key context readItem = listField v key context readItem :=
  field_normalize fun w _ _ => list_normalize each w context

/-! ### Scalars and tags -/

/-- A reading of scalars refuses arrays and objects, and shows of them only what stays. -/
theorem scalar_normalize (readScalar : Json → Reading α) (expected : Shape)
    (array : ∀ items, readScalar (.arr items) = mismatch expected context (.arr items))
    (object : ∀ members, readScalar (.obj members) = mismatch expected context (.obj members))
    (v : Json) : readScalar v.normalize = readScalar v := by
  have same := mismatch_normalize (α := α) expected context v
  cases v with
  | arr items => rw [array, ← same, Json.normalize, array]
  | obj members => rw [object, ← same, Json.normalize, object]
  | _ => rfl

theorem string_normalize (v : Json) (context : String) :
    string v.normalize context = string v context :=
  scalar_normalize (string · context) .string (fun _ => rfl) (fun _ => rfl) v

theorem boolean_normalize (v : Json) (context : String) :
    boolean v.normalize context = boolean v context :=
  scalar_normalize (boolean · context) .boolean (fun _ => rfl) (fun _ => rfl) v

theorem wireId_normalize (v : Json) (context : String) :
    wireId v.normalize context = wireId v context :=
  scalar_normalize (wireId · context) .integer (fun _ => rfl) (fun _ => rfl) v

theorem extent_normalize (v : Json) (context : String) :
    extent v.normalize context = extent v context :=
  scalar_normalize (extent · context) .natural (fun _ => rfl) (fun _ => rfl) v

theorem coordinate_normalize (v : Json) (context : String) :
    coordinate v.normalize context = coordinate v context :=
  scalar_normalize (coordinate · context) .coordinate (fun _ => rfl) (fun _ => rfl) v

theorem wideInt_normalize (v : Json) (context : String) :
    wideInt v.normalize context = wideInt v context :=
  scalar_normalize (wideInt · context) .wideInteger (fun _ => rfl) (fun _ => rfl) v

/-- A payload that is no number stays none. -/
theorem binary64_normalize (v : Json) : binary64 v.normalize = binary64 v := by
  cases v <;> rfl

theorem stringField_normalize [Schema.Strict key] :
    stringField v.normalize key context = stringField v key context :=
  field_normalize fun w _ _ => string_normalize w context

theorem booleanField_normalize [Schema.Strict key] :
    booleanField v.normalize key context = booleanField v key context :=
  field_normalize fun w _ _ => boolean_normalize w context

theorem wireIdField_normalize [Schema.Strict key] :
    wireIdField v.normalize key context = wireIdField v key context :=
  field_normalize fun w _ _ => wireId_normalize w context

section Tags

variable [Tagged α]

theorem tagged_normalize (v : Json) : tagged α v.normalize = tagged α v :=
  bind_eq_bind (string_normalize v _) fun _ => rfl

theorem taggedField_normalize [Schema.Strict key] :
    taggedField α v.normalize key context = taggedField α v key context :=
  field_normalize fun w _ _ => tagged_normalize w

theorem formField_normalize [Schema.Strict key] :
    formField α v.normalize key context = formField α v key context :=
  bind_eq_bind stringField_normalize fun _ => rfl

end Tags

/-! ### Names and types -/

/-- Names are read from texts or from objects, and the normal form of each is of the same shape.
-/
theorem typeName_normalize (v : Json) : typeName v.normalize = typeName v := by
  cases v with
  | obj members =>
    apply bind_eq_bind (stringField_normalize (v := .obj members))
    intro kind
    by_cases descriptor : kind = TypeName.classDescriptor
    · rw [if_neg (not_not_intro descriptor), if_neg (not_not_intro descriptor)]
      exact bind_eq_bind (stringField_normalize (v := .obj members)) fun _ => rfl
    · rw [if_pos descriptor, if_pos descriptor]
      rfl
  | arr items =>
    exact bind_eq_bind (mismatch_normalize .typeName "type name" (.arr items)) fun _ => rfl
  | _ => rfl

theorem fieldName_normalize (v : Json) : fieldName v.normalize = fieldName v :=
  field_normalize fun w _ _ => bind_eq_bind (typeName_normalize w) fun _ =>
    bind_eq_bind stringField_normalize fun _ => rfl

theorem optionalExtent_normalize [Schema.Known key] :
    optionalExtent v.normalize key context = optionalExtent v key context :=
  optional_normalize rfl fun w _ _ => bind_eq_bind (extent_normalize w context) fun _ => rfl

/-- By induction on the value, since the normal form of a type has the normal forms of the types
below it. -/
theorem ty_normalize (v : Json) : ty v.normalize = ty v := by
  induction v using ty.induct with
  | case1 v member =>
    rw [ty, ty]
    apply congrArg (nested "type")
    apply bind_eq_bind formField_normalize
    intro form
    cases form with
    | void => rfl
    | int => exact bind_eq_bind taggedField_normalize fun _ => rfl
    | float => exact bind_eq_bind taggedField_normalize fun _ => rfl
    | pointer =>
      exact field_normalize fun w _ child => bind_eq_bind (member w child) fun _ =>
        bind_eq_bind taggedField_normalize fun _ => rfl
    | array =>
      exact field_normalize fun w _ child => bind_eq_bind (member w child) fun _ =>
        bind_eq_bind optionalExtent_normalize fun _ =>
        bind_eq_bind optionalExtent_normalize fun _ => rfl
    | struct =>
      exact field_normalize fun w _ _ => bind_eq_bind (typeName_normalize w) fun _ => rfl
    | var => exact bind_eq_bind stringField_normalize fun _ => rfl
    | enumeration => rfl

theorem tyField_normalize [Schema.Strict key] :
    tyField v.normalize key context = tyField v key context :=
  field_normalize fun w _ _ => ty_normalize w

theorem optionalTy_normalize [Schema.Known key] :
    optionalTy v.normalize key context = optionalTy v key context :=
  optional_normalize rfl fun w _ _ => bind_eq_bind (ty_normalize w) fun _ => rfl

theorem methodResult_normalize (v : Json) (name : String) :
    methodResult v.normalize name = methodResult v name := by
  apply bind_eq_bind rfl
  intro o
  by_cases constructor : name = o.constructorName
  · rw [if_pos constructor, if_pos constructor]
  · rw [if_neg constructor, if_neg constructor]
    exact bind_eq_bind tyField_normalize fun _ => rfl

theorem procName_normalize (v : Json) : procName v.normalize = procName v := by
  apply bind_eq_bind stringField_normalize
  intro name
  apply bind_eq_bind rfl
  intro o
  by_cases builtin : name = o.builtinNewName
  · rw [if_pos builtin, if_pos builtin]
  · rw [if_neg builtin, if_neg builtin]
    exact field_normalize fun w _ _ => bind_eq_bind (typeName_normalize w) fun _ =>
      bind_eq_bind (listField_normalize ty_normalize) fun _ =>
      bind_eq_bind (methodResult_normalize v name) fun _ =>
      bind_eq_bind booleanField_normalize fun _ => rfl

theorem procNameField_normalize [Schema.Strict key] :
    procNameField v.normalize key context = procNameField v key context :=
  field_normalize fun w _ _ => procName_normalize w

/-! ### Variables, locations and annotations -/

theorem temporary_normalize (v : Json) : temporary v.normalize = temporary v :=
  bind_eq_bind taggedField_normalize fun _ => bind_eq_bind stringField_normalize fun _ =>
    bind_eq_bind wireIdField_normalize fun _ => rfl

theorem temporaryField_normalize [Schema.Strict key] :
    temporaryField v.normalize key context = temporaryField v key context :=
  field_normalize fun w _ _ => temporary_normalize w

theorem storage_normalize (v : Json) : storage v.normalize = storage v := by
  apply bind_eq_bind formField_normalize
  intro form
  cases form with
  | localOf => exact bind_eq_bind procNameField_normalize fun _ => rfl
  | calledOf => exact bind_eq_bind procNameField_normalize fun _ => rfl
  | global => rfl

theorem programVariable_normalize (v : Json) : programVariable v.normalize = programVariable v :=
  bind_eq_bind stringField_normalize fun _ => bind_eq_bind (storage_normalize v) fun _ => rfl

theorem optionalString_normalize [Schema.Known key] :
    optionalString v.normalize key context = optionalString v key context :=
  optional_normalize rfl fun w _ _ => bind_eq_bind (string_normalize w context) fun _ => rfl

theorem location_normalize (v : Json) : location v.normalize = location v :=
  bind_eq_bind optionalString_normalize fun _ =>
    field_normalize fun line _ _ => bind_eq_bind (coordinate_normalize line _) fun _ =>
    field_normalize fun column _ _ => bind_eq_bind (coordinate_normalize column _) fun _ => rfl

theorem locationField_normalize [Schema.Strict key] :
    locationField v.normalize key context = locationField v key context :=
  field_normalize fun w _ _ => location_normalize w

theorem annotationParam_normalize (v : Json) : annotationParam v.normalize = annotationParam v :=
  bind_eq_bind optionalString_normalize fun _ => bind_eq_bind stringField_normalize fun _ => rfl

theorem annotationUse_normalize (v : Json) : annotationUse v.normalize = annotationUse v :=
  field_normalize fun body _ _ =>
    bind_eq_bind (listField_normalize (v := body) annotationParam_normalize) fun _ =>
    bind_eq_bind (stringField_normalize (v := body)) fun _ =>
    bind_eq_bind booleanField_normalize fun _ => rfl

theorem itemAnnotations_normalize (v : Json) : itemAnnotations v.normalize = itemAnnotations v :=
  list_normalize annotationUse_normalize v _

theorem methodAnnotations_normalize (v : Json) :
    methodAnnotations v.normalize = methodAnnotations v :=
  field_normalize fun w _ _ => bind_eq_bind (itemAnnotations_normalize w) fun _ =>
    bind_eq_bind (listField_normalize itemAnnotations_normalize) fun _ => rfl

/-! ### Constants, expressions and instructions -/

theorem intLiteral_normalize (v : Json) : intLiteral v.normalize = intLiteral v :=
  bind_eq_bind booleanField_normalize fun _ =>
    field_normalize fun w _ _ => bind_eq_bind (wideInt_normalize w _) fun _ =>
    bind_eq_bind booleanField_normalize fun _ => rfl

theorem constant_normalize (v : Json) : constant v.normalize = constant v := by
  apply bind_eq_bind formField_normalize
  intro form
  cases form with
  | int => exact field_normalize fun w _ _ => bind_eq_bind (intLiteral_normalize w) fun _ => rfl
  | procedure => exact bind_eq_bind procNameField_normalize fun _ => rfl
  | string => exact bind_eq_bind stringField_normalize fun _ => rfl
  | float =>
    refine field_normalize fun w _ _ => ?_
    simp only [binary64_normalize]
  | classRef => exact bind_eq_bind stringField_normalize fun _ => rfl

/-- By induction on the value, like types. -/
theorem expr_normalize (v : Json) : expr v.normalize = expr v := by
  induction v using expr.induct with
  | case1 v member =>
    rw [expr, expr]
    apply congrArg (nested "expression")
    apply bind_eq_bind formField_normalize
    intro form
    cases form with
    | temporary => exact bind_eq_bind temporaryField_normalize fun _ => rfl
    | unary =>
      exact bind_eq_bind taggedField_normalize fun _ =>
        field_normalize fun w _ child => bind_eq_bind (member w child) fun _ =>
        bind_eq_bind optionalTy_normalize fun _ => rfl
    | binary =>
      exact bind_eq_bind taggedField_normalize fun _ =>
        field_normalize fun w _ child => bind_eq_bind (member w child) fun _ =>
        field_normalize fun w' _ child' => bind_eq_bind (member w' child') fun _ => rfl
    | constant =>
      exact field_normalize fun w _ _ => bind_eq_bind (constant_normalize w) fun _ => rfl
    | cast =>
      exact bind_eq_bind tyField_normalize fun _ =>
        field_normalize fun w _ child => bind_eq_bind (member w child) fun _ => rfl
    | addressOf =>
      exact field_normalize fun w _ _ => bind_eq_bind (programVariable_normalize w) fun _ => rfl
    | fieldOf =>
      exact field_normalize fun w _ child => bind_eq_bind (member w child) fun _ =>
        field_normalize fun w' _ _ => bind_eq_bind (fieldName_normalize w') fun _ =>
        bind_eq_bind tyField_normalize fun _ => rfl
    | elementOf =>
      exact field_normalize fun w _ child => bind_eq_bind (member w child) fun _ =>
        field_normalize fun w' _ child' => bind_eq_bind (member w' child') fun _ => rfl
    | sizeof =>
      exact bind_eq_bind tyField_normalize fun _ => bind_eq_bind taggedField_normalize fun _ =>
        optional_normalize rfl fun w _ child => bind_eq_bind (member w child) fun _ => rfl

theorem exprField_normalize [Schema.Strict key] :
    exprField v.normalize key context = exprField v key context :=
  field_normalize fun w _ _ => expr_normalize w

theorem callFlags_normalize (v : Json) : callFlags v.normalize = callFlags v :=
  bind_eq_bind booleanField_normalize fun _ => bind_eq_bind booleanField_normalize fun _ =>
    bind_eq_bind booleanField_normalize fun _ => rfl

theorem argument_normalize (v : Json) : argument v.normalize = argument v :=
  bind_eq_bind exprField_normalize fun _ => bind_eq_bind tyField_normalize fun _ => rfl

theorem instr_normalize (v : Json) : instr v.normalize = instr v := by
  apply bind_eq_bind formField_normalize
  intro form
  cases form with
  | load =>
    exact bind_eq_bind temporaryField_normalize fun _ => bind_eq_bind exprField_normalize fun _ =>
      bind_eq_bind tyField_normalize fun _ => bind_eq_bind locationField_normalize fun _ => rfl
  | store =>
    exact bind_eq_bind exprField_normalize fun _ => bind_eq_bind tyField_normalize fun _ =>
      bind_eq_bind exprField_normalize fun _ => bind_eq_bind locationField_normalize fun _ => rfl
  | prune =>
    exact bind_eq_bind exprField_normalize fun _ => bind_eq_bind booleanField_normalize fun _ =>
      bind_eq_bind taggedField_normalize fun _ => bind_eq_bind locationField_normalize fun _ => rfl
  | call =>
    exact bind_eq_bind temporaryField_normalize fun _ => bind_eq_bind tyField_normalize fun _ =>
      bind_eq_bind exprField_normalize fun _ =>
      bind_eq_bind (listField_normalize argument_normalize) fun _ =>
      field_normalize fun w _ _ => bind_eq_bind (callFlags_normalize w) fun _ =>
      bind_eq_bind locationField_normalize fun _ => rfl

/-! ### Declarations -/

theorem binding_normalize (context : String) (v : Json) :
    binding context v.normalize = binding context v :=
  bind_eq_bind stringField_normalize fun _ => bind_eq_bind tyField_normalize fun _ => rfl

theorem localDecl_normalize (v : Json) : localDecl v.normalize = localDecl v :=
  bind_eq_bind stringField_normalize fun _ => bind_eq_bind tyField_normalize fun _ =>
    bind_eq_bind booleanField_normalize fun _ => bind_eq_bind booleanField_normalize fun _ => rfl

theorem attributes_normalize (v : Json) : attributes v.normalize = attributes v := by
  refine bind_eq_bind (listField_normalize (binding_normalize _)) fun _ =>
    bind_eq_bind (listField_normalize (string_normalize · _)) fun _ =>
    bind_eq_bind (listField_normalize (binding_normalize _)) fun _ =>
    bind_eq_bind (listField_normalize localDecl_normalize) fun _ =>
    bind_eq_bind taggedField_normalize fun _ => ?_
  refine bind_eq_bind booleanField_normalize fun _ => bind_eq_bind booleanField_normalize fun _ =>
    bind_eq_bind booleanField_normalize fun _ => bind_eq_bind booleanField_normalize fun _ => ?_
  exact bind_eq_bind locationField_normalize fun _ =>
    field_normalize fun w _ _ => bind_eq_bind (methodAnnotations_normalize w) fun _ =>
    bind_eq_bind procNameField_normalize fun _ => bind_eq_bind tyField_normalize fun _ => rfl

theorem structField_normalize (v : Json) : structField v.normalize = structField v :=
  field_normalize fun w _ _ => bind_eq_bind (fieldName_normalize w) fun _ =>
    bind_eq_bind tyField_normalize fun _ =>
    field_normalize fun w' _ _ => bind_eq_bind (itemAnnotations_normalize w') fun _ => rfl

theorem structDef_normalize (v : Json) : structDef v.normalize = structDef v :=
  bind_eq_bind (listField_normalize structField_normalize) fun _ =>
    bind_eq_bind (listField_normalize structField_normalize) fun _ =>
    bind_eq_bind (listField_normalize typeName_normalize) fun _ =>
    bind_eq_bind (listField_normalize procName_normalize) fun _ =>
    field_normalize fun w _ _ => bind_eq_bind (itemAnnotations_normalize w) fun _ => rfl

theorem typeEntry_normalize (v : Json) : typeEntry v.normalize = typeEntry v :=
  field_normalize fun w _ _ => bind_eq_bind (typeName_normalize w) fun _ =>
    field_normalize fun w' _ _ => bind_eq_bind (structDef_normalize w') fun _ => rfl

theorem typeTable_normalize (v : Json) : typeTable v.normalize = typeTable v :=
  bind_eq_bind (list_normalize typeEntry_normalize v _) fun _ => rfl

/-! ### Graphs -/

theorem nodeKind_normalize (v : Json) : nodeKind v.normalize = nodeKind v := by
  apply bind_eq_bind formField_normalize
  intro form
  cases form with
  | start => rfl
  | exit => rfl
  | stmt => exact bind_eq_bind taggedField_normalize fun _ => rfl
  | join => rfl
  | prune =>
    exact bind_eq_bind booleanField_normalize fun _ => bind_eq_bind taggedField_normalize fun _ =>
      bind_eq_bind taggedField_normalize fun _ => rfl
  | skip => exact bind_eq_bind stringField_normalize fun _ => rfl

theorem procRecord_normalize (v : Json) : procRecord v.normalize = procRecord v :=
  bind_eq_bind wireIdField_normalize fun _ =>
    field_normalize fun w _ _ => bind_eq_bind (attributes_normalize w) fun _ =>
    bind_eq_bind wireIdField_normalize fun _ => bind_eq_bind wireIdField_normalize fun _ => rfl

theorem nodeTemporary_normalize (v : Json) : nodeTemporary v.normalize = nodeTemporary v :=
  bind_eq_bind temporaryField_normalize fun _ => bind_eq_bind tyField_normalize fun _ => rfl

theorem nodeBody_normalize (v : Json) : nodeBody v.normalize = nodeBody v :=
  bind_eq_bind (listField_normalize nodeTemporary_normalize) fun _ =>
    field_normalize fun w _ _ => bind_eq_bind (nodeKind_normalize w) fun _ =>
    bind_eq_bind locationField_normalize fun _ =>
    bind_eq_bind (listField_normalize instr_normalize) fun _ =>
    bind_eq_bind (listField_normalize programVariable_normalize) fun _ =>
    bind_eq_bind (listField_normalize programVariable_normalize) fun _ => rfl

theorem nodeIds_normalize [Schema.Strict key] :
    nodeIds v.normalize key = nodeIds v key :=
  listField_normalize (wireId_normalize · _)

theorem nodeRecord_normalize (isProcedure : WireId → Bool) (v : Json) :
    nodeRecord isProcedure v.normalize = nodeRecord isProcedure v := by
  apply bind_eq_bind wireIdField_normalize
  intro id
  apply bind_eq_bind wireIdField_normalize
  intro owner
  cases isProcedure owner with
  | false =>
    simp only [Bool.not_false, if_true, throw_bind]
  | true =>
    simp only [Bool.not_true, Bool.false_eq_true, if_false]
    exact bind_eq_bind (nodeBody_normalize v) fun _ => bind_eq_bind nodeIds_normalize fun _ =>
      bind_eq_bind nodeIds_normalize fun _ => bind_eq_bind nodeIds_normalize fun _ => rfl

/-- Items in normal form register like the items. -/
theorem register_normalize {readRecord : Json → Reading (WireId × α)}
    (each : ∀ w : Json, readRecord w.normalize = readRecord w) (entity : Entity)
    (roster : Roster α) (items : List Json) :
    register entity readRecord roster (items.map Json.normalize) =
      register entity readRecord roster items := by
  induction items generalizing roster with
  | nil => rfl
  | cons w rest ih =>
    rw [List.map_cons, register, register]
    apply bind_eq_bind (each w)
    intro e
    cases inserted : roster.insert? e.1 e.2 with
    | some grown =>
      simp only [inserted]
      exact ih grown
    | none => simp only [inserted]

/-- Documents in normal form are read as the same graph, or fail alike. -/
theorem flowGraph_normalize (v : Json) : flowGraph v.normalize = flowGraph v := by
  refine field_normalize fun w _ _ => items_normalize fun procedures =>
    field_normalize fun w' _ _ => items_normalize fun nodes => ?_
  apply bind_eq_bind (register_normalize procRecord_normalize ..)
  intro P
  exact bind_eq_bind (register_normalize (nodeRecord_normalize P.contains) ..) fun _ => rfl

end ProgramModel.Reading

namespace ProgramModel

/-- Whatever a value is read as, its normal form is read alike. -/
theorem Subject.reading_normalize (s : Subject) (v : Json) :
    s.reading v.normalize = s.reading v := by
  cases s with
  | typeName => exact congrArg (Decoded.typeName <$> ·) (Reading.typeName_normalize v)
  | procName => exact congrArg (Decoded.procName <$> ·) (Reading.procName_normalize v)
  | fieldName => exact congrArg (Decoded.fieldName <$> ·) (Reading.fieldName_normalize v)
  | temporary => exact congrArg (Decoded.temporary <$> ·) (Reading.temporary_normalize v)
  | programVariable =>
    exact congrArg (Decoded.programVariable <$> ·) (Reading.programVariable_normalize v)
  | location => exact congrArg (Decoded.location <$> ·) (Reading.location_normalize v)
  | intLiteral => exact congrArg (Decoded.intLiteral <$> ·) (Reading.intLiteral_normalize v)
  | type => exact congrArg (Decoded.type <$> ·) (Reading.ty_normalize v)
  | constant => exact congrArg (Decoded.constant <$> ·) (Reading.constant_normalize v)
  | expr => exact congrArg (Decoded.expr <$> ·) (Reading.expr_normalize v)
  | instr => exact congrArg (Decoded.instr <$> ·) (Reading.instr_normalize v)
  | itemAnnotations =>
    exact congrArg (Decoded.itemAnnotations <$> ·) (Reading.itemAnnotations_normalize v)
  | methodAnnotations =>
    exact congrArg (Decoded.methodAnnotations <$> ·) (Reading.methodAnnotations_normalize v)
  | attributes => exact congrArg (Decoded.attributes <$> ·) (Reading.attributes_normalize v)
  | nodeKind => exact congrArg (Decoded.nodeKind <$> ·) (Reading.nodeKind_normalize v)
  | structDef => exact congrArg (Decoded.structDef <$> ·) (Reading.structDef_normalize v)
  | typeTable => exact congrArg (Decoded.typeTable <$> ·) (Reading.typeTable_normalize v)
  | flowGraph => exact congrArg (Decoded.flowGraph <$> ·) (Reading.flowGraph_normalize v)

/-- Values of all kinds are read from what is left of a document as they are from the whole
of it, with the same fault if there is one, and tables are extended in the same way. -/
theorem outcome_normalize (o : Options) (v : Json) :
    (∀ (s : Subject) (g : Gauge),
      (s.reading v.normalize).outcome o g = (s.reading v).outcome o g) ∧
    ∀ t : TypeTable, t.extend o v.normalize = t.extend o v := by
  constructor
  · intro s g
    rw [s.reading_normalize]
  · intro t
    rw [TypeTable.extend, TypeTable.extend, Reading.typeTable_normalize]

end ProgramModel
