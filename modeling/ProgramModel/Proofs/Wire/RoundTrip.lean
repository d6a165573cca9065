import ProgramModel.Constituent
import ProgramModel.Proofs.Wire.Yields

/-!
Written values are read back. The written form of a value has each member where the reading
looks for it, so each law below follows the reading of its kind and takes the members in
their turn. A float constant is written only if it is no number, and comes back as the NaN
that documents give. Main statement: `answer_toWire`.
-/

namespace ProgramModel

variable {o : Options}

/-! ### What is read back -/

/-- The constant with the NaN that documents give for any other. -/
def Constant.withOneNaN : Constant → Constant
  | float x => float (if x.isNaN then .nan else x)
  | int l => int l
  | procedure name => procedure name
  | string s => string s
  | classRef name => classRef name

/-- The expression with one NaN in all its constants. -/
def Expr.withOneNaN : Expr → Expr
  | temporary t => temporary t
  | unary op operand result => unary op operand.withOneNaN result
  | binary op left right => binary op left.withOneNaN right.withOneNaN
  | constant c => constant c.withOneNaN
  | cast target operand => cast target operand.withOneNaN
  | addressOf x => addressOf x
  | fieldOf base field type => fieldOf base.withOneNaN field type
  | elementOf array index => elementOf array.withOneNaN index.withOneNaN
  | sizeof type kind => sizeof type kind
  | sizeofArray type kind length => sizeofArray type kind length.withOneNaN

def Instr.withOneNaN : Instr → Instr
  | load target address type location => load target address.withOneNaN type location
  | store address type value location => store address.withOneNaN type value.withOneNaN location
  | prune condition trueBranch kind location =>
    prune condition.withOneNaN trueBranch kind location
  | call result callee arguments flags location =>
    call result callee.withOneNaN (arguments.map fun a => (a.1.withOneNaN, a.2)) flags location

/-- Another NaN does not change the depth. -/
@[simp]
theorem Expr.depth_withOneNaN (e : Expr) : e.withOneNaN.depth = e.depth := by
  induction e with
  | constant c => cases c <;> rfl
  | _ => simp [withOneNaN, depth, *]

@[simp]
theorem Instr.depth_withOneNaN (i : Instr) : i.withOneNaN.depth = i.depth := by
  cases i <;> simp [withOneNaN, depth, Function.comp_def]

/-! ### Values that are there -/

theorem Json.ofInt_ne_null (i : Int) : Json.ofInt i ≠ .null := by
  simp [Json.ofInt]

theorem Ty.toWire_ne_null (t : Ty) : t.toWire o ≠ .null := by
  cases t <;> simp [toWire]

/-- No expression is written as null, so none counts as absent. -/
theorem Expr.toWire_ne_null (e : Expr) : e.toWire o ≠ .null := by
  cases e <;> simp [toWire]

/-! ### Names -/

/-- A name with no separator in its simple part is what its joined text is read as. -/
theorem TypeName.ofQualified_join {n : TypeName} (simple : n.Simple o) :
    ofQualified o.separator (n.join o.separator) = n := by
  obtain ⟨scope, name⟩ := n
  by_cases top : scope.isEmpty
  · have whole : splitLast o.separator name.toList = none := splitLast_eq_none_iff.2 simple
    rw [join, if_pos top]
    simp [ofQualified, whole, String.isEmpty_iff.1 top]
  · have parts : splitLast o.separator (scope.toList ++ o.separator :: name.toList) =
        some (scope.toList, name.toList) :=
      splitLast_eq_some_iff.2 ⟨rfl, simple⟩
    rw [join, if_neg top]
    simp [ofQualified, parts]

namespace Reading

variable {v : Json} {key context : String}

theorem yields_typeName {n : TypeName} (simple : n.Simple o) :
    Yields (typeName (n.toWire o)) o n := by
  refine .bind .pure (.options (fun _ => rfl) ?_)
  rw [TypeName.ofQualified_join simple]
  exact .pure

theorem yields_fieldName {f : FieldName} (writable : ∀ c ∈ f.constituents, c.Writable o) :
    Yields (fieldName (f.toWire o)) o f := by
  have simple : f.owner.Simple o := writable (.typeName f.owner) (List.mem_singleton_self _)
  exact .of_field rfl fun _ => .bind (yields_typeName simple) (.bind (yields_stringField rfl) .pure)

/-! ### Types -/

theorem yields_optionalExtent {members : List (String × Json)} {n : Option Extent}
    (found : (Json.obj members).member? key = n.map fun n => .ofInt n.val) :
    Yields (optionalExtent (.obj members) key context) o n := by
  cases n with
  | some n =>
    exact .of_optional found (Json.ofInt_ne_null n.val) fun _ => .bind (yields_extent n) .pure
  | none => exact .of_absent found .pure

/-- Types are read back as they were written, form by form. -/
theorem yields_ty {t : Ty} (writable : ∀ c ∈ t.constituents, c.Writable o) :
    Yields (ty (t.toWire o)) o t := by
  induction t with
  | void =>
    rw [ty]
    exact .nested _ (.bind (yields_formField (a := TyForm.void) rfl) .pure)
  | int kind =>
    rw [ty]
    exact .nested _ (.bind (yields_formField (a := TyForm.int) rfl)
      (.bind (yields_taggedField rfl) .pure))
  | float kind =>
    rw [ty]
    exact .nested _ (.bind (yields_formField (a := TyForm.float) rfl)
      (.bind (yields_taggedField rfl) .pure))
  | pointer target kind ih =>
    rw [ty]
    exact .nested _ (.bind (yields_formField (a := TyForm.pointer) rfl)
      (.of_field rfl fun _ => .bind (ih writable) (.bind (yields_taggedField rfl) .pure)))
  | array element length stride ih =>
    rw [ty]
    refine .nested _ (.bind (yields_formField (a := TyForm.array) rfl)
      (.of_field rfl fun _ => .bind (ih writable)
        (.bind (a := length) ?_ (.bind (a := stride) ?_ .pure))))
    · apply yields_optionalExtent
      cases length <;> cases stride <;> rfl
    · apply yields_optionalExtent
      cases length <;> cases stride <;> rfl
  | struct name =>
    have simple : name.Simple o := writable (.typeName name) (List.mem_singleton_self _)
    rw [ty]
    exact .nested _ (.bind (yields_formField (a := TyForm.struct) rfl)
      (.of_field rfl fun _ => .bind (yields_typeName simple) .pure))
  | var name =>
    rw [ty]
    exact .nested _ (.bind (yields_formField (a := TyForm.var) rfl)
      (.bind (yields_stringField rfl) .pure))

theorem yields_tyField {t : Ty} (found : v.member? key = some (t.toWire o))
    (writable : ∀ c ∈ t.constituents, c.Writable o) : Yields (tyField v key context) o t :=
  .of_field found fun _ => yields_ty writable

theorem yields_optionalTy {members : List (String × Json)} {t : Option Ty}
    (found : (Json.obj members).member? key = t.map (Ty.toWire o))
    (writable : ∀ c ∈ Ty.constituentsOf t, c.Writable o) :
    Yields (optionalTy (.obj members) key context) o t := by
  cases t with
  | some t =>
    have writableType : ∀ c ∈ t.constituents, c.Writable o := by
      simpa [Ty.constituentsOf] using writable
    exact .of_optional found (Ty.toWire_ne_null t) fun _ => .bind (yields_ty writableType) .pure
  | none => exact .of_absent found .pure

/-! ### Procedures and variables -/

/-- The result is left out for a constructor, and for a constructor it is not looked at. -/
theorem yields_methodResult {s : Signature} (regular : s.Regular o)
    (found : v.member? "return_type" = s.result.map (Ty.toWire o))
    (writable : ∀ c ∈ Ty.constituentsOf s.result, c.Writable o) :
    Yields (methodResult v s.name) o s.result := by
  refine .options (fun _ => rfl) ?_
  by_cases constructor : s.name = o.constructorName
  · rw [if_pos constructor, regular.result.2 constructor]
    exact .pure
  · rw [if_neg constructor]
    cases given : s.result with
    | none => exact absurd (regular.result.1 given) constructor
    | some t =>
      rw [given] at found writable
      have writableType : ∀ c ∈ t.constituents, c.Writable o := by
        simpa [Ty.constituentsOf] using writable
      exact .bind (yields_tyField found writableType) .pure

/-- Names of procedures are read back with their signatures. -/
theorem yields_procName {p : ProcName} (writable : ∀ c ∈ p.constituents, c.Writable o) :
    Yields (procName (p.toWire o)) o p := by
  cases p with
  | builtinNew =>
    refine .bind (yields_stringField rfl) (.options (fun _ => rfl) ?_)
    rw [ProcName.wireMethodName, if_pos rfl]
    exact .pure
  | method s =>
    simp only [ProcName.constituents, List.forall_mem_cons, List.forall_mem_append,
      List.forall_mem_flatMap] at writable
    obtain ⟨regular, simple, parameters, result⟩ := writable
    refine .bind (yields_stringField rfl) (.options (fun _ => rfl) ?_)
    rw [ProcName.wireMethodName, if_neg regular.name]
    refine .of_field rfl fun _ => .bind (yields_typeName simple)
      (.bind (a := s.parameters) (yields_listField rfl ?_)
        (.bind (yields_methodResult regular ?_ result) (.bind (a := s.isStatic) ?_ .pure)))
    · rw [List.forall₂_map_left_iff, List.forall₂_same]
      intro t mem
      exact yields_ty (parameters t mem)
    · cases given : s.result <;> simp only [ProcName.toWire, given] <;> rfl
    · apply yields_booleanField
      cases given : s.result <;> simp only [ProcName.toWire, given] <;> rfl

theorem yields_procNameField {p : ProcName} (found : v.member? key = some (p.toWire o))
    (writable : ∀ c ∈ p.constituents, c.Writable o) :
    Yields (procNameField v key context) o p :=
  .of_field found fun _ => yields_procName writable

/-- Variables are read back, local ones with the procedure that they belong to. -/
theorem yields_programVariable {x : Variable} (writable : ∀ c ∈ x.constituents, c.Writable o) :
    Yields (programVariable (x.toWire o)) o x := by
  obtain ⟨name, storage⟩ := x
  refine .bind (yields_stringField rfl) (.bind (a := storage) ?_ .pure)
  cases storage with
  | localOf p =>
    exact .bind (yields_formField (a := StorageForm.localOf) rfl)
      (.bind (yields_procNameField rfl writable) .pure)
  | calledOf p =>
    exact .bind (yields_formField (a := StorageForm.calledOf) rfl)
      (.bind (yields_procNameField rfl writable) .pure)
  | global => exact .bind (yields_formField (a := StorageForm.global) rfl) .pure

theorem yields_temporary (t : Temporary) : Yields (temporary t.toWire) o t :=
  .bind (yields_taggedField rfl) (.bind (yields_stringField rfl)
    (.bind (yields_wireIdField rfl) .pure))

theorem yields_temporaryField {t : Temporary} (found : v.member? key = some t.toWire) :
    Yields (temporaryField v key context) o t :=
  .of_field found fun _ => yields_temporary t

theorem yields_location (l : Location) : Yields (location l.toWire) o l := by
  obtain ⟨line, column, file⟩ := l
  refine .bind (a := file) ?_ (.of_field (w := .ofInt line.val) ?_ fun _ =>
    .bind (yields_coordinate line) (.of_field (w := .ofInt column.val) ?_ fun _ =>
      .bind (yields_coordinate column) .pure))
  · cases file with
    | some f => exact .of_optional rfl (by simp) fun _ => .bind .pure .pure
    | none => exact .of_absent rfl .pure
  · cases file <;> rfl
  · cases file <;> rfl

theorem yields_locationField {l : Location} (found : v.member? key = some l.toWire) :
    Yields (locationField v key context) o l :=
  .of_field found fun _ => yields_location l

/-! ### Constants, expressions and instructions -/

/-- A canonical literal is read back. One that is marked as a pointer is read as null, whatever
its value. -/
theorem yields_intLiteral {l : IntLiteral} (canonical : l.Canonical) :
    Yields (intLiteral l.toWire) o l := by
  refine .bind (yields_booleanField rfl) (.of_field rfl fun _ => .bind (yields_wideInt l.value)
    (.bind (yields_booleanField rfl) ?_))
  by_cases pointer : l.isPointer = true
  · rw [canonical pointer]
    exact .pure
  · have unmarked : l.isPointer = false := Bool.eq_false_iff.2 pointer
    simp only [unmarked, Bool.false_and, Bool.false_eq_true, if_false]
    rw [← unmarked]
    exact .pure

/-- Constants are read back, with the one NaN that there is for any other. -/
theorem yields_constant {c : Constant} (writable : ∀ d ∈ c.constituents, d.Writable o) :
    Yields (constant (c.toWire o)) o c.withOneNaN := by
  cases c with
  | int l =>
    have canonical : l.Canonical := writable (.literal l) (List.mem_singleton_self _)
    exact .bind (yields_formField (a := ConstantForm.int) rfl)
      (.of_field rfl fun _ => .bind (yields_intLiteral canonical) .pure)
  | procedure name =>
    exact .bind (yields_formField (a := ConstantForm.procedure) rfl)
      (.bind (yields_procNameField rfl writable) .pure)
  | string s =>
    exact .bind (yields_formField (a := ConstantForm.string) rfl)
      (.bind (yields_stringField rfl) .pure)
  | float x =>
    -- A writable float is a NaN, and that is written as null.
    have isNaN : x.isNaN = true := writable (.float x) (List.mem_singleton_self _)
    have notFinite : x.isFinite = false := (Binary64.not_isFinite_iff x).2 (.inl isNaN)
    refine .bind (yields_formField (a := ConstantForm.float) rfl)
      (.of_field (w := .null) ?_ fun _ => ?_)
    · have none : Json.ofBinary64 x = .null := by simp [Json.ofBinary64, notFinite]
      rw [← none]
      rfl
    · rw [Constant.withOneNaN, if_pos isNaN]
      exact .pure
  | classRef name =>
    exact .bind (yields_formField (a := ConstantForm.classRef) rfl)
      (.bind (yields_stringField rfl) .pure)

/-- Expressions are read back, with the one NaN that there is for any other. -/
theorem yields_expr {e : Expr} (writable : ∀ c ∈ e.constituents, c.Writable o) :
    Yields (expr (e.toWire o)) o e.withOneNaN := by
  induction e with
  | temporary t =>
    rw [expr]
    exact .nested _ (.bind (yields_formField (a := ExprForm.temporary) rfl)
      (.bind (yields_temporaryField rfl) .pure))
  | unary op operand result ih =>
    simp only [Expr.constituents, List.forall_mem_cons, List.forall_mem_append] at writable
    obtain ⟨_, writableOperand, writableResult⟩ := writable
    rw [expr]
    refine .nested _ (.bind (yields_formField (a := ExprForm.unary) rfl)
      (.bind (yields_taggedField rfl) (.of_field rfl fun _ => .bind (ih writableOperand)
        (.bind (yields_optionalTy ?_ writableResult) .pure))))
    cases result <;> rfl
  | binary op left right ihLeft ihRight =>
    simp only [Expr.constituents, List.forall_mem_cons, List.forall_mem_append] at writable
    obtain ⟨_, writableLeft, writableRight⟩ := writable
    rw [expr]
    exact .nested _ (.bind (yields_formField (a := ExprForm.binary) rfl)
      (.bind (yields_taggedField rfl) (.of_field rfl fun _ => .bind (ihLeft writableLeft)
        (.of_field rfl fun _ => .bind (ihRight writableRight) .pure))))
  | constant c =>
    simp only [Expr.constituents, List.forall_mem_cons] at writable
    rw [expr]
    exact .nested _ (.bind (yields_formField (a := ExprForm.constant) rfl)
      (.of_field rfl fun _ => .bind (yields_constant writable.2) .pure))
  | cast target operand ih =>
    simp only [Expr.constituents, List.forall_mem_cons, List.forall_mem_append] at writable
    obtain ⟨_, writableTarget, writableOperand⟩ := writable
    rw [expr]
    exact .nested _ (.bind (yields_formField (a := ExprForm.cast) rfl)
      (.bind (yields_tyField rfl writableTarget)
        (.of_field rfl fun _ => .bind (ih writableOperand) .pure)))
  | addressOf x =>
    simp only [Expr.constituents, List.forall_mem_cons] at writable
    rw [expr]
    exact .nested _ (.bind (yields_formField (a := ExprForm.addressOf) rfl)
      (.of_field rfl fun _ => .bind (yields_programVariable writable.2) .pure))
  | fieldOf base name type ih =>
    simp only [Expr.constituents, List.forall_mem_cons, List.forall_mem_append] at writable
    obtain ⟨_, writableBase, writableName, writableType⟩ := writable
    rw [expr]
    exact .nested _ (.bind (yields_formField (a := ExprForm.fieldOf) rfl)
      (.of_field rfl fun _ => .bind (ih writableBase)
        (.of_field rfl fun _ => .bind (yields_fieldName writableName)
          (.bind (yields_tyField rfl writableType) .pure))))
  | elementOf array index ihArray ihIndex =>
    simp only [Expr.constituents, List.forall_mem_cons, List.forall_mem_append] at writable
    obtain ⟨_, writableArray, writableIndex⟩ := writable
    rw [expr]
    exact .nested _ (.bind (yields_formField (a := ExprForm.elementOf) rfl)
      (.of_field rfl fun _ => .bind (ihArray writableArray)
        (.of_field rfl fun _ => .bind (ihIndex writableIndex) .pure)))
  | sizeof type kind =>
    simp only [Expr.constituents, List.forall_mem_cons] at writable
    rw [expr]
    exact .nested _ (.bind (yields_formField (a := ExprForm.sizeof) rfl)
      (.bind (yields_tyField rfl writable.2) (.bind (yields_taggedField rfl)
        (.of_absent rfl .pure))))
  | sizeofArray type kind length ih =>
    simp only [Expr.constituents, List.forall_mem_cons, List.forall_mem_append] at writable
    obtain ⟨_, writableType, writableLength⟩ := writable
    rw [expr]
    exact .nested _ (.bind (yields_formField (a := ExprForm.sizeof) rfl)
      (.bind (yields_tyField rfl writableType) (.bind (yields_taggedField rfl)
        (.of_optional rfl (Expr.toWire_ne_null length) fun _ => .bind (ih writableLength) .pure))))

theorem yields_exprField {e : Expr} (found : v.member? key = some (e.toWire o))
    (writable : ∀ c ∈ e.constituents, c.Writable o) :
    Yields (exprField v key context) o e.withOneNaN :=
  .of_field found fun _ => yields_expr writable

theorem yields_callFlags (f : CallFlags) : Yields (callFlags f.toWire) o f :=
  .bind (yields_booleanField rfl) (.bind (yields_booleanField rfl)
    (.bind (yields_booleanField rfl) .pure))

/-- Instructions are read back, with the one NaN that there is for any other. -/
theorem yields_instr {i : Instr} (writable : ∀ c ∈ i.constituents, c.Writable o) :
    Yields (instr (i.toWire o)) o i.withOneNaN := by
  cases i with
  | load target address type location =>
    obtain ⟨writableAddress, writableType⟩ := List.forall_mem_append.1 writable
    exact .bind (yields_formField (a := InstrForm.load) rfl)
      (.bind (yields_temporaryField rfl) (.bind (yields_exprField rfl writableAddress)
        (.bind (yields_tyField rfl writableType) (.bind (yields_locationField rfl) .pure))))
  | store address type value location =>
    simp only [Instr.constituents, List.forall_mem_append] at writable
    obtain ⟨writableAddress, writableType, writableValue⟩ := writable
    exact .bind (yields_formField (a := InstrForm.store) rfl)
      (.bind (yields_exprField rfl writableAddress) (.bind (yields_tyField rfl writableType)
        (.bind (yields_exprField rfl writableValue) (.bind (yields_locationField rfl) .pure))))
  | prune condition trueBranch kind location =>
    exact .bind (yields_formField (a := InstrForm.prune) rfl)
      (.bind (yields_exprField rfl writable) (.bind (yields_booleanField rfl)
        (.bind (yields_taggedField rfl) (.bind (yields_locationField rfl) .pure))))
  | call result callee arguments flags location =>
    simp only [Instr.constituents, List.forall_mem_append, List.forall_mem_flatMap] at writable
    obtain ⟨writableResult, writableCallee, writableArguments⟩ := writable
    refine .bind (yields_formField (a := InstrForm.call) rfl)
      (.bind (yields_temporaryField rfl) (.bind (yields_tyField rfl writableResult)
        (.bind (yields_exprField rfl writableCallee) (.bind (yields_listField rfl ?_)
          (.of_field rfl fun _ => .bind (yields_callFlags flags)
            (.bind (yields_locationField rfl) .pure))))))
    rw [List.forall₂_map_left_iff, List.forall₂_map_right_iff, List.forall₂_same]
    intro a mem
    obtain ⟨writableValue, writableType⟩ := writableArguments a mem
    exact .bind (yields_exprField rfl writableValue) (.bind (yields_tyField rfl writableType) .pure)

end Reading

/-! ### Values of each kind -/

/-- With any options: a type, a name of a procedure, a variable, an expression or an
instruction with writable constituents, of no greater depth than the options allow, is what
its written form is read as; of a NaN it is not kept which one it was. -/
theorem answer_toWire (o : Options) :
    (∀ t : Ty, (∀ c ∈ t.constituents, c.Writable o) → t.depth ≤ o.maxDepth →
      (Reading.ty (t.toWire o)).answer o = .ok t) ∧
    (∀ p : ProcName, (∀ c ∈ p.constituents, c.Writable o) → p.depth ≤ o.maxDepth →
      (Reading.procName (p.toWire o)).answer o = .ok p) ∧
    (∀ x : Variable, (∀ c ∈ x.constituents, c.Writable o) → x.depth ≤ o.maxDepth →
      (Reading.programVariable (x.toWire o)).answer o = .ok x) ∧
    (∀ e : Expr, (∀ c ∈ e.constituents, c.Writable o) → e.depth ≤ o.maxDepth →
      (Reading.expr (e.toWire o)).answer o = .ok e.withOneNaN) ∧
    ∀ i : Instr, (∀ c ∈ i.constituents, c.Writable o) → i.depth ≤ o.maxDepth →
      (Reading.instr (i.toWire o)).answer o = .ok i.withOneNaN := by
  refine ⟨?_, ?_, ?_, ?_, ?_⟩
  · intro t writable within
    exact (Reading.yields_ty writable).answer_eq (Reading.graded_ty _) within
  · intro p writable within
    exact (Reading.yields_procName writable).answer_eq (Reading.graded_procName _) within
  · intro x writable within
    exact (Reading.yields_programVariable writable).answer_eq (Reading.graded_programVariable _)
      within
  · intro e writable within
    refine (Reading.yields_expr writable).answer_eq (Reading.graded_expr _) ?_
    rw [Expr.depth_withOneNaN]
    exact within
  · intro i writable within
    refine (Reading.yields_instr writable).answer_eq (Reading.graded_instr _) ?_
    rw [Instr.depth_withOneNaN]
    exact within

/-! ### An instruction with a NaN of its own -/

namespace Sample

/-- Names with slashes, and constructors that are called like that of an object. -/
def conventions : Options where
  maxDepth := 3
  constructorName := "<init>"
  separator := '/'

/-- A constructor with one parameter. -/
def constructor : ProcName :=
  .method ⟨⟨"java/lang", "Double"⟩, "<init>", [.pointerTo .void], none, false⟩

/-- Stores the sum of a literal and a NaN that is none of those documents give. -/
def store : Instr :=
  .store (.addressOf ⟨"x", .localOf constructor⟩) (.float .double)
    (.binary .add (.constant (.int .null)) (.constant (.float ⟨0xFFF0000000000001⟩)))
    { Location.origin with file := some "Double.java" }

end Sample

/-- A store of a NaN is read back with another NaN. -/
theorem answer_toWire_store :
    (∀ c ∈ Sample.store.constituents, c.Writable Sample.conventions) ∧
    Sample.store.depth ≤ Sample.conventions.maxDepth ∧
    (Reading.instr (Sample.store.toWire Sample.conventions)).answer Sample.conventions =
      .ok Sample.store.withOneNaN ∧
    Sample.store.withOneNaN ≠ Sample.store := by
  have writable : ∀ c ∈ Sample.store.constituents, c.Writable Sample.conventions := by
    decide +kernel
  have within : Sample.store.depth ≤ Sample.conventions.maxDepth := by decide +kernel
  obtain ⟨_, _, _, _, instr⟩ := answer_toWire Sample.conventions
  exact ⟨writable, within, instr Sample.store writable within, by decide +kernel⟩

end ProgramModel
