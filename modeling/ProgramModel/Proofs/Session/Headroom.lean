import ProgramModel.CompilationUnit
import ProgramModel.Proofs.Json.Height
import ProgramModel.Proofs.Session.Subjects
import ProgramModel.Proofs.Wire.Headroom

/-!
Values that are never too deep. A value that is no higher than the limit fits it, whatever is
read from it, and the default limit is above the height that any text gives. Main statement:
`fits_of_height_le`. A limit below the height may be too low: a scalar in the place of a type
takes a level before it is seen to be no type.
-/

namespace ProgramModel

open Reading

variable {α : Type} {o : Options}

/-- No kind of value is refused for its depth when it is read from `v`, and no table when it is
extended by `v`. -/
structure Json.Fits (o : Options) (v : Json) : Prop where
  /-- No level is open between requests, whatever was asked before. -/
  reading (s : Subject) {g : Gauge} (unopened : g.depth = 0) : Final ((s.reading v).outcome o g).1
  extend (t : TypeTable) : Final (t.extend o v)
  tagged (α : Type) [Tagged α] : Final ((Reading.tagged α v).answer o)

/-- A reading within the limit has no fault of depth. -/
theorem Reading.Within.answer {m : Reading α} {n : Nat} (within : Within n m)
    (enough : n ≤ o.maxDepth) : Final (m.answer o) :=
  within.final (Nat.le_trans (Nat.le_of_eq (Nat.zero_add n)) enough)

/-- As many levels as a value is high are enough for each kind. -/
theorem Subject.within_reading (s : Subject) (v : Json) : Within v.height (s.reading v) := by
  have low : v.height ≤ v.height + 1 := Nat.le_succ v.height
  cases s with
  | typeName => exact (within_typeName v).map _
  | procName => exact (within_procName low).map _
  | fieldName => exact (within_fieldName v).map _
  | temporary => exact (within_temporary v).map _
  | programVariable => exact (within_programVariable low).map _
  | location => exact (within_location v).map _
  | intLiteral => exact (within_intLiteral v).map _
  | type => exact (within_ty v (Nat.le_refl _)).map _
  | constant => exact (within_constant low).map _
  | expr => exact (within_expr v (Nat.le_refl _)).map _
  | instr => exact (within_instr low).map _
  | itemAnnotations => exact (within_itemAnnotations v).map _
  | methodAnnotations => exact (within_methodAnnotations v).map _
  | attributes => exact (within_attributes low).map _
  | nodeKind => exact (within_nodeKind v).map _
  | structDef => exact (within_structDef low).map _
  | typeTable => exact (within_typeTable low).map _
  | flowGraph => exact (within_flowGraph low).map _

theorem Reading.final_typeTable {v : Json} (low : v.height ≤ o.maxDepth) :
    Final ((typeTable v).answer o) :=
  (within_typeTable (Nat.le_succ v.height)).answer low

theorem Reading.final_flowGraph {v : Json} (low : v.height ≤ o.maxDepth) :
    Final ((flowGraph v).answer o) :=
  (within_flowGraph (Nat.le_succ v.height)).answer low

/-- A value that is not higher than the limit fits it, whatever it is read as. -/
theorem Json.Fits.of_height_le {v : Json} (low : v.height ≤ o.maxDepth) : v.Fits o where
  reading s {g} unopened := (s.within_reading v).final (by omega)
  extend _ := (final_typeTable low).bind fun _ => final_ok _
  tagged α _ := (within_tagged v).answer low

/-! ### Texts and files -/

namespace Document

theorem final_ofText (text : String) : Final (ofText text) := by
  unfold ofText
  split
  · exact final_ok _
  · exact final_error rfl

theorem final_fetchText (fetch : String → Except FileFault ByteArray) (path : String) :
    Final (fetchText fetch path) := by
  unfold fetchText
  split
  · exact final_error rfl
  · split
    · exact final_ok _
    · exact final_error rfl

/-- Texts are scanned with a limit of their own, so no value of a text is higher than this limit
and one. -/
theorem height_le_of_ofText {text : String} {v : Json} (given : ofText text = .ok v) :
    v.height ≤ Json.nestingLimit + 1 := by
  unfold ofText at given
  split at given
  · next parsed =>
    cases given
    exact Json.height_le_of_ofText parsed
  · cases given

end Document

namespace CompilationUnit

/-- With a limit above that of the texts, a unit has no fault of depth. -/
theorem final_load (above : Json.nestingLimit < o.maxDepth) (types graph : String) :
    Final (load o types graph) := by
  unfold load
  cases first : Document.ofText types with
  | error fault => exact final_error ((Document.final_ofText types).isDepth fault first)
  | ok v =>
    refine (final_typeTable ((Document.height_le_of_ofText first).trans above)).bind fun _ => ?_
    cases second : Document.ofText graph with
    | error fault => exact final_error ((Document.final_ofText graph).isDepth fault second)
    | ok w =>
      exact (final_flowGraph ((Document.height_le_of_ofText second).trans above)).bind fun _ =>
        final_ok _

/-- With a limit above that of the texts, neither has a unit from files. -/
theorem final_loadFiles (above : Json.nestingLimit < o.maxDepth)
    (fetch : String → Except FileFault ByteArray) (typesPath graphPath : String) :
    Final (loadFiles o fetch typesPath graphPath) :=
  (Document.final_fetchText fetch typesPath).bind fun types =>
    (Document.final_fetchText fetch graphPath).bind fun graph => final_load above types graph

end CompilationUnit

/-- A value fits each limit that its height does not exceed. So with the default limit nothing
that is parsed from a text is refused for its depth, though 128 containers be nested in it, and
no compilation unit is. -/
theorem fits_of_height_le :
    (∀ (o : Options) (v : Json), v.height ≤ o.maxDepth → v.Fits o) ∧
    ∀ o : Options, Options.default.maxDepth ≤ o.maxDepth →
      (∀ text v, Document.ofText text = .ok v → v.Fits o) ∧
      (∀ text v, Json.ofText 128 text = .ok v → v.Fits o) ∧
      (∀ types graph, Final (CompilationUnit.load o types graph)) ∧
      ∀ fetch typesPath graphPath,
        Final (CompilationUnit.loadFiles o fetch typesPath graphPath) := by
  refine ⟨fun _ _ => .of_height_le, fun o default => ?_⟩
  have ample : 129 ≤ o.maxDepth := Nat.le_trans (by decide) default
  have above : Json.nestingLimit < o.maxDepth := Nat.le_trans (by decide) default
  refine ⟨?_, ?_, CompilationUnit.final_load above, CompilationUnit.final_loadFiles above⟩
  · intro text v given
    exact .of_height_le ((Document.height_le_of_ofText given).trans above)
  · intro text v given
    exact .of_height_le ((Json.height_le_of_ofText given).trans ample)

/-- A scalar in the place of a type takes the one level that its height allows, and no less. -/
theorem null_fits_at_height :
    Json.null.height ≤ (Options.default.withLimit 1).maxDepth ∧
    Json.null.Fits (Options.default.withLimit 1) ∧
    (Subject.type.reading .null).answer (Options.default.withLimit 1) =
      .error (.shapeMismatch .object "type" .null) ∧
    (Subject.type.reading .null).answer (Options.default.withLimit 0) =
      .error (.depthExceeded 0 "type") ∧
    Document.ofText "[]" = .ok (.arr []) ∧ (Json.arr []).Fits .default := by
  have low : Json.null.height ≤ (Options.default.withLimit 1).maxDepth := by decide
  have read : Document.ofText "[]" = .ok (.arr []) := by
    have value : Json.value Json.nestingLimit "[]".toList = .ok ⟨.arr [], [], by decide⟩ := by
      rw [Json.value.eq_def]
      rfl
    rw [Document.ofText, Json.ofText, value]
    rfl
  refine ⟨low, fits_of_height_le.1 _ _ low, by decide +kernel, by decide +kernel, read, ?_⟩
  exact (fits_of_height_le.2 .default (Nat.le_refl _)).1 "[]" _ read

end ProgramModel
