import ProgramModel.Proofs.Session.Subjects
import ProgramModel.Proofs.TypeTable.Entries

/-!
The limit of nesting. A run that is given a limit comes to a result that does not depend on
it, or is refused for it, and the levels that the result takes are the threshold between
the two. Main statement: readings of all kinds have a threshold, which is the depth of the
value (`reading_threshold`). A table takes as many levels as the entries of its document,
also those that later ones take the place of.
-/

namespace ProgramModel

variable {α β : Type}

/-! ### Thresholds -/

/-- A run that comes to its result from some limit on, and is refused for each limit below. -/
structure Threshold (run : Nat → Except Fault α) (levels : Nat) (result : Except Fault α) :
    Prop where
  /-- The result is no refusal. -/
  final : Reading.Final result
  enough {limit : Nat} (within : levels ≤ limit) : run limit = result
  short {limit : Nat} (below : limit < levels) :
    ∃ context, run limit = .error (.depthExceeded limit context)

namespace Threshold

variable {run : Nat → Except Fault α} {levels : Nat} {result : Except Fault α}

/-- What is done with a result at the end does not move the threshold. -/
theorem map (f : α → β) (threshold : Threshold run levels result) :
    Threshold (fun limit => (run limit).map f) levels (result.map f) where
  final := by
    cases result with
    | error fault => exact Reading.final_error (threshold.final.isDepth fault rfl)
    | ok a => exact Reading.final_ok (f a)
  enough within := congrArg (Except.map f) (threshold.enough within)
  short {limit} below := by
    obtain ⟨context, refused⟩ := threshold.short below
    exact ⟨context, congrArg (Except.map f) refused⟩

/-- Below the threshold the fault is one of depth. -/
theorem le_of_final (threshold : Threshold run levels result) {limit : Nat}
    (final : Reading.Final (run limit)) : levels ≤ limit := by
  by_contra below
  obtain ⟨context, refused⟩ := threshold.short (Nat.lt_of_not_le below)
  have other := final.isDepth _ refused
  cases other

/-- A higher limit changes no outcome but a refusal. -/
theorem raise (threshold : Threshold run levels result) {limit higher : Nat}
    (above : limit ≤ higher) (final : Reading.Final (run limit)) : run higher = run limit := by
  have within := threshold.le_of_final final
  rw [threshold.enough within, threshold.enough (within.trans above)]

end Threshold

namespace Reading

/-- A reading that settles at some level has its threshold there. -/
theorem Settles.threshold {m : Reading α} {o : Options} {levels : Nat}
    {result : Except Fault α} (settles : Settles m o levels result) :
    Threshold (fun limit => m.answer (o.withLimit limit)) levels result where
  final := settles.final
  enough within := settles.enough (g := .start) within
  short below := settles.short (g := .start) below

/-- The threshold of a graded reading is the depth of the value. -/
theorem Graded.exists_threshold {m : Reading α} {depth : α → Nat} (graded : Graded 0 m depth)
    (o : Options) :
    ∃ levels result, Threshold (fun limit => m.answer (o.withLimit limit)) levels result ∧
      ∀ a, result = .ok a → levels = depth a := by
  obtain ⟨levels, result, settles, exact⟩ := graded.settles o
  refine ⟨levels, result, settles.threshold, ?_⟩
  intro a given
  rw [← exact a given, Nat.zero_max]

end Reading

/-! ### Tables -/

namespace TypeTable

/-- A table is made of the entries that are listed in its document. -/
theorem answer_reading (o : Options) (v : Json) :
    (Subject.typeTable.reading v).answer o =
      (listed o v).map fun entries => .typeTable (.ofList entries) := by
  rw [Subject.reading, Reading.answer_map _ (Reading.regular_typeTable v), answer_typeTable]
  cases listed o v <;> rfl

/-- A table is extended by the entries that are listed in a document. -/
theorem extend_eq (o : Options) (t : TypeTable) (v : Json) :
    t.extend o v = (listed o v).map t.writeAll := by
  rw [extend, answer_typeTable]
  cases listed o v with
  | error fault => rfl
  | ok entries => exact congrArg Except.ok (merge_ofList t entries)

/-- Whatever is made of the entries of a document, the threshold is the depth of the
deepest one. -/
theorem exists_threshold (o : Options) (v : Json) (f : List (TypeName × StructDef) → β) :
    ∃ levels result,
      Threshold (fun limit => (listed (o.withLimit limit) v).map f) levels result ∧
      ∀ b, result = .ok b → ∃ entries, listed (o.withLimit levels) v = .ok entries ∧
        b = f entries ∧ levels = deepest (entries.map (·.2.depth)) := by
  have graded := Reading.graded_list Reading.graded_typeEntry v "type environment document"
  obtain ⟨levels, result, threshold, exact⟩ := graded.exists_threshold o
  simp only [answer_list_typeEntry] at threshold
  refine ⟨levels, result.map f, threshold.map f, ?_⟩
  intro b given
  cases result with
  | error fault => cases given
  | ok entries =>
    cases given
    exact ⟨entries, threshold.enough le_rfl, rfl, exact entries rfl⟩

end TypeTable

/-- Readings of all kinds have a threshold. -/
theorem Subject.exists_threshold (s : Subject) (o : Options) (v : Json) :
    ∃ levels result,
      Threshold (fun limit => (s.reading v).answer (o.withLimit limit)) levels result := by
  by_cases table : s = .typeTable
  · subst table
    simp only [TypeTable.answer_reading]
    obtain ⟨levels, result, threshold, _⟩ := TypeTable.exists_threshold o v
      fun entries => Decoded.typeTable (.ofList entries)
    exact ⟨levels, result, threshold⟩
  · obtain ⟨levels, result, threshold, _⟩ := (s.graded_reading v table).exists_threshold o
    exact ⟨levels, result, threshold⟩

/-- Whatever is read, from some limit on the result is the same, and for each limit below
the reading is refused. A value takes as many levels as it is deep; a table, or what
extends one, takes as many as the deepest entry of its document. So a higher limit changes
no outcome but a refusal. -/
theorem reading_threshold (o : Options) (v : Json) :
    (∀ s : Subject, s ≠ .typeTable → ∃ levels result,
      Threshold (fun limit => (s.reading v).answer (o.withLimit limit)) levels result ∧
      ∀ x, result = .ok x → levels = x.depth) ∧
    (∃ levels result,
      Threshold (fun limit => (Subject.typeTable.reading v).answer (o.withLimit limit))
        levels result ∧
      ∀ x, result = .ok x → ∃ entries,
        TypeTable.listed (o.withLimit levels) v = .ok entries ∧
        x = .typeTable (.ofList entries) ∧ levels = deepest (entries.map (·.2.depth)) ∧
        ((entries.map (·.1)).Nodup → levels = x.depth)) ∧
    (∀ t : TypeTable, ∃ levels result,
      Threshold (fun limit => t.extend (o.withLimit limit) v) levels result ∧
      ∀ u, result = .ok u → ∃ entries,
        TypeTable.listed (o.withLimit levels) v = .ok entries ∧
        u = t.writeAll entries ∧ levels = deepest (entries.map (·.2.depth))) ∧
    ∀ (s : Subject) (limit higher : Nat), limit ≤ higher →
      Reading.Final ((s.reading v).answer (o.withLimit limit)) →
      (s.reading v).answer (o.withLimit higher) = (s.reading v).answer (o.withLimit limit) := by
  refine ⟨?_, ?_, ?_, ?_⟩
  · intro s other
    exact (s.graded_reading v other).exists_threshold o
  · simp only [TypeTable.answer_reading]
    obtain ⟨levels, result, threshold, exact⟩ := TypeTable.exists_threshold o v
      fun entries => Decoded.typeTable (.ofList entries)
    refine ⟨levels, result, threshold, ?_⟩
    intro x given
    obtain ⟨entries, listed, rfl, taken⟩ := exact x given
    refine ⟨entries, listed, rfl, taken, ?_⟩
    intro distinct
    rw [taken, Decoded.depth, TypeTable.depth_ofList distinct]
  · intro t
    simp only [TypeTable.extend_eq]
    exact TypeTable.exists_threshold o v t.writeAll
  · intro s limit higher above final
    obtain ⟨levels, result, threshold⟩ := s.exists_threshold o v
    exact threshold.raise above final

/-- The pointer of the first definition takes two levels, though the table that is read has
no types at all. -/
theorem redefined_threshold_ne_depth : ¬ ∃ levels result,
    Threshold (fun limit => (Subject.typeTable.reading TypeTable.Sample.redefined).answer
      (Options.default.withLimit limit)) levels result ∧
    ∀ x, result = .ok x → levels = x.depth := by
  rintro ⟨levels, result, threshold, exact⟩
  have accepted : ((Subject.typeTable.reading TypeTable.Sample.redefined).answer
      (Options.default.withLimit 2)).toOption.map Decoded.depth = some 0 := by
    decide +kernel
  have refused : (Subject.typeTable.reading TypeTable.Sample.redefined).answer
      (Options.default.withLimit 1) = .error (.depthExceeded 1 "type") := by
    decide +kernel
  cases given : (Subject.typeTable.reading TypeTable.Sample.redefined).answer
      (Options.default.withLimit 2) with
  | error fault => simp [given, Except.toOption] at accepted
  | ok x =>
    have shallow : x.depth = 0 := by simpa [given, Except.toOption] using accepted
    have within : levels ≤ 2 := threshold.le_of_final (given ▸ Reading.final_ok x)
    have same : result = .ok x := (threshold.enough within).symm.trans given
    -- The table has depth zero, so it would be read with any limit.
    have lower : levels ≤ 1 := by
      rw [exact x same, shallow]
      exact Nat.zero_le 1
    have contradiction := (threshold.enough lower).symm.trans refused
    rw [same] at contradiction
    cases contradiction

end ProgramModel
