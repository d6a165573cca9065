import Mathlib.Data.Set.Function
import ProgramModel.Proofs.Session.Soundness
import ProgramModel.Proofs.Wire.RoundTrip

/-!
Names that are joined and split again. The last separator of a joined name stands between
its parts as long as the simple name holds none; otherwise the split comes later. Names in
values that documents give are of the first kind. Main statement: those are the names that
come back, so no two of them are joined to one text (`ofQualified_join_eq_iff`).
-/

namespace ProgramModel

variable {o : Options}

/-- A graph is read for the values of its kind, and nothing else. -/
theorem Subject.exists_flowGraph_of_answer {v : Json} {x : Decoded}
    (given : (flowGraph.reading v).answer o = .ok x) :
    ∃ g, (Reading.flowGraph v).answer o = .ok g ∧ x = .flowGraph g := by
  rw [reading, Reading.answer_map _ (Reading.graded_flowGraph v).regular] at given
  cases read : (Reading.flowGraph v).answer o with
  | error fault =>
    rw [read] at given
    cases given
  | ok g =>
    rw [read] at given
    cases given
    exact ⟨g, rfl, rfl⟩

namespace TypeName

variable {t : TypeName}

/-- The name stands in a value that is read from some document, at whatever depth. -/
def Occurs (o : Options) (t : TypeName) : Prop :=
  ∃ (s : Subject) (v : Json) (x : Decoded),
    (s.reading v).answer o = .ok x ∧ .typeName t ∈ x.constituents

/-- Names that come out of readings are simple, wherever they stand. -/
theorem Occurs.simple (occurs : t.Occurs o) : t.Simple o := by
  obtain ⟨s, v, x, given, mem⟩ := occurs
  by_cases graph : s = .flowGraph
  · subst graph
    obtain ⟨g, read, rfl⟩ := Subject.exists_flowGraph_of_answer given
    exact FlowGraph.sound_of_answer read (.typeName t) mem
  · exact (s.sound_reading v graph).holds given (.typeName t) mem

/-- A simple name is read back as it was written. -/
theorem answer_typeName_toWire (simple : t.Simple o) :
    (Reading.typeName (t.toWire o)).answer o = .ok t := by
  have read : (Reading.typeName (t.toWire o)).answer o =
      .ok (ofQualified o.separator (t.join o.separator)) := rfl
  rw [read, ofQualified_join simple]

/-- A simple name occurs, as a document of its own. -/
theorem occurs_iff_simple : t.Occurs o ↔ t.Simple o := by
  refine ⟨Occurs.simple, fun simple => ?_⟩
  refine ⟨.typeName, t.toWire o, .typeName t, ?_, List.mem_singleton_self _⟩
  rw [Subject.reading, Reading.answer_map _ (Reading.flat_typeName _).regular,
    answer_typeName_toWire simple]
  rfl

/-- A name comes back from its joined text exactly when its simple name holds no separator,
whatever its namespace holds. These are the names that occur in values that documents give.
No two of them are joined to one text, and the joined text is read as the name that it was
made from. -/
theorem ofQualified_join_eq_iff (o : Options) :
    (∀ t : TypeName, ofQualified o.separator (t.join o.separator) = t ↔
      o.separator ∉ t.name.toList) ∧
    (∀ t : TypeName, t.Occurs o ↔ o.separator ∉ t.name.toList) ∧
    Set.InjOn (join o.separator) {t | t.Occurs o} ∧
    ∀ t : TypeName, t.Occurs o → (Reading.typeName (.str (t.join o.separator))).answer o = .ok t := by
  refine ⟨fun t => ⟨?_, ofQualified_join⟩, fun t => occurs_iff_simple, ?_, ?_⟩
  · intro kept
    have simple := simple_ofQualified o (t.join o.separator)
    rwa [kept] at simple
  · intro t occurs u occurs' same
    have back := congrArg (ofQualified o.separator) same
    rwa [ofQualified_join occurs.simple, ofQualified_join occurs'.simple] at back
  · intro t occurs
    exact answer_typeName_toWire occurs.simple

/-- A namespace may be empty or end with a separator. A simple name with a separator loses
what stands before it to the namespace, and is then joined like another name. -/
theorem ofQualified_join_dotted :
    TypeName.Occurs .default ⟨"", "A"⟩ ∧ TypeName.Occurs .default ⟨"p..", "A"⟩ ∧
    (Reading.typeName (.str (join '.' ⟨"p..", "A"⟩))).answer .default = .ok ⟨"p..", "A"⟩ ∧
    ofQualified '.' (join '.' ⟨"p", "B.A"⟩) ≠ ⟨"p", "B.A"⟩ ∧
    join '.' ⟨"p", "B.A"⟩ = join '.' ⟨"p.B", "A"⟩ := by
  obtain ⟨back, occurs, _, again⟩ := ofQualified_join_eq_iff .default
  have dotted : TypeName.Occurs .default ⟨"p..", "A"⟩ := (occurs _).2 (by decide)
  have absent : ¬ ('.' ∉ "B.A".toList) := by decide
  exact ⟨(occurs _).2 (by decide), dotted, again _ dotted, fun kept => absent ((back _).1 kept),
    by decide +kernel⟩

end TypeName
end ProgramModel
