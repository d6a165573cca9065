import Mathlib.Data.List.Perm.Basic
import ProgramModel.Proofs.FlowGraph.Registration

/-!
Documents whose procedures or nodes come in another order. They list the same records,
and so they are the same graph: the places of its entries, and with them all its
references, come from the ids alone. Main statement: `flowGraph_reordered_iff`.
-/

namespace ProgramModel

/-! ### Reordered documents -/

/-- A member of a document and what may stand in its place: itself, or for the procedures
and the nodes the same items in another order. -/
inductive ReorderedMember : String × Json → String × Json → Prop where
  | same (m : String × Json) : ReorderedMember m m
  | items {key : String} {items items' : List Json} (listed : key = "procs" ∨ key = "nodes")
      (perm : items.Perm items') : ReorderedMember (key, .arr items) (key, .arr items')

/-- A document, and one that differs from it in the order of its procedures and nodes at
the most. -/
inductive Reordered : Json → Json → Prop where
  | same (v : Json) : Reordered v v
  | members {members members' : List (String × Json)}
      (each : List.Forall₂ ReorderedMember members members') :
      Reordered (.obj members) (.obj members')

theorem ReorderedMember.symm {m m' : String × Json} (reordered : ReorderedMember m m') :
    ReorderedMember m' m := by
  cases reordered with
  | same => exact .same m
  | items listed perm => exact .items listed perm.symm

/-- Keys stay where they are. -/
theorem ReorderedMember.key_eq {m m' : String × Json} (reordered : ReorderedMember m m') :
    m'.1 = m.1 := by
  cases reordered <;> rfl

theorem Reordered.symm {v w : Json} (reordered : Reordered v w) : Reordered w v := by
  cases reordered with
  | same => exact .same v
  | members each => exact .members (each.imp fun _ _ => ReorderedMember.symm).flip

/-- The first member with a key is the one that was reordered from the first member with this key.
-/
theorem reorderedMember_find? {members members' : List (String × Json)}
    (each : List.Forall₂ ReorderedMember members members') {key : String} {m : String × Json}
    (found : members.find? (·.1 == key) = some m) :
    ∃ m', members'.find? (·.1 == key) = some m' ∧ ReorderedMember m m' := by
  induction each with
  | nil => cases found
  | @cons a b rest rest' first _ ih =>
    rw [List.find?_cons] at found ⊢
    rw [first.key_eq]
    cases here : a.1 == key with
    | true =>
      rw [here] at found
      cases found
      exact ⟨b, rfl, first⟩
    | false =>
      rw [here] at found
      exact ih found

/-- An array in a document is an array in a reordered one, with the same items. -/
theorem Reordered.member?_arr {v w : Json} (reordered : Reordered v w) {key : String}
    {items : List Json} (found : v.member? key = some (.arr items)) :
    ∃ items', w.member? key = some (.arr items') ∧ items'.Perm items := by
  cases reordered with
  | same => exact ⟨items, found, .refl items⟩
  | members each =>
    obtain ⟨m, here, value⟩ := Option.map_eq_some_iff.1 found
    obtain ⟨m', here', member⟩ := reorderedMember_find? each here
    cases member with
    | same => exact ⟨items, Option.map_eq_some_iff.2 ⟨m, here', value⟩, .refl items⟩
    | @items _ _ items' _ perm =>
      cases value
      exact ⟨items', Option.map_eq_some_iff.2 ⟨_, here', rfl⟩, perm.symm⟩

/-! ### Records and graphs -/

variable {o : Options} {v w : Json}

/-- A reordered document has the same records, in another order. -/
theorem Records.ReadFrom.reordered {r : Records} (listed : r.ReadFrom o v)
    (reordered : Reordered v w) : ∃ s : Records, s.ReadFrom o w ∧ s.Perm r := by
  obtain ⟨⟨procItems, procs, procReads⟩, ⟨nodeItems, nodes, nodeReads⟩⟩ := listed
  obtain ⟨procItems', procs', procPerm⟩ := reordered.member?_arr procs
  obtain ⟨nodeItems', nodes', nodePerm⟩ := reordered.member?_arr nodes
  obtain ⟨procedures, procReads', sameProcs⟩ := List.perm_comp_forall₂ procPerm procReads
  obtain ⟨nodes, nodeReads', sameNodes⟩ := List.perm_comp_forall₂ nodePerm nodeReads
  exact ⟨⟨procedures, nodes⟩, ⟨⟨_, procs', procReads'⟩, ⟨_, nodes', nodeReads'⟩⟩,
    ⟨sameProcs, sameNodes⟩⟩

/-- A reordered document is accepted with the same graph, since rosters do not depend on the
order. -/
theorem answer_flowGraph_reordered (reordered : Reordered v w) {g : FlowGraph}
    (accepted : (Reading.flowGraph v).answer o = .ok g) :
    (Reading.flowGraph w).answer o = .ok g := by
  obtain ⟨r, procedures, nodes, listed, same, closed, rfl⟩ :=
    Reading.answer_flowGraph_eq_ok_iff.1 accepted
  obtain ⟨s, listed', same'⟩ := listed.reordered reordered
  exact Reading.answer_flowGraph_eq_ok_iff.2
    ⟨s, procedures, nodes, listed', same.trans same'.symm, closed, rfl⟩

/-- The order of procedures and nodes in a document has no say: either both orders are
graphs, and then the same one, or neither is. -/
theorem flowGraph_reordered_iff (reordered : Reordered v w) (o : Options) (g : FlowGraph) :
    (Reading.flowGraph v).answer o = .ok g ↔ (Reading.flowGraph w).answer o = .ok g :=
  ⟨answer_flowGraph_reordered reordered, answer_flowGraph_reordered reordered.symm⟩

/-- The small document and the same one listed backwards are the same graph. -/
theorem flowGraph_backwards : ∃ g,
    (Reading.flowGraph Sample.document).answer .default = .ok g ∧
      (Reading.flowGraph (.obj [("procs", .arr Sample.procedures.reverse),
        ("nodes", .arr Sample.nodes.reverse)])).answer .default = .ok g := by
  obtain ⟨g, accepted, _⟩ := Sample.exists_flowGraph
  have reordered : Reordered Sample.document (.obj [("procs", .arr Sample.procedures.reverse),
      ("nodes", .arr Sample.nodes.reverse)]) :=
    .members (.cons (.items (.inl rfl) (List.reverse_perm _).symm)
      (.cons (.items (.inr rfl) (List.reverse_perm _).symm) .nil))
  exact ⟨g, accepted, (flowGraph_reordered_iff reordered .default g).1 accepted⟩

end ProgramModel
