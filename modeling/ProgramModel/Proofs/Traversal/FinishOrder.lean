import ProgramModel.Proofs.Traversal.DepthFirst

/-!
The order in which depth-first traversal finishes nodes. The stack is a path, so a target
that is still on it when a node is finished leads back to that node; any other target was
finished earlier and comes later in the order. Main statement: `Arranged.move`, which
makes this an invariant.
-/

namespace ProgramModel.Traversal

variable {α : Type} {targets : α → List α} {origin : α}

/-! ### Positions in a list -/

/-- One element comes before another one in a list. -/
def Precedes (order : List α) (a b : α) : Prop := [a, b].Sublist order

theorem Precedes.cons {order : List α} {a b : α} (before : Precedes order a b) (c : α) :
    Precedes (c :: order) a b :=
  List.Sublist.cons c before

theorem precedes_head {order : List α} {b : α} (mem : b ∈ order) (a : α) :
    Precedes (a :: order) a b :=
  (List.singleton_sublist.2 mem).cons_cons a

theorem Precedes.left_mem {order : List α} {a b : α} (before : Precedes order a b) : a ∈ order :=
  before.subset List.mem_cons_self

/-- In a list without repetition, what comes before has the smaller position. -/
theorem Precedes.idxOf_lt [DecidableEq α] {order : List α} {a b : α} (distinct : order.Nodup)
    (before : Precedes order a b) : order.idxOf a < order.idxOf b := by
  induction order with
  | nil => cases before
  | cons c rest ih =>
    obtain ⟨absent, distinct⟩ := List.nodup_cons.1 distinct
    cases before with
    | cons _ later =>
      have here : a ∈ rest := Precedes.left_mem later
      have there : b ∈ rest := later.subset (by simp)
      rw [List.idxOf_cons_ne _ (by rintro rfl; exact absent here),
        List.idxOf_cons_ne _ (by rintro rfl; exact absent there)]
      exact Nat.succ_lt_succ (ih distinct later)
    | cons_cons _ later =>
      have there : b ∈ rest := List.singleton_sublist.1 later
      rw [List.idxOf_cons_self, List.idxOf_cons_ne _ (by rintro rfl; exact absent there)]
      exact Nat.succ_pos _

namespace DepthFirst

/-! ### The stack as a path -/

/-- All nodes on the stack lead to the innermost one. -/
theorem Path.reachable_top {top : Frame α} {below : List (Frame α)}
    (path : Path targets origin (top :: below)) :
    ∀ f ∈ top :: below, Reachable targets f.node top.node := by
  induction below generalizing top with
  | nil =>
    intro f mem
    cases List.mem_singleton.1 mem
    exact .refl
  | cons next below ih =>
    intro f mem
    cases path with
    | above path edge =>
      rcases List.mem_cons.1 mem with rfl | deeper
      · exact .refl
      · exact (ih path f deeper).tail (List.mem_of_getElem? edge)

/-- The innermost node is the origin, or it was entered from a node below it. -/
theorem Path.eq_origin_or_mem {top : Frame α} {below : List (Frame α)}
    (path : Path targets origin (top :: below)) :
    top.node = origin ∨ ∃ b ∈ below.map (·.node), top.node ∈ targets b := by
  cases path with
  | bottom => exact .inl rfl
  | above _ edge => exact .inr ⟨_, List.mem_cons_self, List.mem_of_getElem? edge⟩

/-! ### Arranged states -/

/-- What the order of the finished nodes says about edges. -/
structure Arranged (targets : α → List α) (origin : α) (w : DepthFirst α) : Prop where
  /-- An edge of a finished node leads forward in the order, or it closes a cycle. -/
  edges : ∀ a ∈ w.finished, ∀ t ∈ targets a, Precedes w.finished a t ∨ Reachable targets t a
  /-- The node that a finished node was entered from is not finished before it. -/
  entered : ∀ a ∈ w.finished, a ≠ origin →
    ∃ b, a ∈ targets b ∧ (b ∈ w.stack.map (·.node) ∨ Precedes w.finished b a)

namespace Arranged

/-- Nothing is finished at the start. -/
theorem start (targets : α → List α) (origin : α) :
    Arranged targets origin (start origin) where
  edges := by simp [DepthFirst.start]
  entered := by simp [DepthFirst.start]

variable {visited finished : List α} {below : List (Frame α)} {node : α} {i : Nat}

/-- Moves that finish no node only have to keep the nodes on the stack. -/
theorem of_subset {w w' : DepthFirst α} (arranged : Arranged targets origin w)
    (same : w'.finished = w.finished) (kept : w.stack.map (·.node) ⊆ w'.stack.map (·.node)) :
    Arranged targets origin w' where
  edges := same ▸ arranged.edges
  entered a mem other := by
    rw [same] at mem ⊢
    obtain ⟨b, edge, place⟩ := arranged.entered a mem other
    exact ⟨b, edge, place.imp_left fun active => kept active⟩

/-- The node at the top goes in front of the finished ones. A target of it is finished and comes
later, or it is still open and leads back to the node. -/
theorem finish (inv : Invariant targets origin ⟨visited, ⟨node, i⟩ :: below, finished⟩)
    (arranged : Arranged targets origin ⟨visited, ⟨node, i⟩ :: below, finished⟩)
    (done : (targets node)[i]? = none) :
    Arranged targets origin ⟨visited, below, node :: finished⟩ where
  edges := by
    refine List.forall_mem_cons.2 ⟨fun t target => ?_, fun a mem t target => ?_⟩
    · have marked : t ∈ visited := (inv.finish done).closed node List.mem_cons_self t target
      rcases List.mem_append.1 (inv.marked.mem_iff.1 marked) with active | earlier
      · obtain ⟨f, mem, rfl⟩ := List.mem_map.1 active
        exact .inr (inv.path.reachable_top f mem)
      · exact .inl (precedes_head earlier node)
    · exact (arranged.edges a mem t target).imp_left fun before => before.cons node
  entered := by
    refine List.forall_mem_cons.2 ⟨fun other => ?_, fun a mem other => ?_⟩
    · obtain ⟨b, active, edge⟩ := inv.path.eq_origin_or_mem.resolve_left other
      exact ⟨b, edge, .inl active⟩
    · obtain ⟨b, edge, active | before⟩ := arranged.entered a mem other
      · rcases List.mem_cons.1 active with rfl | active
        · exact ⟨b, edge, .inr (precedes_head mem b)⟩
        · exact ⟨b, edge, .inl active⟩
      · exact ⟨b, edge, .inr (before.cons node)⟩

/-- Moves keep a state arranged. -/
theorem move {w w' : DepthFirst α} (inv : Invariant targets origin w)
    (arranged : Arranged targets origin w) (moved : Move targets w w') :
    Arranged targets origin w' := by
  cases moved with
  | enter => exact arranged.of_subset rfl (List.subset_cons_self _ _)
  | pass => exact arranged.of_subset rfl (List.Subset.refl _)
  | finish done => exact finish inv arranged done

/-- All states of a walk are arranged. -/
theorem run [DecidableEq α] (targets : α → List α) (origin : α) (n : Nat) :
    Arranged targets origin (run targets n (.start origin)) :=
  (run_induction (motive := fun w => Invariant targets origin w ∧ Arranged targets origin w)
    (fun both moved => ⟨both.1.move moved, both.2.move both.1 moved⟩)
    ⟨.start targets origin, .start targets origin⟩ n).2

end Arranged

end DepthFirst
end ProgramModel.Traversal
