import Mathlib.Data.Set.Function
import ProgramModel.Proofs.Traversal.DepthFirst

/-!
Depth-first traversal of a graph whose nodes have other names. A renaming has to tell the
nodes that are reached apart and to keep their edges, each list in its order; what it does
to other nodes does not matter. Main statement: each state of the traversal is then the
renamed state (`run_map`).
-/

namespace ProgramModel.Traversal

variable {α β : Type} {targets : α → List α} {targets' : β → List β} {origin : α} {f : α → β}

/-- Other names for the nodes that are reached from an origin. -/
structure Renames (targets : α → List α) (targets' : β → List β) (origin : α) (f : α → β) :
    Prop where
  injective : Set.InjOn f {a | Reachable targets origin a}
  edges : ∀ a, Reachable targets origin a → targets' (f a) = (targets a).map f

namespace DepthFirst

/-- The state with each node under its other name. -/
def map (f : α → β) (w : DepthFirst α) : DepthFirst β where
  visited := w.visited.map f
  stack := w.stack.map fun s => ⟨f s.node, s.followed⟩
  finished := w.finished.map f

/-- A node that is reached is marked exactly when its other name is. -/
theorem mem_map_visited_iff (renames : Renames targets targets' origin f) {w : DepthFirst α}
    (inv : Invariant targets origin w) {t : α} (reached : Reachable targets origin t) :
    f t ∈ w.visited.map f ↔ t ∈ w.visited := by
  constructor
  · intro mem
    obtain ⟨a, marked, same⟩ := List.mem_map.1 mem
    rwa [← renames.injective (inv.reached a marked) reached same]
  · exact List.mem_map_of_mem

variable [DecidableEq α] [DecidableEq β]

/-- A step of the renamed walk is the renamed step. -/
theorem step_map (renames : Renames targets targets' origin f) {w : DepthFirst α}
    (inv : Invariant targets origin w) :
    (w.map f).step targets' = (w.step targets).map (map f) := by
  obtain ⟨visited, _ | ⟨⟨node, i⟩, below⟩, finished⟩ := w
  · rfl
  · have here : Reachable targets origin node :=
      inv.reached node (inv.marked.mem_iff.2 List.mem_cons_self)
    have edge : (targets' (f node))[i]? = ((targets node)[i]?).map f := by
      rw [renames.edges node here, List.getElem?_map]
    cases next : (targets node)[i]? with
    | none => simp [step, map, edge, next]
    | some t =>
      have target : Reachable targets origin t := here.tail (List.mem_of_getElem? next)
      have marked : f t ∈ visited.map f ↔ t ∈ visited := mem_map_visited_iff renames inv target
      by_cases old : t ∈ visited
      · simp [step, map, edge, next, old, marked.2 old]
      · have fresh : f t ∉ visited.map f := fun mem => old (marked.1 mem)
        simp [step, map, edge, next, old, fresh, -List.mem_map]

/-- A traversal of the renamed graph goes through the renamed states. -/
theorem run_map (renames : Renames targets targets' origin f) (n : Nat) :
    run targets' n (.start (f origin)) = (run targets n (.start origin)).map f := by
  have general : ∀ w, Invariant targets origin w →
      run targets' n (w.map f) = (run targets n w).map f := by
    induction n with
    | zero =>
      intro w _
      rfl
    | succ n ih =>
      intro w inv
      rw [run, run, step_map renames inv]
      cases stepped : w.step targets with
      | none => rfl
      | some w' => exact ih w' (inv.move (move_of_step stepped))
  exact general _ (.start targets origin)

end DepthFirst
end ProgramModel.Traversal
