import Mathlib.Algebra.GroupWithZero.Nat
import Mathlib.Data.List.Perm.Subperm
import Mathlib.Logic.Relation
import ProgramModel.Traversal.DepthFirst

/-!
Depth-first traversal, step by step. What one step can do is said once (`Move`). An
invariant holds at the start and is kept by each move, and each move adds one to what a
state has cost. Main statements: the traversal comes to an end after just as many steps as
the nodes that can be reached cost (`stack_run_eq_nil_iff`), and then it has finished exactly
these nodes (`Invariant.mem_finished_iff`).
-/

namespace ProgramModel.Traversal

variable {α : Type} {targets : α → List α} {origin : α}

/-- A node is reached from another one along any number of edges. -/
def Reachable (targets : α → List α) : α → α → Prop :=
  Relation.ReflTransGen fun a b => b ∈ targets a

namespace DepthFirst

/-! ### Moves -/

/-- What one step does to a state. -/
inductive Move (targets : α → List α) : DepthFirst α → DepthFirst α → Prop where
  | enter {visited finished : List α} {below : List (Frame α)} {node t : α} {i : Nat}
      (edge : (targets node)[i]? = some t) (fresh : t ∉ visited) :
      Move targets ⟨visited, ⟨node, i⟩ :: below, finished⟩
        ⟨t :: visited, ⟨t, 0⟩ :: ⟨node, i + 1⟩ :: below, finished⟩
  | pass {visited finished : List α} {below : List (Frame α)} {node t : α} {i : Nat}
      (edge : (targets node)[i]? = some t) (marked : t ∈ visited) :
      Move targets ⟨visited, ⟨node, i⟩ :: below, finished⟩
        ⟨visited, ⟨node, i + 1⟩ :: below, finished⟩
  | finish {visited finished : List α} {below : List (Frame α)} {node : α} {i : Nat}
      (done : (targets node)[i]? = none) :
      Move targets ⟨visited, ⟨node, i⟩ :: below, finished⟩ ⟨visited, below, node :: finished⟩

/-! ### The invariant -/

/-- Stacks on which each node was entered from the one below it, by the edge that was
followed last there, and the lowest one is the origin. -/
inductive Path (targets : α → List α) (origin : α) : List (Frame α) → Prop where
  | nil : Path targets origin []
  | bottom (i : Nat) : Path targets origin [⟨origin, i⟩]
  | above {node t : α} {i : Nat} {below : List (Frame α)}
      (path : Path targets origin (⟨node, i + 1⟩ :: below)) (edge : (targets node)[i]? = some t)
      (j : Nat) : Path targets origin (⟨t, j⟩ :: ⟨node, i + 1⟩ :: below)

theorem Path.tail {top : Frame α} {below : List (Frame α)}
    (path : Path targets origin (top :: below)) : Path targets origin below := by
  cases path with
  | bottom => exact .nil
  | above path => exact path

/-- How many edges of the innermost node were followed does not matter to the others. -/
theorem Path.follow {node : α} {i : Nat} {below : List (Frame α)}
    (path : Path targets origin (⟨node, i⟩ :: below)) (j : Nat) :
    Path targets origin (⟨node, j⟩ :: below) := by
  cases path with
  | bottom => exact .bottom j
  | above path edge => exact .above path edge j

/-- Each frame above another one has the node that the last edge followed below leads to. -/
theorem Path.isChain {stack : List (Frame α)} (path : Path targets origin stack) :
    stack.IsChain fun upper lower =>
      ∃ k, lower.followed = k + 1 ∧ (targets lower.node)[k]? = some upper.node := by
  induction path with
  | nil => exact .nil
  | bottom i => exact .singleton _
  | @above _ _ i _ _ edge _ ih => exact .cons_cons ⟨i, rfl, edge⟩ ih

theorem Path.node_of_mem_getLast? {stack : List (Frame α)} (path : Path targets origin stack) :
    ∀ f ∈ stack.getLast?, f.node = origin := by
  induction path with
  | nil => intro f last; cases last
  | bottom i => intro f last; cases last; rfl
  | above _ _ _ ih => rwa [List.getLast?_cons_cons]

structure Invariant (targets : α → List α) (origin : α) (w : DepthFirst α) : Prop where
  /-- The marked nodes are those on the stack and the finished ones. -/
  marked : w.visited.Perm (w.stack.map (·.node) ++ w.finished)
  distinct : w.visited.Nodup
  path : Path targets origin w.stack
  bound : ∀ f ∈ w.stack, f.followed ≤ (targets f.node).length
  /-- Edges that were followed lead to marked nodes. -/
  followed : ∀ f ∈ w.stack, ∀ k < f.followed, ∀ t, (targets f.node)[k]? = some t → t ∈ w.visited
  /-- All edges of finished nodes do. -/
  closed : ∀ a ∈ w.finished, ∀ t ∈ targets a, t ∈ w.visited
  reached : ∀ a ∈ w.visited, Reachable targets origin a
  /-- The origin is finished last. -/
  last : w.stack = [] → w.finished.head? = some origin

namespace Invariant

/-- At the start the origin is marked and open. -/
theorem start (targets : α → List α) (origin : α) :
    Invariant targets origin (start origin) where
  marked := .refl _
  distinct := List.pairwise_singleton _ origin
  path := .bottom 0
  bound := by simp [DepthFirst.start]
  followed := by simp [DepthFirst.start]
  closed := by simp [DepthFirst.start]
  reached a mem := by
    cases List.mem_singleton.1 mem
    exact .refl
  last empty := by cases empty

variable {visited finished : List α} {below : List (Frame α)} {node t : α} {i : Nat}

/-- The edge that is followed next is one more that leads to a marked node. -/
theorem followed_succ (inv : Invariant targets origin ⟨visited, ⟨node, i⟩ :: below, finished⟩)
    (edge : (targets node)[i]? = some t) {visited' : List α} (more : visited ⊆ visited')
    (marked : t ∈ visited') : ∀ f ∈ (⟨node, i + 1⟩ : Frame α) :: below, ∀ k < f.followed,
      ∀ s, (targets f.node)[k]? = some s → s ∈ visited' := by
  intro f mem k less s here
  rcases List.mem_cons.1 mem with rfl | mem
  · rcases Nat.lt_succ_iff_lt_or_eq.1 less with less | rfl
    · exact more (inv.followed ⟨node, i⟩ List.mem_cons_self k less s here)
    · cases edge.symm.trans here
      exact marked
  · exact more (inv.followed f (List.mem_cons_of_mem _ mem) k less s here)

theorem bound_succ (inv : Invariant targets origin ⟨visited, ⟨node, i⟩ :: below, finished⟩)
    (edge : (targets node)[i]? = some t) :
    ∀ f ∈ (⟨node, i + 1⟩ : Frame α) :: below, f.followed ≤ (targets f.node).length := by
  intro f mem
  rcases List.mem_cons.1 mem with rfl | mem
  · exact (List.getElem?_eq_some_iff.1 edge).1
  · exact inv.bound f (List.mem_cons_of_mem _ mem)

/-- A move to a target that is not marked opens it. -/
theorem enter (inv : Invariant targets origin ⟨visited, ⟨node, i⟩ :: below, finished⟩)
    (edge : (targets node)[i]? = some t) (fresh : t ∉ visited) :
    Invariant targets origin
      ⟨t :: visited, ⟨t, 0⟩ :: ⟨node, i + 1⟩ :: below, finished⟩ where
  marked := inv.marked.cons t
  distinct := List.nodup_cons.2 ⟨fresh, inv.distinct⟩
  path := .above (inv.path.follow _) edge 0
  bound := List.forall_mem_cons.2 ⟨Nat.zero_le _, inv.bound_succ edge⟩
  followed := List.forall_mem_cons.2 ⟨fun _ less => absurd less (Nat.not_lt_zero _),
    inv.followed_succ edge (List.subset_cons_self t visited) List.mem_cons_self⟩
  closed a mem s target := List.mem_cons_of_mem t (inv.closed a mem s target)
  reached := by
    have here : node ∈ visited := inv.marked.mem_iff.2 List.mem_cons_self
    exact List.forall_mem_cons.2
      ⟨(inv.reached node here).tail (List.mem_of_getElem? edge), inv.reached⟩
  last empty := by cases empty

/-- A move past a marked target leaves the open nodes as they are. -/
theorem pass (inv : Invariant targets origin ⟨visited, ⟨node, i⟩ :: below, finished⟩)
    (edge : (targets node)[i]? = some t) (marked : t ∈ visited) :
    Invariant targets origin ⟨visited, ⟨node, i + 1⟩ :: below, finished⟩ where
  marked := inv.marked
  distinct := inv.distinct
  path := inv.path.follow _
  bound := inv.bound_succ edge
  followed := inv.followed_succ edge (List.Subset.refl visited) marked
  closed := inv.closed
  reached := inv.reached
  last empty := by cases empty

/-- A node without targets left is taken off the stack and finished. -/
theorem finish (inv : Invariant targets origin ⟨visited, ⟨node, i⟩ :: below, finished⟩)
    (done : (targets node)[i]? = none) :
    Invariant targets origin ⟨visited, below, node :: finished⟩ where
  marked := inv.marked.trans List.perm_middle.symm
  distinct := inv.distinct
  path := inv.path.tail
  bound := (List.forall_mem_cons.1 inv.bound).2
  followed := (List.forall_mem_cons.1 inv.followed).2
  closed := by
    refine List.forall_mem_cons.2 ⟨fun t target => ?_, inv.closed⟩
    obtain ⟨k, here⟩ := List.mem_iff_getElem?.1 target
    have less : k < i := Nat.lt_of_lt_of_le (List.getElem?_eq_some_iff.1 here).1
      (List.getElem?_eq_none_iff.1 done)
    exact inv.followed ⟨node, i⟩ List.mem_cons_self k less t here
  reached := inv.reached
  last empty := by
    cases (empty : below = [])
    cases inv.path
    rfl

/-- Each move keeps the invariant. -/
theorem move {w w' : DepthFirst α} (inv : Invariant targets origin w)
    (moved : Move targets w w') : Invariant targets origin w' := by
  cases moved with
  | enter edge fresh => exact inv.enter edge fresh
  | pass edge marked => exact inv.pass edge marked
  | finish done => exact inv.finish done

/-- When nothing is left on the stack, the finished nodes are those that can be reached. -/
theorem mem_finished_iff {w : DepthFirst α} (inv : Invariant targets origin w)
    (empty : w.stack = []) (a : α) : a ∈ w.finished ↔ Reachable targets origin a := by
  have same : w.visited.Perm w.finished := by
    simpa [empty] using inv.marked
  constructor
  · exact fun mem => inv.reached a (same.mem_iff.2 mem)
  · intro reachable
    induction reachable with
    | refl => exact List.mem_of_mem_head? (inv.last empty)
    | tail _ edge ih => exact same.mem_iff.1 (inv.closed _ ih _ edge)

end Invariant

/-! ### Cost -/

/-- The steps that nodes take in all: one for each edge and one for each node. -/
def cost (targets : α → List α) (nodes : List α) : Nat :=
  (nodes.map fun a => (targets a).length + 1).sum

/-- The steps that led to a state. -/
def spent (targets : α → List α) (w : DepthFirst α) : Nat :=
  cost targets w.finished + (w.stack.map (·.followed)).sum

theorem spent_start (origin : α) : spent targets (start origin) = 0 := rfl

/-- Each move uses up one more of the cost. -/
theorem spent_move {w w' : DepthFirst α} (inv : Invariant targets origin w)
    (moved : Move targets w w') : spent targets w' = spent targets w + 1 := by
  cases moved with
  | enter => simp only [spent, List.map_cons, List.sum_cons]; omega
  | pass => simp only [spent, List.map_cons, List.sum_cons]; omega
  | @finish _ _ _ node i done =>
    have all : (targets node).length = i :=
      Nat.le_antisymm (List.getElem?_eq_none_iff.1 done) (inv.bound ⟨node, i⟩ List.mem_cons_self)
    simp only [spent, cost, List.map_cons, List.sum_cons]
    omega

theorem cost_append (nodes rest : List α) :
    cost targets (nodes ++ rest) = cost targets nodes + cost targets rest := by
  simp [cost]

theorem cost_of_perm {nodes nodes' : List α} (same : nodes.Perm nodes') :
    cost targets nodes = cost targets nodes' :=
  (same.map _).sum_nat

/-- Distinct nodes cost no more than all of those that they are among. -/
theorem cost_le_of_subset {nodes whole : List α} (distinct : nodes.Nodup)
    (covered : nodes ⊆ whole) : cost targets nodes ≤ cost targets whole := by
  obtain ⟨chosen, same, sublist⟩ := List.subperm_of_subset distinct covered
  obtain ⟨rest, parts⟩ := sublist.exists_perm_append
  rw [cost_of_perm parts, cost_append, cost_of_perm same]
  exact Nat.le_add_right _ _

/-- A node on the stack still has its last step before it. -/
theorem sum_followed_lt {f : Frame α} {stack : List (Frame α)}
    (bound : ∀ g ∈ f :: stack, g.followed ≤ (targets g.node).length) :
    ((f :: stack).map (·.followed)).sum < cost targets ((f :: stack).map (·.node)) := by
  induction stack generalizing f with
  | nil =>
    have first := bound f List.mem_cons_self
    simp only [cost, List.map_cons, List.map_nil, List.sum_cons, List.sum_nil]
    omega
  | cons g rest ih =>
    obtain ⟨first, others⟩ := List.forall_mem_cons.1 bound
    have rest := ih others
    simp only [cost, List.map_cons, List.sum_cons] at rest ⊢
    omega

/-- As long as the traversal goes on, it has cost less than all marked nodes will. -/
theorem spent_lt {w : DepthFirst α} (inv : Invariant targets origin w) (left : w.stack ≠ []) :
    spent targets w < cost targets w.visited := by
  obtain ⟨visited, _ | ⟨f, below⟩, finished⟩ := w
  · exact absurd rfl left
  · have marked : cost targets visited =
        cost targets ((f :: below).map (·.node)) + cost targets finished := by
      rw [← cost_append]
      exact cost_of_perm inv.marked
    have stacked := sum_followed_lt inv.bound
    simp only [spent]
    omega

/-! ### Runs -/

variable [DecidableEq α]

/-- Each step of the machine is a move. -/
theorem move_of_step {w w' : DepthFirst α} (stepped : w.step targets = some w') :
    Move targets w w' := by
  obtain ⟨visited, stack, finished⟩ := w
  cases stack with
  | nil => cases stepped
  | cons top below =>
    obtain ⟨node, i⟩ := top
    simp only [step] at stepped
    cases edge : (targets node)[i]? with
    | none =>
      rw [edge] at stepped
      cases stepped
      exact .finish edge
    | some t =>
      simp only [edge] at stepped
      split at stepped
      · next marked => cases stepped; exact .pass edge marked
      · next fresh => cases stepped; exact .enter edge fresh

/-- Only an empty stack leaves no step. -/
theorem step_eq_none_iff {w : DepthFirst α} : w.step targets = none ↔ w.stack = [] := by
  obtain ⟨visited, _ | ⟨⟨node, i⟩, below⟩, finished⟩ := w
  · exact ⟨fun _ => rfl, fun _ => rfl⟩
  · constructor
    · intro stuck
      simp only [step] at stuck
      repeat' split at stuck
      all_goals cases stuck
    · intro empty
      cases empty

/-- A walk that has ended stays as it is. -/
theorem run_of_stack_eq_nil {w : DepthFirst α} (stopped : w.stack = []) (n : Nat) :
    run targets n w = w := by
  cases n with
  | zero => rfl
  | succ n => rw [run, step_eq_none_iff.2 stopped]

/-- When no step is left, further ones change nothing. -/
theorem run_eq_of_stack_eq_nil {w : DepthFirst α} {n m : Nat}
    (stopped : (run targets n w).stack = []) (stopped' : (run targets m w).stack = []) :
    run targets n w = run targets m w := by
  induction n generalizing m w with
  | zero => exact (run_of_stack_eq_nil stopped m).symm
  | succ n ih =>
    cases m with
    | zero => exact run_of_stack_eq_nil stopped' (n + 1)
    | succ m =>
      rw [run] at stopped stopped' ⊢
      rw [run]
      cases stepped : w.step targets with
      | none => rfl
      | some w' =>
        rw [stepped] at stopped stopped'
        exact ih stopped stopped'

/-- What all moves keep holds after any number of steps. -/
theorem run_induction {motive : DepthFirst α → Prop}
    (move : ∀ {w w'}, motive w → Move targets w w' → motive w') {w : DepthFirst α}
    (initially : motive w) (n : Nat) : motive (run targets n w) := by
  induction n generalizing w with
  | zero => exact initially
  | succ n ih =>
    rw [run]
    split
    · next stepped => exact ih (move initially (move_of_step stepped))
    · exact initially

/-- The invariant holds after any number of steps. -/
theorem Invariant.run (targets : α → List α) (origin : α) (n : Nat) :
    Invariant targets origin (run targets n (.start origin)) :=
  run_induction Invariant.move (.start targets origin) n

/-- Each step is counted, and fewer ones are taken only if none is left. -/
theorem spent_run {w : DepthFirst α} (inv : Invariant targets origin w) (n : Nat) :
    spent targets (run targets n w) ≤ spent targets w + n ∧
      ((run targets n w).stack = [] ∨ spent targets (run targets n w) = spent targets w + n) := by
  induction n generalizing w with
  | zero => exact ⟨Nat.le_refl _, .inr rfl⟩
  | succ n ih =>
    rw [DepthFirst.run]
    split
    · next stepped =>
      have moved := move_of_step stepped
      have counted := spent_move inv moved
      obtain ⟨most, all⟩ := ih (inv.move moved)
      exact ⟨by omega, all.imp_right fun rest => by omega⟩
    · next stuck => exact ⟨Nat.le_add_right _ _, .inl (step_eq_none_iff.1 stuck)⟩

/-- The traversal ends within the cost of any nodes among which all that can be reached
are. -/
theorem stack_run_eq_nil {whole : List α} (covers : ∀ a, Reachable targets origin a → a ∈ whole)
    {n : Nat} (enough : cost targets whole ≤ n) :
    (run targets n (.start origin)).stack = [] := by
  have inv := Invariant.run targets origin n
  by_contra left
  have counted := (spent_run (.start targets origin) n).2.resolve_left left
  have less := spent_lt inv left
  have all : cost targets (run targets n (.start origin)).visited ≤ cost targets whole :=
    cost_le_of_subset inv.distinct fun a mem => covers a (inv.reached a mem)
  rw [spent_start] at counted
  omega

/-- The traversal takes just as many steps as all nodes that can be reached cost. -/
theorem stack_run_eq_nil_iff {whole : List α} (distinct : whole.Nodup)
    (reached : ∀ a, a ∈ whole ↔ Reachable targets origin a) {n : Nat} :
    (run targets n (.start origin)).stack = [] ↔ cost targets whole ≤ n := by
  constructor
  · intro empty
    have inv := Invariant.run targets origin n
    have covered : whole ⊆ (run targets n (.start origin)).finished := fun a mem =>
      (inv.mem_finished_iff empty a).2 ((reached a).1 mem)
    have counted := (spent_run (.start targets origin) n).1
    calc cost targets whole
        ≤ cost targets (run targets n (.start origin)).finished :=
          cost_le_of_subset distinct covered
      _ ≤ spent targets (run targets n (.start origin)) := Nat.le_add_right _ _
      _ ≤ n := by rwa [spent_start, Nat.zero_add] at counted
  · exact stack_run_eq_nil fun a => (reached a).2

end DepthFirst
end ProgramModel.Traversal
