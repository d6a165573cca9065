import Mathlib.Data.List.Perm.Subperm
import Mathlib.Data.Nat.Find
import Mathlib.Logic.Relation
import ProgramModel.Traversal.BreadthFirst

/-!
Breadth-first traversal, level by level. The loop is first freed from its bound on rounds
(`Explores`); that bound is met when it is as great as the number of nodes that can come up
(`explores_breadthFirst`). Main statement: the traversal lists the levels of the graph one
after another, until a level is empty (`Explores.exists_eq_before`), and a level has the
nodes at its distance from the origin (`mem_level_iff`).
-/

namespace ProgramModel.Traversal

variable {α : Type} {targets : α → List α} {origin : α}

/-! ### Walks -/

/-- The nodes that a walk along a number of edges leads to. -/
inductive Walk (targets : α → List α) (origin : α) : Nat → α → Prop where
  | start : Walk targets origin 0 origin
  | onward {k : Nat} {a b : α} (walk : Walk targets origin k a) (edge : b ∈ targets a) :
      Walk targets origin (k + 1) b

/-- Walks of all lengths together are reachability. -/
theorem exists_walk_iff {a : α} :
    (∃ k, Walk targets origin k a) ↔ Relation.ReflTransGen (fun a b => b ∈ targets a) origin a := by
  constructor
  · rintro ⟨k, walk⟩
    induction walk with
    | start => exact .refl
    | onward _ edge ih => exact ih.tail edge
  · intro reached
    induction reached with
    | refl => exact ⟨0, .start⟩
    | tail _ edge ih =>
      obtain ⟨k, walk⟩ := ih
      exact ⟨k + 1, walk.onward edge⟩

/-- With more edges each walk is still one. -/
theorem Walk.mono {targets' : α → List α} {k : Nat} {a : α} (more : ∀ b, targets b ⊆ targets' b)
    (walk : Walk targets origin k a) : Walk targets' origin k a := by
  induction walk with
  | start => exact .start
  | onward _ edge ih => exact ih.onward (more _ edge)

/-- One node is not farther from the origin than another one: walks to it are found that are
no longer. -/
def NoFarther (targets : α → List α) (origin a b : α) : Prop :=
  ∀ j, Walk targets origin j b → ∃ i ≤ j, Walk targets origin i a

variable [DecidableEq α] {order result xs : List α} {cursor : Nat}

/-! ### Nodes at the end of a list -/

/-- The nodes that are new come at the end, in the order of their first mention. -/
theorem foldl_appendNew (xs order : List α) :
    xs.foldl appendNew order = order ++ (xs.filter (· ∉ order)).eraseDups := by
  induction xs generalizing order with
  | nil => simp
  | cons x xs ih =>
    rw [List.foldl_cons, ih, appendNew]
    by_cases known : x ∈ order
    · simp [known]
    · have fresh : xs.filter (· ∉ order ++ [x]) =
          (xs.filter (· ∉ order)).filter fun b => !b == x := by
        rw [List.filter_filter]
        apply List.filter_congr
        intro b _
        by_cases same : b = x <;> simp [same]
      rw [if_neg known, List.filter_cons_of_pos (by simpa using known), List.eraseDups_cons, fresh,
        List.append_assoc, List.singleton_append]

theorem nodup_foldl_appendNew (distinct : order.Nodup) : (xs.foldl appendNew order).Nodup := by
  induction xs generalizing order with
  | nil => exact distinct
  | cons x xs ih =>
    apply ih
    unfold appendNew
    split
    · exact distinct
    · next fresh =>
      refine List.nodup_append.2 ⟨distinct, List.pairwise_singleton _ x, ?_⟩
      rintro a mem b last rfl
      exact fresh (List.mem_singleton.1 last ▸ mem)

/-! ### The loop without a bound -/

/-- Rounds of the loop up to the one in which the cursor is behind the last node. -/
inductive Explores (targets : α → List α) : Nat → List α → List α → Prop where
  | done {cursor : Nat} {order : List α} (behind : order.length ≤ cursor) :
      Explores targets cursor order order
  | round {cursor : Nat} {order result : List α} {node : α} (here : order[cursor]? = some node)
      (rest : Explores targets (cursor + 1) ((targets node).foldl appendNew order) result) :
      Explores targets cursor order result

/-- A bound that the nodes of the result do not exceed is enough. -/
theorem explores_explore {rounds : Nat}
    (enough : (explore targets rounds cursor order).length ≤ cursor + rounds) :
    Explores targets cursor order (explore targets rounds cursor order) := by
  induction rounds generalizing cursor order with
  | zero => exact .done enough
  | succ rounds ih =>
    unfold explore at enough ⊢
    cases here : order[cursor]? with
    | none => exact .done (List.getElem?_eq_none_iff.1 here)
    | some node =>
      rw [here] at enough
      exact .round here (ih (by simpa only [Nat.add_assoc, Nat.add_comm 1] using enough))

/-- No node is twice in the order. -/
theorem nodup_explore {rounds : Nat} (distinct : order.Nodup) :
    (explore targets rounds cursor order).Nodup := by
  induction rounds generalizing cursor order with
  | zero => exact distinct
  | succ rounds ih =>
    unfold explore
    split
    · exact ih (nodup_foldl_appendNew distinct)
    · exact distinct

/-- All nodes that come up are among those that edges lead to and those of the start. -/
theorem explore_subset {rounds : Nat} {all : List α} (edges : ∀ a, targets a ⊆ all)
    (start : order ⊆ all) : explore targets rounds cursor order ⊆ all := by
  induction rounds generalizing cursor order with
  | zero => exact start
  | succ rounds ih =>
    unfold explore
    split
    · next node _ =>
      apply ih
      rw [foldl_appendNew, List.append_subset]
      refine ⟨start, fun a mem => ?_⟩
      exact edges node (List.mem_of_mem_filter (List.mem_eraseDups.1 mem))
    · exact start

/-- As many rounds as there are nodes are enough. -/
theorem explores_breadthFirst {rounds : Nat} {all : List α} (edges : ∀ a, targets a ⊆ all)
    (start : origin ∈ all) (enough : all.length ≤ rounds) :
    Explores targets 0 [origin] (breadthFirst targets rounds origin) := by
  have distinct : (breadthFirst targets rounds origin).Nodup :=
    nodup_explore (List.pairwise_singleton _ origin)
  have known : breadthFirst targets rounds origin ⊆ all :=
    explore_subset edges (List.cons_subset.2 ⟨start, List.nil_subset _⟩)
  apply explores_explore
  have := (distinct.subperm known).length_le
  unfold breadthFirst at this
  omega

namespace Explores

/-- Behind the last node nothing is done. -/
theorem eq_of_behind (run : Explores targets cursor order result)
    (behind : order.length ≤ cursor) : result = order := by
  cases run with
  | done => rfl
  | round here => exact absurd (List.getElem?_eq_some_iff.1 here).1 (Nat.not_lt.2 behind)

/-- The loop has one result. -/
theorem unique {result' : List α} (run : Explores targets cursor order result)
    (run' : Explores targets cursor order result') : result' = result := by
  induction run with
  | done behind => exact run'.eq_of_behind behind
  | round here _ ih =>
    cases run' with
    | done behind => exact absurd (List.getElem?_eq_some_iff.1 here).1 (Nat.not_lt.2 behind)
    | round here' rest' =>
      cases here.symm.trans here'
      exact ih rest'

/-- What is in the order stays where it is. -/
theorem isPrefix (run : Explores targets cursor order result) : order <+: result := by
  induction run with
  | done => exact List.prefix_refl _
  | round _ _ ih =>
    rw [foldl_appendNew] at ih
    exact (List.prefix_append _ _).trans ih

end Explores

/-! ### Levels -/

mutual
/-- A level of the graph. The first one has the origin alone, and each other one the nodes
that edges from the level before lead to and that no level before has, in the order of their
first mention. -/
def level (targets : α → List α) (origin : α) : Nat → List α
  | 0 => [origin]
  | k + 1 =>
    (((level targets origin k).flatMap targets).filter
      (· ∉ before targets origin k ++ level targets origin k)).eraseDups

/-- The levels before one, the first one in front. -/
def before (targets : α → List α) (origin : α) : Nat → List α
  | 0 => []
  | k + 1 => before targets origin k ++ level targets origin k
end

theorem before_succ (targets : α → List α) (origin : α) (k : Nat) :
    before targets origin (k + 1) = before targets origin k ++ level targets origin k := rfl

/-- The nodes before a level are those of the levels up to it, one level after another. -/
theorem before_eq_flatMap (targets : α → List α) (origin : α) (k : Nat) :
    before targets origin k = (List.range k).flatMap (level targets origin) := by
  induction k with
  | zero => rfl
  | succ k ih =>
    rw [before_succ, ih, List.range_succ, List.flatMap_append, List.flatMap_singleton]

/-- The next level has the targets of the last one that were not there before. -/
theorem mem_level_succ_iff {k : Nat} {a : α} : a ∈ level targets origin (k + 1) ↔
    (∃ b ∈ level targets origin k, a ∈ targets b) ∧ a ∉ before targets origin (k + 1) := by
  rw [level, List.mem_eraseDups, List.mem_filter, List.mem_flatMap, decide_eq_true_iff,
    before_succ]

/-- A level has the nodes at its distance: a walk of that length leads there, and no shorter
one. -/
theorem mem_level_and_mem_before_iff (k : Nat) :
    (∀ a, a ∈ level targets origin k ↔
      Walk targets origin k a ∧ ∀ j < k, ¬ Walk targets origin j a) ∧
    ∀ a, a ∈ before targets origin k ↔ ∃ j < k, Walk targets origin j a := by
  induction k with
  | zero =>
    constructor
    · intro a
      rw [level, List.mem_singleton]
      constructor
      · rintro rfl
        exact ⟨.start, fun _ less => absurd less (Nat.not_lt_zero _)⟩
      · rintro ⟨walk, _⟩
        cases walk
        rfl
    · simp [before]
  | succ k ih =>
    obtain ⟨atLevel, below⟩ := ih
    have upTo (a : α) : a ∈ before targets origin (k + 1) ↔
        ∃ j < k + 1, Walk targets origin j a := by
      rw [before_succ, List.mem_append, below, atLevel]
      constructor
      · rintro (⟨j, less, walk⟩ | ⟨walk, _⟩)
        · exact ⟨j, Nat.lt_succ_of_lt less, walk⟩
        · exact ⟨k, Nat.lt_succ_self k, walk⟩
      · rintro ⟨j, less, walk⟩
        by_cases shorter : ∃ i < k, Walk targets origin i a
        · exact .inl shorter
        · have same : j = k := by
            by_contra other
            exact shorter ⟨j, by omega, walk⟩
          exact .inr ⟨same ▸ walk, fun i less walk => shorter ⟨i, less, walk⟩⟩
    refine ⟨fun a => ?_, upTo⟩
    rw [mem_level_succ_iff, upTo]
    constructor
    · rintro ⟨⟨b, mem, edge⟩, none⟩
      exact ⟨((atLevel b).1 mem).1.onward edge, fun j less walk => none ⟨j, less, walk⟩⟩
    · rintro ⟨walk, none⟩
      constructor
      · cases walk with
        | onward walk edge =>
          -- A shorter walk to the node before would lead on to a shorter one to this node.
          refine ⟨_, (atLevel _).2 ⟨walk, fun j less shorter => ?_⟩, edge⟩
          exact none (j + 1) (Nat.succ_lt_succ less) (shorter.onward edge)
      · rintro ⟨j, less, shorter⟩
        exact none j less shorter

/-- A level has the nodes with a walk of its length and none that is shorter. -/
theorem mem_level_iff {k : Nat} {a : α} : a ∈ level targets origin k ↔
    Walk targets origin k a ∧ ∀ j < k, ¬ Walk targets origin j a :=
  (mem_level_and_mem_before_iff k).1 a

/-- Before a level stand the nodes with a shorter walk. -/
theorem mem_before_iff {k : Nat} {a : α} :
    a ∈ before targets origin k ↔ ∃ j < k, Walk targets origin j a :=
  (mem_level_and_mem_before_iff k).2 a

/-- The nearer nodes come first. -/
theorem pairwise_before (targets : α → List α) (origin : α) (k : Nat) :
    (before targets origin k).Pairwise (NoFarther targets origin) := by
  induction k with
  | zero => exact .nil
  | succ k ih =>
    -- Whatever stands before a node of this level is reached in as many steps or fewer.
    have far {a b : α} {i : Nat} (walk : Walk targets origin i a) (within : i ≤ k)
        (mem : b ∈ level targets origin k) : NoFarther targets origin a b := by
      intro j walk'
      have : ¬ j < k := fun less => (mem_level_iff.1 mem).2 j less walk'
      exact ⟨i, by omega, walk⟩
    rw [before_succ, List.pairwise_append]
    refine ⟨ih, List.pairwise_of_forall_mem_list ?_, ?_⟩
    · intro a mem b mem'
      exact far (mem_level_iff.1 mem).1 le_rfl mem'
    · intro a mem b mem'
      obtain ⟨i, less, walk⟩ := mem_before_iff.1 mem
      exact far walk (Nat.le_of_lt less) mem'

/-- Behind an empty level all levels are empty. -/
theorem level_eq_nil_of_le {k j : Nat} (empty : level targets origin k = []) (le : k ≤ j) :
    level targets origin j = [] := by
  induction j, le using Nat.le_induction with
  | base => exact empty
  | succ j _ ih => rw [level, ih]; rfl

namespace Explores

/-- While the cursor passes over some nodes, all their targets come to the end of the order. -/
theorem pass {seen pending added : List α}
    (run : Explores targets seen.length (seen ++ pending ++ added) result) :
    Explores targets (seen ++ pending).length
      ((pending.flatMap targets).foldl appendNew (seen ++ pending ++ added)) result := by
  induction pending generalizing seen added with
  | nil => simpa using run
  | cons a rest ih =>
    cases run with
    | done behind =>
      simp only [List.length_append, List.length_cons] at behind
      omega
    | @round _ _ _ node here next =>
      have same : node = a := by simpa using here.symm
      subst same
      rw [List.flatMap_cons, List.foldl_append, foldl_appendNew (targets node)]
      rw [foldl_appendNew] at next
      generalize ((targets node).filter (· ∉ seen ++ node :: rest ++ added)).eraseDups = fresh
        at next ⊢
      have shifted : Explores targets (seen ++ [node]).length
          (seen ++ [node] ++ rest ++ (added ++ fresh)) result := by
        simpa using next
      simpa using ih shifted

/-- When the cursor is at the front of a level, the whole level is in the order and nothing
else behind the cursor. -/
theorem atLevel (run : Explores targets 0 [origin] result) (k : Nat) :
    Explores targets (before targets origin k).length
      (before targets origin k ++ level targets origin k) result := by
  induction k with
  | zero => exact run
  | succ k ih =>
    rw [← List.append_nil (before targets origin k ++ level targets origin k)] at ih
    have passed := ih.pass
    rw [List.append_nil, foldl_appendNew] at passed
    exact passed

/-- If a level is empty, the search ends with the nodes before it. -/
theorem eq_before_of_empty (run : Explores targets 0 [origin] result) {k : Nat}
    (empty : level targets origin k = []) : result = before targets origin k := by
  have last := run.atLevel k
  rw [empty, List.append_nil] at last
  exact last.eq_of_behind le_rfl

/-- The loop ends, so one of the levels is empty: otherwise each would add a node to the
result. -/
theorem exists_level_eq_nil (run : Explores targets 0 [origin] result) :
    ∃ k, level targets origin k = [] := by
  by_contra nonempty
  have long (k : Nat) : k ≤ (before targets origin k).length := by
    induction k with
    | zero => exact Nat.zero_le _
    | succ k ih =>
      have := List.length_pos_iff.2 fun empty => nonempty ⟨k, empty⟩
      rw [before_succ, List.length_append]
      omega
  have bound := (run.atLevel (result.length + 1)).isPrefix.length_le
  have := long (result.length + 1)
  rw [List.length_append] at bound
  omega

/-- The loop gives the levels in their order, up to an empty one. -/
theorem exists_eq_before (run : Explores targets 0 [origin] result) :
    ∃ k, level targets origin k = [] ∧ result = before targets origin k := by
  obtain ⟨k, empty⟩ := run.exists_level_eq_nil
  exact ⟨k, empty, run.eq_before_of_empty empty⟩

/-- The levels are empty from one on, and it does not matter which of these is the last one
that is counted in. -/
theorem exists_forall_eq_before (run : Explores targets 0 [origin] result) :
    ∃ last, (∀ k, level targets origin k = [] ↔ last ≤ k) ∧
      ∀ k, last ≤ k → result = before targets origin k := by
  have ends := run.exists_level_eq_nil
  have empty_iff (k : Nat) : level targets origin k = [] ↔ Nat.find ends ≤ k :=
    ⟨Nat.find_min' ends, level_eq_nil_of_le (Nat.find_spec ends)⟩
  exact ⟨Nat.find ends, empty_iff, fun k le => run.eq_before_of_empty ((empty_iff k).2 le)⟩

/-- The loop finds the nodes that walks lead to, and no others. -/
theorem mem_iff_exists_walk (run : Explores targets 0 [origin] result) {a : α} :
    a ∈ result ↔ ∃ k, Walk targets origin k a := by
  obtain ⟨k, empty, rfl⟩ := run.exists_eq_before
  rw [mem_before_iff]
  constructor
  · rintro ⟨j, _, walk⟩
    exact ⟨j, walk⟩
  · intro walked
    classical
    refine ⟨Nat.find walked, ?_, Nat.find_spec walked⟩
    by_contra beyond
    have mem : a ∈ level targets origin (Nat.find walked) :=
      mem_level_iff.2 ⟨Nat.find_spec walked, fun _ => Nat.find_min walked⟩
    rw [level_eq_nil_of_le empty (Nat.le_of_not_lt beyond)] at mem
    cases mem

/-- Nodes come by their distance from the origin. -/
theorem pairwise_noFarther (run : Explores targets 0 [origin] result) :
    result.Pairwise (NoFarther targets origin) := by
  obtain ⟨k, _, rfl⟩ := run.exists_eq_before
  exact pairwise_before targets origin k

/-- The first node of some kind is a nearest one. -/
theorem nearest_of_findSome? {β : Type} {f : α → Option β} {x : β}
    (run : Explores targets 0 [origin] result) (found : result.findSome? f = some x) :
    ∃ k a, Walk targets origin k a ∧ f a = some x ∧
      ∀ j b, Walk targets origin j b → (f b).isSome → k ≤ j := by
  obtain ⟨front, a, rest, split, given, earlier⟩ := List.findSome?_eq_some_iff.1 found
  have reached : ∃ k, Walk targets origin k a := by
    rw [← run.mem_iff_exists_walk, split]
    simp
  classical
  refine ⟨Nat.find reached, a, Nat.find_spec reached, given, ?_⟩
  intro j b walk some
  have near : NoFarther targets origin a b := by
    -- In front of `a` nothing is found, so `b` is `a` or stands behind it.
    have mem : b ∈ front ++ a :: rest := split ▸ run.mem_iff_exists_walk.2 ⟨j, walk⟩
    have sorted := run.pairwise_noFarther
    rw [split] at sorted
    rcases List.mem_append.1 mem with mem | mem
    · rw [earlier b mem] at some
      cases some
    · rcases List.mem_cons.1 mem with rfl | mem
      · exact fun j walk => ⟨j, le_rfl, walk⟩
      · exact List.rel_of_pairwise_cons (List.pairwise_append.1 sorted).2.1 mem
  obtain ⟨i, le, shorter⟩ := near j walk
  exact Nat.le_trans (Nat.find_min' reached shorter) le

end Explores
end ProgramModel.Traversal
