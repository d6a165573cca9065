import Mathlib.Data.Finset.Card
import ProgramModel.Proofs.Traversal.DepthFirst

/-!
Depth-first search by recursion, and the traversal with a stack as the same search. A call
for a node becomes the frame of that node, and what a loop over targets has yet to visit is
what the frame has yet to follow. Main statements: calls are nested no deeper than there are
nodes (`Search.exists_visit`), and a traversal that has come to an end has finished the nodes in
the order of the recursion (`postorder?_eq`).
-/

namespace ProgramModel.Traversal

variable {α : Type}

/-! ### The recursive search -/

/-- What a search has done so far. -/
structure Search (α : Type) where
  /-- The marked nodes, the last one first. -/
  marked : List α
  /-- The nodes that are left again, the last one last. -/
  postorder : List α

namespace Search

def empty : Search α := ⟨[], []⟩

def enter (node : α) (s : Search α) : Search α := { s with marked := node :: s.marked }

def leave (node : α) (s : Search α) : Search α := { s with postorder := s.postorder ++ [node] }

/-- Marks a node, visits those of its targets that are not marked when their turn comes, and
lists the node after all of them. There is no result when calls are nested deeper than
`depth`. -/
def visit [DecidableEq α] (targets : α → List α) : Nat → α → Search α → Option (Search α)
  | 0, _, _ => none
  | depth + 1, node, s => do
    let done ← (targets node).foldlM
      (fun s t => if t ∈ s.marked then some s else visit targets depth t s) (s.enter node)
    return done.leave node

/-- The nodes that can be reached, in the order in which the recursion leaves them. -/
def postorder? [DecidableEq α] (targets : α → List α) (depth : Nat) (node : α) :
    Option (List α) :=
  (visit targets depth node .empty).map (·.postorder)

/-! ### The depth of calls -/

variable [DecidableEq α] {targets : α → List α} {origin : α}

/-- A loop has a result when each round has one and keeps what the rounds rely on. -/
theorem exists_foldlM {σ β : Type} {round : σ → β → Option σ} {kept : σ → Prop} {items : List β}
    (each : ∀ s, kept s → ∀ b ∈ items, ∃ s', round s b = some s' ∧ kept s') {s : σ}
    (initially : kept s) : ∃ s', items.foldlM round s = some s' ∧ kept s' := by
  induction items generalizing s with
  | nil => exact ⟨s, rfl, initially⟩
  | cons b rest ih =>
    obtain ⟨s₁, first, kept₁⟩ := each s initially b List.mem_cons_self
    obtain ⟨s₂, others, kept₂⟩ :=
      ih (fun s h c mem => each s h c (List.mem_cons_of_mem b mem)) kept₁
    exact ⟨s₂, by rw [List.foldlM_cons, first]; exact others, kept₂⟩

/-- Once a node is marked, there are fewer nodes left to mark. -/
theorem card_unmarked_lt {whole : Finset α} {marked marked' : List α} {node : α}
    (here : node ∈ whole \ marked.toFinset) (more : node :: marked ⊆ marked') :
    (whole \ marked'.toFinset).card < (whole \ marked.toFinset).card := by
  refine Finset.card_lt_card (Finset.ssubset_iff_subset_ne.2 ⟨?_, fun same => ?_⟩)
  · exact Finset.sdiff_subset_sdiff (Finset.Subset.refl _) fun a mem =>
      List.mem_toFinset.2 (more (List.mem_cons_of_mem node (List.mem_toFinset.1 mem)))
  · rw [← same] at here
    simp [more List.mem_cons_self] at here

/-- Calls are nested no deeper than there are unmarked nodes to reach, since each of them marks
one before it makes others. -/
theorem exists_visit {whole : Finset α} (covers : ∀ a, Reachable targets origin a → a ∈ whole)
    {node : α} (reached : Reachable targets origin node) {s : Search α} (fresh : node ∉ s.marked)
    {depth : Nat} (enough : (whole \ s.marked.toFinset).card ≤ depth) :
    ∃ s', visit targets depth node s = some s' ∧ s.marked ⊆ s'.marked := by
  have here : node ∈ whole \ s.marked.toFinset := by simpa [fresh] using covers node reached
  induction depth generalizing node s with
  | zero => exact absurd enough (Nat.not_le.2 (Finset.card_pos.2 ⟨node, here⟩))
  | succ depth ih =>
    have rounds : ∃ done, (targets node).foldlM
        (fun s t => if t ∈ s.marked then some s else visit targets depth t s) (s.enter node) =
          some done ∧ (s.enter node).marked ⊆ done.marked := by
      -- What is marked in the loop stays marked, the node itself included.
      refine exists_foldlM (fun s' kept t target => ?_) (List.Subset.refl _)
      by_cases marked : t ∈ s'.marked
      · exact ⟨s', if_pos marked, kept⟩
      · have next : Reachable targets origin t := reached.tail target
        have fewer := Nat.le_of_lt_succ (Nat.lt_of_lt_of_le (card_unmarked_lt here kept) enough)
        obtain ⟨s'', visited, more⟩ := ih next marked fewer (by simpa [marked] using covers t next)
        exact ⟨s'', (if_neg marked).trans visited, List.Subset.trans kept more⟩
    obtain ⟨done, looped, kept⟩ := rounds
    refine ⟨done.leave node, ?_, List.Subset.trans (List.subset_cons_self node s.marked) kept⟩
    rw [visit, looped]
    rfl

end Search

/-! ### Calls as frames -/

/-- One state comes after another one in any number of moves. -/
def DepthFirst.Moves (targets : α → List α) : DepthFirst α → DepthFirst α → Prop :=
  Relation.ReflTransGen (Move targets)

/-- The state of a traversal that has done what a search has done. -/
def Search.onto (s : Search α) (stack : List (Frame α)) : DepthFirst α :=
  ⟨s.marked, stack, s.postorder.reverse⟩

open DepthFirst

variable [DecidableEq α] {targets : α → List α} {origin : α}

/-- A call that gives a result is a run of moves that puts a frame on the stack and, after
everything above it, takes it away again. -/
def IsFrame (targets : α → List α) (call : α → Search α → Option (Search α)) : Prop :=
  ∀ t s s', call t s = some s' → ∀ below,
    Moves targets ((s.enter t).onto (⟨t, 0⟩ :: below)) (s'.onto below)

/-- The loop over the targets that are left follows the edges that are left. -/
theorem moves_foldlM {call : α → Search α → Option (Search α)} (frame : IsFrame targets call)
    {node : α} {i : Nat} {rest : List α} (left : (targets node).drop i = rest)
    {s s' : Search α}
    (looped : rest.foldlM (fun s t => if t ∈ s.marked then some s else call t s) s = some s')
    (below : List (Frame α)) :
    ∃ j, (targets node)[j]? = none ∧
      Moves targets (s.onto (⟨node, i⟩ :: below)) (s'.onto (⟨node, j⟩ :: below)) := by
  induction rest generalizing i s with
  | nil =>
    cases looped
    exact ⟨i, List.getElem?_eq_none (List.drop_eq_nil_iff.1 left), .refl⟩
  | cons t rest ih =>
    have edge : (targets node)[i]? = some t := by
      rw [← List.head?_drop, left]
      rfl
    have next : (targets node).drop (i + 1) = rest := by
      rw [← List.tail_drop, left]
      rfl
    rw [List.foldlM_cons] at looped
    obtain ⟨s₁, first, others⟩ := Option.bind_eq_some_iff.1 looped
    obtain ⟨j, done, moves⟩ := ih next others
    refine ⟨j, done, ?_⟩
    -- A marked target is passed. Any other one is entered, and the frame of its call is gone
    -- before the loop goes on.
    by_cases marked : t ∈ s.marked
    · rw [if_pos marked] at first
      cases first
      exact .head (.pass edge marked) moves
    · rw [if_neg marked] at first
      exact .head (.enter edge marked) ((frame t s s₁ first _).trans moves)

/-- A call of the recursive search does what the walk does from putting its node on the stack to
taking it off. -/
theorem isFrame_visit (targets : α → List α) (depth : Nat) :
    IsFrame targets (Search.visit targets depth) := by
  induction depth with
  | zero =>
    intro t s s' given
    cases given
  | succ depth frame =>
    intro t s s' given below
    obtain ⟨done, looped, left⟩ := Option.bind_eq_some_iff.1 given
    cases left
    obtain ⟨j, finished, moves⟩ := moves_foldlM frame (i := 0) rfl looped below
    refine moves.tail ?_
    rw [Search.onto, Search.onto, Search.leave, List.reverse_append]
    exact .finish finished

/-! ### Runs of moves -/

namespace DepthFirst

/-- Moves are steps. -/
theorem step_of_move {w w' : DepthFirst α} (moved : Move targets w w') :
    w.step targets = some w' := by
  cases moved with
  | enter edge fresh => simp only [step, edge, if_neg fresh]
  | pass edge marked => simp only [step, edge, if_pos marked]
  | finish done => simp only [step, done]

/-- Moves that empty the stack lead to where every run ends that empties it. -/
theorem run_eq_of_moves {w w' : DepthFirst α} (moves : Moves targets w w')
    (stopped : w'.stack = []) {n : Nat} (ended : (run targets n w).stack = []) :
    run targets n w = w' := by
  induction moves using Relation.ReflTransGen.head_induction_on generalizing n with
  | refl => exact run_of_stack_eq_nil stopped n
  | @head w₁ w₂ moved _ ih =>
    cases n with
    | zero =>
      -- Nothing moves on from an empty stack.
      cases moved <;> cases ended
    | succ n =>
      rw [run, step_of_move moved] at ended ⊢
      exact ih ended

end DepthFirst

/-- A traversal that has come to an end has finished the nodes in the order of the recursion,
the last one first. -/
theorem postorder?_eq {whole : Finset α} (covers : ∀ a, Reachable targets origin a → a ∈ whole)
    {depth : Nat} (enough : whole.card ≤ depth) {n : Nat}
    (ended : (DepthFirst.run targets n (.start origin)).stack = []) :
    Search.postorder? targets depth origin =
      some (DepthFirst.run targets n (.start origin)).finished.reverse := by
  obtain ⟨s, visited, _⟩ := Search.exists_visit covers .refl (s := .empty) List.not_mem_nil
    (Nat.le_trans (Finset.card_le_card Finset.sdiff_subset) enough)
  have moves := isFrame_visit targets depth origin .empty s visited []
  rw [Search.postorder?, visited, run_eq_of_moves (w := .start origin) moves rfl ended]
  exact congrArg some s.postorder.reverse_reverse.symm

end ProgramModel.Traversal
