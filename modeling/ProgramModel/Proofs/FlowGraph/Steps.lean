import Mathlib.Algebra.BigOperators.Group.Finset.Basic
import ProgramModel.Proofs.FlowGraph.Reachability

/-!
Walks, step by step. After every step the marked nodes are those on the stack and the finished
ones, the stack is a path from where the walk began, and edges that were followed lead to marked
nodes. A walk takes one step for each edge of a node that it reaches, and one for the node
itself. Main statement: `reversePostorder_steps`.
-/

namespace ProgramModel

open Traversal

namespace FlowGraph

variable {g : FlowGraph} {m n : NodeRef}

/-- The edge of a node with a number leads to a place. The normal edges have the first
numbers. -/
def EdgeAt (g : FlowGraph) (m : NodeRef) (k : Nat) (n : NodeRef) : Prop :=
  ∃ node, g.node? m = some node ∧ (node.succs ++ node.exceptional)[k]? = some n

theorem getElem?_targets_iff {k : Nat} : (g.targets m)[k]? = some n ↔ g.EdgeAt m k n := by
  unfold targets EdgeAt
  cases g.node? m with
  | none => simp
  | some node => simp [Node.targets]

/-- What holds of a walk from a place before, between and after its steps. -/
structure Underway (g : FlowGraph) (m : NodeRef) (w : DepthFirst NodeRef) : Prop where
  places : ∀ n ∈ w.visited, (g.node? n).isSome
  marked : ∀ n, n ∈ w.visited ↔ n ∈ w.stack.map (·.node) ∨ n ∈ w.finished
  disjoint : (w.stack.map (·.node)).Disjoint w.finished
  stackDistinct : (w.stack.map (·.node)).Nodup
  finishedDistinct : w.finished.Nodup
  /-- The walk's first node is at the bottom of the stack. -/
  bottom : ∀ f ∈ w.stack.reverse.head?, f.node = m
  /-- From the bottom on, the edge that was followed last leads to the node above. -/
  path : w.stack.reverse.IsChain fun lower upper =>
    ∃ k, lower.followed = k + 1 ∧ g.EdgeAt lower.node k upper.node
  /-- Edges that were followed lead to marked nodes. -/
  followed : ∀ f ∈ w.stack, ∀ k < f.followed, ∀ n, g.EdgeAt f.node k n → n ∈ w.visited
  /-- All edges of finished nodes do. -/
  closed : ∀ a ∈ w.finished, ∀ n, g.Edge a n → n ∈ w.visited

namespace Coherent

/-- What the invariant of the walk says of lists of targets, in terms of the edges of the graph.
-/
theorem underway (coherent : g.Coherent) (here : (g.node? m).isSome) {w : DepthFirst NodeRef}
    (inv : DepthFirst.Invariant g.targets m w) : g.Underway m w := by
  obtain ⟨stackDistinct, finishedDistinct, disjoint⟩ :=
    List.nodup_append'.1 (inv.marked.nodup_iff.1 inv.distinct)
  exact {
    places := fun n mem => coherent.isSome_of_reachable here (inv.reached n mem)
    marked := fun n => inv.marked.mem_iff.trans List.mem_append
    disjoint := disjoint
    stackDistinct := stackDistinct
    finishedDistinct := finishedDistinct
    bottom := by
      rw [List.head?_reverse]
      exact inv.path.node_of_mem_getLast?
    path := by
      rw [List.isChain_reverse]
      refine inv.path.isChain.imp ?_
      rintro upper lower ⟨k, last, edge⟩
      exact ⟨k, last, getElem?_targets_iff.1 edge⟩
    followed := fun f mem k less n edge =>
      inv.followed f mem k less n (getElem?_targets_iff.2 edge)
    closed := fun a mem n edge => inv.closed a mem n (mem_targets_iff.2 edge) }

/-- What places cost is the number of edges of the nodes there, and one more for each node. -/
theorem exists_cost_eq_sum (coherent : g.Coherent) {refs : List NodeRef} (distinct : refs.Nodup)
    (known : ∀ n ∈ refs, (g.node? n).isSome) :
    ∃ nodes : Finset Node, (∀ node, node ∈ nodes ↔ ∃ n ∈ refs, g.node? n = some node) ∧
      DepthFirst.cost g.targets refs =
        ∑ node ∈ nodes, (node.succs.length + node.exceptional.length + 1) := by
  induction refs with
  | nil => exact ⟨∅, by simp, rfl⟩
  | cons n rest ih =>
    obtain ⟨absent, distinct⟩ := List.nodup_cons.1 distinct
    obtain ⟨first, known⟩ := List.forall_mem_cons.1 known
    obtain ⟨node, found⟩ := Option.isSome_iff_exists.1 first
    obtain ⟨nodes, members, total⟩ := ih distinct known
    have fresh : node ∉ nodes := by
      intro mem
      obtain ⟨n', mem', found'⟩ := (members node).1 mem
      -- A node knows its place, so that it is at no other one.
      have same : n' = n := (coherent.nodeRef found').symm.trans (coherent.nodeRef found)
      exact absent (same ▸ mem')
    refine ⟨.cons node nodes fresh, fun a => ?_, ?_⟩
    · rw [Finset.mem_cons, members]
      simp [found, eq_comm]
    · have edges : (g.targets n).length = node.succs.length + node.exceptional.length := by
        rw [targets, found]
        exact List.length_append
      rw [Finset.sum_cons, ← total, ← edges]
      rfl

/-- A step is left as long as fewer steps were taken than the order costs. -/
theorem step_run_eq_none_iff (coherent : g.Coherent) (here : (g.node? m).isSome) {steps : Nat} :
    (DepthFirst.run g.targets steps (.start m)).step g.targets = none ↔
      DepthFirst.cost g.targets (g.orderFrom m) ≤ steps := by
  rw [DepthFirst.step_eq_none_iff]
  exact DepthFirst.stack_run_eq_nil_iff (g.nodup_orderFrom m) fun _ =>
    (coherent.mem_orderFrom_iff here).trans reachable_iff.symm

/-- The bound of walks may be greater than that, but the last state is the same. -/
theorem orderFrom_eq (coherent : g.Coherent) (here : (g.node? m).isSome) : g.orderFrom m =
    (DepthFirst.run g.targets (DepthFirst.cost g.targets (g.orderFrom m)) (.start m)).finished := by
  have stopped := DepthFirst.step_eq_none_iff.1
    ((coherent.step_run_eq_none_iff here).2 (Nat.le_refl _))
  have same := DepthFirst.run_eq_of_stack_eq_nil (coherent.stack_walk_eq_nil here) stopped
  exact congrArg DepthFirst.finished same

end Coherent
end FlowGraph

/-- The walk of a procedure keeps to the invariant through all its steps. It takes as many of
them as the nodes that control can reach have edges, normal and exceptional ones, and one more
for each of these nodes. Then no step is left, and the nodes are finished in the order that is
given. -/
theorem reversePostorder_steps {o : Options} {v : Json} {g : FlowGraph}
    (accepted : (Reading.flowGraph v).answer o = .ok g) {r : ProcRef} {p : Procedure}
    (found : g.procedure? r = some p) :
    ∃ (reached : Finset Node) (total : Nat),
      (∀ n, g.Underway p.start (DepthFirst.run g.targets n (.start p.start))) ∧
      (∀ node, node ∈ reached ↔
        ∃ n, g.node? n = some node ∧ Relation.ReflTransGen g.Edge p.start n) ∧
      total = ∑ node ∈ reached, (node.succs.length + node.exceptional.length + 1) ∧
      (∀ n, (DepthFirst.run g.targets n (.start p.start)).step g.targets = none ↔ total ≤ n) ∧
      g.reversePostorder? r = some (DepthFirst.run g.targets total (.start p.start)).finished := by
  have coherent := FlowGraph.coherent_of_accepted accepted
  have here := coherent.start found
  have known : ∀ n ∈ g.orderFrom p.start, (g.node? n).isSome := fun n mem =>
    coherent.isSome_of_reachable here
      (FlowGraph.reachable_iff.2 ((coherent.mem_orderFrom_iff here).1 mem))
  obtain ⟨reached, members, total⟩ :=
    coherent.exists_cost_eq_sum (g.nodup_orderFrom p.start) known
  refine ⟨reached, _, fun n => ?_, fun node => ?_, total,
    fun n => coherent.step_run_eq_none_iff here, ?_⟩
  · exact coherent.underway here (DepthFirst.Invariant.run g.targets p.start n)
  · simp only [members, coherent.mem_orderFrom_iff here, and_comm]
  · rw [FlowGraph.reversePostorder?_eq found]
    exact congrArg some (coherent.orderFrom_eq here)

/-- Three nodes and five edges make eight steps. Of the edges two lead back, one is there twice,
and an exceptional one leads into another procedure. -/
theorem reversePostorder_eight_steps : ∃ (g : FlowGraph) (p : Procedure) (reached : Finset Node),
    (Reading.flowGraph Sample.document).answer .default = .ok g ∧ g.procedure? ⟨1⟩ = some p ∧
      (∀ node, node ∈ reached ↔
        ∃ n, g.node? n = some node ∧ Relation.ReflTransGen g.Edge p.start n) ∧
      ∑ node ∈ reached, (node.succs.length + node.exceptional.length + 1) = 8 ∧
      (∀ n, g.Underway p.start (DepthFirst.run g.targets n (.start p.start))) ∧
      g.reversePostorder? ⟨1⟩ =
        some (DepthFirst.run g.targets 8 (.start p.start)).finished := by
  obtain ⟨g, accepted, computed⟩ := exists_ok_of_map_toOption
    (x := (Reading.flowGraph Sample.document).answer .default)
    (fun g => (g.procedure? ⟨1⟩).map fun p => [7, 8].map fun n =>
      ((DepthFirst.run g.targets n (.start p.start)).step g.targets).isNone)
    (some [false, true]) (by decide +kernel)
  obtain ⟨p, found, steps⟩ := Option.map_eq_some_iff.1 computed
  obtain ⟨reached, total, underway, members, sum, left, order⟩ :=
    reversePostorder_steps accepted found
  simp only [List.map_cons, List.map_nil, List.cons.injEq, Option.isNone_eq_false_iff,
    Option.isSome_iff_ne_none, Option.isNone_iff_eq_none, ne_eq, left] at steps
  obtain rfl : total = 8 := by omega
  exact ⟨g, p, reached, accepted, found, members, sum.symm, underway, order⟩

end ProgramModel
