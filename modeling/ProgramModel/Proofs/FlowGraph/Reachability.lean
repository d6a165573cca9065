import ProgramModel.Proofs.FlowGraph.Coherence

/-!
Walks through coherent graphs. A walk comes to an end within its bound, and it has then
finished each node that control can reach from where it began. Main statement:
`reversePostorder_reachable`.
-/

namespace ProgramModel

open Traversal

namespace FlowGraph

variable {g : FlowGraph}

/-- Control may go from one place to another, normally or by an exception. -/
def Edge (g : FlowGraph) (m n : NodeRef) : Prop :=
  ∃ node, g.node? m = some node ∧ (n ∈ node.succs ∨ n ∈ node.exceptional)

/-- A walk goes along the edges of the graph. -/
theorem mem_targets_iff {m n : NodeRef} : n ∈ g.targets m ↔ g.Edge m n := by
  unfold targets Edge
  cases g.node? m with
  | none => simp
  | some node => simp [Node.targets]

/-- What a walk can reach is what the edges lead to. -/
theorem reachable_iff {m n : NodeRef} :
    Reachable g.targets m n ↔ Relation.ReflTransGen g.Edge m n := by
  have same : (fun a b => b ∈ g.targets a) = g.Edge := by
    funext a b
    exact propext mem_targets_iff
  rw [Reachable, same]

namespace Coherent

/-- The bound of walks is enough for all nodes of the graph together. -/
theorem cost_le_walkBound (coherent : g.Coherent) :
    DepthFirst.cost g.targets (g.nodes.toList.map (·.ref)) ≤ g.walkBound := by
  have each : g.nodes.toList.map (fun n => (g.targets n.ref).length + 1) =
      g.nodes.toList.map fun n => n.targets.length + 1 := by
    refine List.map_congr_left fun n mem => ?_
    obtain ⟨r, here⟩ := mem_nodes_iff.1 mem
    rw [targets, coherent.nodeRef here, here]
  have total : DepthFirst.cost g.targets (g.nodes.toList.map (·.ref)) + 1 = g.walkBound := by
    rw [DepthFirst.cost, List.map_map, walkBound]
    exact congrArg (· + 1) ((congrArg List.sum each).trans List.foldr_map)
  omega

/-- What a walk reaches is among the places of the graph. -/
theorem mem_refs_of_reachable (coherent : g.Coherent) {m n : NodeRef} (here : (g.node? m).isSome)
    (reachable : Reachable g.targets m n) : n ∈ g.nodes.toList.map (·.ref) := by
  obtain ⟨node, found⟩ := Option.isSome_iff_exists.1 (coherent.isSome_of_reachable here reachable)
  exact List.mem_map.2 ⟨node, mem_nodes_iff.2 ⟨n, found⟩, coherent.nodeRef found⟩

/-- The steps that are given to a walk are enough for it to end. -/
theorem stack_walk_eq_nil (coherent : g.Coherent) {m : NodeRef} (here : (g.node? m).isSome) :
    (DepthFirst.run g.targets g.walkBound (.start m)).stack = [] :=
  DepthFirst.stack_run_eq_nil (fun _ => coherent.mem_refs_of_reachable here)
    coherent.cost_le_walkBound

/-- The loop that makes an order runs until no step is left. -/
theorem exists_run_eq (coherent : g.Coherent) {m : NodeRef} (here : (g.node? m).isSome) :
    ∃ steps visited, DepthFirst.run g.targets steps (.start m) = ⟨visited, [], g.orderFrom m⟩ := by
  refine ⟨g.walkBound, (DepthFirst.run g.targets g.walkBound (.start m)).visited, ?_⟩
  rw [← coherent.stack_walk_eq_nil here]
  rfl

/-- The order has the nodes that can be reached, and no others. -/
theorem mem_orderFrom_iff (coherent : g.Coherent) {m n : NodeRef} (here : (g.node? m).isSome) :
    n ∈ g.orderFrom m ↔ Relation.ReflTransGen g.Edge m n := by
  rw [← reachable_iff]
  exact (DepthFirst.Invariant.run g.targets m g.walkBound).mem_finished_iff
    (coherent.stack_walk_eq_nil here) n

/-- The first node of the order is the one that the walk starts from. -/
theorem head?_orderFrom (coherent : g.Coherent) {m : NodeRef} (here : (g.node? m).isSome) :
    (g.orderFrom m).head? = some m :=
  (DepthFirst.Invariant.run g.targets m g.walkBound).last (coherent.stack_walk_eq_nil here)

end Coherent

/-- The reverse postorder of a procedure is the order of the walk from its start. -/
theorem reversePostorder?_eq {r : ProcRef} {p : Procedure} (found : g.procedure? r = some p) :
    g.reversePostorder? r = some (g.orderFrom p.start) := by
  rw [reversePostorder?, found]
  rfl

/-- The order has no node twice, also in a graph that is not coherent. -/
theorem nodup_orderFrom (g : FlowGraph) (m : NodeRef) : (g.orderFrom m).Nodup := by
  have inv := DepthFirst.Invariant.run g.targets m g.walkBound
  exact (List.nodup_append.1 (inv.marked.nodup_iff.1 inv.distinct)).2.1

end FlowGraph

/-- The reverse postorder of a procedure is where its walk stops when no step is left. It
begins with the start node and has each node that control reaches from there, and no
others, once. -/
theorem reversePostorder_reachable {o : Options} {v : Json} {g : FlowGraph}
    (accepted : (Reading.flowGraph v).answer o = .ok g) {r : ProcRef} {p : Procedure}
    (found : g.procedure? r = some p) :
    ∃ order, g.reversePostorder? r = some order ∧
      (∃ steps visited, DepthFirst.run g.targets steps (.start p.start) = ⟨visited, [], order⟩) ∧
      order.head? = some p.start ∧ order.Nodup ∧
      ∀ n, n ∈ order ↔ Relation.ReflTransGen g.Edge p.start n := by
  have coherent := FlowGraph.coherent_of_accepted accepted
  have here := coherent.start found
  have order : g.reversePostorder? r = some (g.orderFrom p.start) := by
    rw [FlowGraph.reversePostorder?, found]
    rfl
  exact ⟨g.orderFrom p.start, order, coherent.exists_run_eq here, coherent.head?_orderFrom here,
    g.nodup_orderFrom p.start, fun n => coherent.mem_orderFrom_iff here⟩

/-- The order of a procedure of the sample has its start in front and is made of the reachable
nodes. -/
theorem exists_reversePostorder : ∃ (g : FlowGraph) (p : Procedure) (order : List NodeRef),
    (Reading.flowGraph Sample.document).answer .default = .ok g ∧
      g.procedure? ⟨1⟩ = some p ∧ g.reversePostorder? ⟨1⟩ = some order ∧
      order.head? = some p.start ∧ ∀ n, n ∈ order ↔ Relation.ReflTransGen g.Edge p.start n := by
  obtain ⟨g, accepted, walked⟩ := Sample.exists_flowGraph
  cases found : g.procedure? ⟨1⟩ with
  | none => simp [Sample.order, FlowGraph.reversePostorder?, found] at walked
  | some p =>
    obtain ⟨order, given, _, first, _, members⟩ := reversePostorder_reachable accepted found
    exact ⟨g, p, order, accepted, found, given, first, members⟩

end ProgramModel
