import ProgramModel.Proofs.FlowGraph.Reachability
import ProgramModel.Proofs.Traversal.FinishOrder

/-!
The order of a walk and the edges of the graph. An edge leads forward in the order unless
it closes a cycle, and each node but the first is entered along an edge that leads
forward. Main statement: `reversePostorder_ordered`.
-/

namespace ProgramModel

open Traversal

/-- A list of the elements of some kind, each once, in which all edges lead forward. -/
structure IsTopologicalOrder {α : Type} [DecidableEq α] (edge : α → α → Prop)
    (within : α → Prop) (order : List α) : Prop where
  distinct : order.Nodup
  members : ∀ a, a ∈ order ↔ within a
  forward : ∀ a b, within a → edge a b → order.idxOf a < order.idxOf b

namespace FlowGraph

variable {g : FlowGraph}

/-- No walk from a place comes to a node twice. -/
def AcyclicFrom (g : FlowGraph) (m : NodeRef) : Prop :=
  ∀ n, Relation.ReflTransGen g.Edge m n → ¬ Relation.TransGen g.Edge n n

/-- Edges that all lead to later places make no cycle. -/
theorem acyclicFrom_of_ascending (ascending : ∀ a b, g.Edge a b → a.index < b.index)
    (m : NodeRef) : g.AcyclicFrom m := by
  intro n _ cycle
  have less : Relation.TransGen (· < ·) n.index n.index := cycle.lift NodeRef.index ascending
  rw [Relation.transGen_eq_self] at less
  exact Nat.lt_irrefl _ less

namespace Coherent

variable {m : NodeRef}

/-- The walk from a node ends with all seen nodes arranged and none open. -/
theorem arranged_walk (coherent : g.Coherent) (here : (g.node? m).isSome) :
    ∃ visited, DepthFirst.Arranged g.targets m ⟨visited, [], g.orderFrom m⟩ := by
  obtain ⟨steps, visited, stopped⟩ := coherent.exists_run_eq here
  exact ⟨visited, stopped ▸ DepthFirst.Arranged.run g.targets m steps⟩

/-- An edge of a node in the order leads to one that comes later, or back in a cycle. -/
theorem idxOf_lt_or_reachable (coherent : g.Coherent) (here : (g.node? m).isSome)
    {a b : NodeRef} (mem : a ∈ g.orderFrom m) (edge : g.Edge a b) :
    (g.orderFrom m).idxOf a < (g.orderFrom m).idxOf b ∨ Relation.ReflTransGen g.Edge b a := by
  obtain ⟨_, arranged⟩ := coherent.arranged_walk here
  rcases arranged.edges a mem b (mem_targets_iff.2 edge) with before | back
  · exact .inl (before.idxOf_lt (g.nodup_orderFrom m))
  · exact .inr (reachable_iff.1 back)

/-- Each node in the order but the first has an edge from one that comes before it. -/
theorem exists_edge_idxOf_lt (coherent : g.Coherent) (here : (g.node? m).isSome) {b : NodeRef}
    (mem : b ∈ g.orderFrom m) (other : b ≠ m) :
    ∃ a ∈ g.orderFrom m, g.Edge a b ∧ (g.orderFrom m).idxOf a < (g.orderFrom m).idxOf b := by
  obtain ⟨_, arranged⟩ := coherent.arranged_walk here
  obtain ⟨a, target, active | before⟩ := arranged.entered b mem other
  · cases active
  · exact ⟨a, before.left_mem, mem_targets_iff.1 target, before.idxOf_lt (g.nodup_orderFrom m)⟩

/-- If there is no cycle ahead of a node, the order of the walk is topological. -/
theorem isTopologicalOrder_orderFrom (coherent : g.Coherent) (here : (g.node? m).isSome)
    (acyclic : g.AcyclicFrom m) :
    IsTopologicalOrder g.Edge (Relation.ReflTransGen g.Edge m) (g.orderFrom m) where
  distinct := g.nodup_orderFrom m
  members _ := coherent.mem_orderFrom_iff here
  forward a b reached edge := by
    have mem : a ∈ g.orderFrom m := (coherent.mem_orderFrom_iff here).2 reached
    rcases coherent.idxOf_lt_or_reachable here mem edge with before | back
    · exact before
    · exact absurd (Relation.TransGen.head' edge back) (acyclic a reached)

end Coherent
end FlowGraph

/-- In the reverse postorder of a procedure an edge leads to a later node, or its target
leads back to its source. Without cycles the order is topological. Each node but the start
node has an edge from an earlier one. -/
theorem reversePostorder_ordered {o : Options} {v : Json} {g : FlowGraph}
    (accepted : (Reading.flowGraph v).answer o = .ok g) {r : ProcRef} {p : Procedure}
    (found : g.procedure? r = some p) :
    ∃ order, g.reversePostorder? r = some order ∧ order.Nodup ∧
      (∀ a ∈ order, ∀ b, g.Edge a b →
        b ∈ order ∧
          (order.idxOf a < order.idxOf b ∨ Relation.ReflTransGen g.Edge b a)) ∧
      (g.AcyclicFrom p.start →
        IsTopologicalOrder g.Edge (Relation.ReflTransGen g.Edge p.start) order) ∧
      ∀ b ∈ order, b ≠ p.start →
        ∃ a ∈ order, g.Edge a b ∧ order.idxOf a < order.idxOf b := by
  have coherent := FlowGraph.coherent_of_accepted accepted
  have here := coherent.start found
  have order : g.reversePostorder? r = some (g.orderFrom p.start) := by
    rw [FlowGraph.reversePostorder?, found]
    rfl
  refine ⟨g.orderFrom p.start, order, g.nodup_orderFrom p.start, ?_, ?_, ?_⟩
  · intro a mem b edge
    have reached := (coherent.mem_orderFrom_iff here).1 mem
    exact ⟨(coherent.mem_orderFrom_iff here).2 (reached.tail edge),
      coherent.idxOf_lt_or_reachable here mem edge⟩
  · exact coherent.isTopologicalOrder_orderFrom here
  · intro b mem other
    exact coherent.exists_edge_idxOf_lt here mem other

/-! ### A branch -/

namespace Sample

/-- Two ways lead from the start to the exit, and an exception leads there directly. -/
def branch : Json := .obj [("procs", .arr [procedure 0 1 4]),
  ("nodes", .arr [node 4 0 [] [2, 3] [], node 1 0 [2, 3] [] [4], node 2 0 [4] [1] [],
    node 3 0 [4, 4] [1] []])]

/-- All edges of a graph lead to later places. -/
def ascends (g : FlowGraph) : Bool :=
  g.nodes.toList.all fun n => n.targets.all fun m => n.ref.index < m.index

/-- The sample is accepted, and no cycle is ahead of the start of its procedure. -/
theorem exists_branch : ∃ g p, (Reading.flowGraph branch).answer .default = .ok g ∧
    g.procedure? ⟨0⟩ = some p ∧ g.AcyclicFrom p.start := by
  have computed : ((Reading.flowGraph branch).answer .default).toOption.any (fun g =>
      (g.procedure? ⟨0⟩).isSome && ascends g) = true := by
    decide +kernel
  cases read : (Reading.flowGraph branch).answer .default with
  | error fault => simp [read, Except.toOption] at computed
  | ok g =>
    simp only [read, Except.toOption, Option.any_some, Bool.and_eq_true] at computed
    obtain ⟨p, found⟩ := Option.isSome_iff_exists.1 computed.1
    refine ⟨g, p, rfl, found, FlowGraph.acyclicFrom_of_ascending ?_ p.start⟩
    intro a b edge
    obtain ⟨n, here, target⟩ := edge
    have places := (FlowGraph.coherent_of_accepted read).nodeRef here
    have later := List.all_eq_true.1 computed.2 n (FlowGraph.mem_nodes_iff.2 ⟨a, here⟩)
    have mem : b ∈ n.targets := List.mem_append.2 target
    simpa [places] using List.all_eq_true.1 later b mem

end Sample

/-- The order of the sample is a topological one. -/
theorem exists_topological_reversePostorder : ∃ (g : FlowGraph) (p : Procedure)
    (order : List NodeRef), (Reading.flowGraph Sample.branch).answer .default = .ok g ∧
      g.procedure? ⟨0⟩ = some p ∧ g.reversePostorder? ⟨0⟩ = some order ∧
      IsTopologicalOrder g.Edge (Relation.ReflTransGen g.Edge p.start) order := by
  obtain ⟨g, p, accepted, found, acyclic⟩ := Sample.exists_branch
  obtain ⟨order, given, _, _, topological, _⟩ := reversePostorder_ordered accepted found
  exact ⟨g, p, order, accepted, found, given, topological acyclic⟩

end ProgramModel
