import ProgramModel.Proofs.FlowGraph.Reachability
import ProgramModel.Proofs.Traversal.Recursive

/-!
The order of a walk by recursion. A walk is made with a stack; the recursive search that
marks a node, visits its normal and then its exceptional successors and lists the node after
them makes the same order. Main statement: `reversePostorder_recursive`.
-/

namespace ProgramModel

open Traversal

/-- The recursive search of a walk makes the order of the walk, if calls may be nested as deep
as the graph has nodes. -/
theorem FlowGraph.Coherent.postorder?_eq {g : FlowGraph} {m : NodeRef} (coherent : g.Coherent)
    (here : (g.node? m).isSome) {depth : Nat} (enough : g.nodes.size ≤ depth) :
    Search.postorder? g.targets depth m = some (g.orderFrom m).reverse := by
  have covers : ∀ n, Reachable g.targets m n → n ∈ (g.nodes.toList.map (·.ref)).toFinset :=
    fun n reachable => List.mem_toFinset.2 (coherent.mem_refs_of_reachable here reachable)
  have few : (g.nodes.toList.map (·.ref)).toFinset.card ≤ g.nodes.size := by
    simpa using List.toFinset_card_le (g.nodes.toList.map (·.ref))
  exact Traversal.postorder?_eq covers (few.trans enough) (coherent.stack_walk_eq_nil here)

/-- The reverse postorder of a procedure is the postorder of the recursive search from its
start node, backwards. The search needs no more depth than the graph has nodes. -/
theorem reversePostorder_recursive {o : Options} {v : Json} {g : FlowGraph}
    (accepted : (Reading.flowGraph v).answer o = .ok g) {r : ProcRef} {p : Procedure}
    (found : g.procedure? r = some p) :
    ∃ postorder, g.reversePostorder? r = some postorder.reverse ∧
      ∀ depth, g.nodes.size ≤ depth →
        Search.postorder? g.targets depth p.start = some postorder := by
  have coherent := FlowGraph.coherent_of_accepted accepted
  refine ⟨(g.orderFrom p.start).reverse, ?_, fun depth enough =>
    coherent.postorder?_eq (coherent.start found) enough⟩
  rw [FlowGraph.reversePostorder?, found, Option.map_some, List.reverse_reverse]

/-- The walk of the small document, with two loops and an edge that is there twice. -/
theorem exists_recursive_postorder : ∃ (g : FlowGraph) (p : Procedure)
    (postorder : List NodeRef), (Reading.flowGraph Sample.document).answer .default = .ok g ∧
      g.procedure? ⟨1⟩ = some p ∧
      (g.nodesAt? postorder.reverse).map (fun nodes => nodes.map (·.id.val)) =
        some [-3, 9, 4] ∧
      Search.postorder? g.targets g.nodes.size p.start = some postorder := by
  obtain ⟨g, accepted, walked⟩ := Sample.exists_flowGraph
  cases found : g.procedure? ⟨1⟩ with
  | none => simp [Sample.order, FlowGraph.reversePostorder?, found] at walked
  | some p =>
    obtain ⟨postorder, given, recursive⟩ := reversePostorder_recursive accepted found
    refine ⟨g, p, postorder, accepted, found, ?_, recursive _ (Nat.le_refl _)⟩
    simpa [Sample.order, given, Option.map_eq_bind] using walked

end ProgramModel
