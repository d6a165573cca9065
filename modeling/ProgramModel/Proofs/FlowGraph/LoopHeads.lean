import Mathlib.Data.List.Cycle
import ProgramModel.Proofs.FlowGraph.Ordering

/-!
Loop heads and cycles. Whether a node is a loop head is said by the predecessors that it
declares and by the order of its procedure, which follows normal and exceptional edges.
Main statements: with real predecessors a loop head lies on a cycle (`cycle_of_isLoopHead`);
with all normal edges declared, each cycle of them has a loop head (`exists_isLoopHead`); and
with just the normal edges declared, an edge that leads back makes a loop head exactly when
it is normal (`isLoopHead_iff_normalBackEdge`).
-/

namespace ProgramModel

open Traversal

/-- The edges of a cycle lie between its members. -/
theorem chain_mem {α : Type} {edge : α → α → Prop} {cycle : Cycle α} (edges : cycle.Chain edge) :
    cycle.Chain fun a b => a ∈ cycle ∧ b ∈ cycle ∧ edge a b := by
  induction cycle using Cycle.induction_on with
  | nil => exact Cycle.Chain.nil _
  | cons a rest _ =>
    rw [Cycle.chain_coe_cons] at edges ⊢
    refine edges.imp_of_mem_imp fun b c bMem cMem edge => ⟨?_, ?_, edge⟩
    · simpa [or_assoc, or_comm] using bMem
    · simpa [or_assoc, or_comm] using cMem

/-- A relation that leads from nothing back to itself has no cycle. -/
theorem eq_nil_of_chain {α : Type} {edge : α → α → Prop} {cycle : Cycle α}
    (edges : cycle.Chain edge) (acyclic : ∀ a, ¬ Relation.TransGen edge a a) : cycle = .nil := by
  have : Std.Irrefl (Relation.TransGen edge) := ⟨acyclic⟩
  exact Cycle.Chain.eq_nil_of_irrefl (edges.imp fun _ _ => Relation.TransGen.single)

namespace FlowGraph

variable {g : FlowGraph} {r : ProcRef} {p : Procedure} {m n : NodeRef}

/-! ### Edges and declared predecessors -/

/-- Control may go from one place to another without an exception. -/
def NormalEdge (g : FlowGraph) (m n : NodeRef) : Prop :=
  ∃ node, g.node? m = some node ∧ n ∈ node.succs

/-- The node at the second place has the first one among its predecessors. -/
def Declared (g : FlowGraph) (m n : NodeRef) : Prop :=
  ∃ node, g.node? n = some node ∧ m ∈ node.preds

/-- The predecessors that nodes declare are the sources of their normal edges. -/
def Mirrored (g : FlowGraph) : Prop := ∀ m n, g.Declared m n ↔ g.NormalEdge m n

def OwnedBy (g : FlowGraph) (r : ProcRef) (n : NodeRef) : Prop :=
  ∃ node, g.node? n = some node ∧ node.owner = r

/-- Edges to successors are followed by walks. -/
theorem NormalEdge.edge (normal : g.NormalEdge m n) : g.Edge m n := by
  obtain ⟨node, here, succ⟩ := normal
  exact ⟨node, here, .inl succ⟩

theorem any_succs_iff : (g.node? m).any (n ∈ ·.succs) = true ↔ g.NormalEdge m n := by
  simp [NormalEdge, Option.any_eq_true]

theorem any_preds_iff : (g.node? n).any (m ∈ ·.preds) = true ↔ g.Declared m n := by
  simp [Declared, Option.any_eq_true]

theorem any_owner_iff : (g.node? n).any (·.owner = r) = true ↔ g.OwnedBy r n := by
  simp [OwnedBy, Option.any_eq_true]

instance : Decidable (g.Edge m n) := decidable_of_iff _ mem_targets_iff

instance : Decidable (g.NormalEdge m n) := decidable_of_iff _ any_succs_iff

instance : Decidable (g.Declared m n) := decidable_of_iff _ any_preds_iff

instance : Decidable (g.OwnedBy r n) := decidable_of_iff _ any_owner_iff

/-- It is enough to look at the lists of each node. -/
theorem forall_lists_iff : (∀ i (bound : i < g.nodes.size),
      (∀ m ∈ g.nodes[i].preds, g.NormalEdge m ⟨i⟩) ∧ ∀ n ∈ g.nodes[i].succs, g.Declared ⟨i⟩ n) ↔
    g.Mirrored := by
  constructor
  · intro lists m n
    constructor
    · rintro ⟨node, here, pred⟩
      obtain ⟨bound, rfl⟩ := Array.getElem?_eq_some_iff.1 here
      exact (lists n.index bound).1 m pred
    · rintro ⟨node, here, succ⟩
      obtain ⟨bound, rfl⟩ := Array.getElem?_eq_some_iff.1 here
      exact (lists m.index bound).2 n succ
  · intro mirrored i bound
    have here : g.node? ⟨i⟩ = some g.nodes[i] := Array.getElem?_eq_getElem bound
    exact ⟨fun m pred => (mirrored m ⟨i⟩).1 ⟨_, here, pred⟩,
      fun n succ => (mirrored ⟨i⟩ n).2 ⟨_, here, succ⟩⟩

instance : Decidable g.Mirrored := decidable_of_iff _ forall_lists_iff

/-! ### Loop heads by positions -/

/-- An order reaches back to a position when a declared predecessor stands there or later. -/
theorem reachesBack_iff {order preds : List NodeRef} {position : Nat} :
    reachesBack order position preds = true ↔
      ∃ m ∈ preds, m ∈ order ∧ position ≤ order.idxOf m := by
  simp only [reachesBack, List.any_eq_true]
  refine exists_congr fun m => and_congr_right fun _ => ?_
  by_cases mem : m ∈ order
  · simp [Roster.idxOf?_of_mem mem, mem]
  · simp [List.idxOf?_eq_none_iff.2 mem, mem]

/-- A loop head is in the order of its procedure, and so is a predecessor that does not come
before it there. -/
theorem isLoopHead?_eq_true_iff (found : g.procedure? r = some p) (owned : g.OwnedBy r n) :
    g.isLoopHead? n = some true ↔
      n ∈ g.orderFrom p.start ∧ ∃ m ∈ g.orderFrom p.start, g.Declared m n ∧
        (g.orderFrom p.start).idxOf n ≤ (g.orderFrom p.start).idxOf m := by
  obtain ⟨node, here, rfl⟩ := owned
  have declared : ∀ m, g.Declared m n ↔ m ∈ node.preds := fun m => by simp [Declared, here]
  simp only [declared, isLoopHead?, here, reversePostorder?_eq found, Option.bind_eq_bind,
    Option.bind_some]
  by_cases mem : n ∈ g.orderFrom p.start
  · simp [Roster.idxOf?_of_mem mem, mem, reachesBack_iff, and_left_comm]
  · simp [List.idxOf?_eq_none_iff.2 mem, mem]

/-! ### Edges between other nodes -/

/-- A node that a procedure owns and that control can reach from its start. -/
structure Inside (g : FlowGraph) (r : ProcRef) (p : Procedure) (n : NodeRef) : Prop where
  owned : g.OwnedBy r n
  reached : Relation.ReflTransGen g.Edge p.start n

/-- A normal edge inside a procedure that neither leaves nor enters a loop head. -/
structure UncutEdge (g : FlowGraph) (r : ProcRef) (p : Procedure) (m n : NodeRef) : Prop where
  normal : g.NormalEdge m n
  source : g.Inside r p m ∧ g.isLoopHead? m ≠ some true
  target : g.Inside r p n ∧ g.isLoopHead? n ≠ some true

namespace Coherent

/-- An edge that leads back would be declared by its target, which would be a loop head. -/
theorem idxOf_lt_of_uncutEdge (coherent : g.Coherent)
    (declared : ∀ m n, g.NormalEdge m n → g.Declared m n) (found : g.procedure? r = some p)
    (uncut : g.UncutEdge r p m n) :
    (g.orderFrom p.start).idxOf m < (g.orderFrom p.start).idxOf n := by
  have here := coherent.start found
  have mMem : m ∈ g.orderFrom p.start :=
    (coherent.mem_orderFrom_iff here).2 uncut.source.1.reached
  have nMem : n ∈ g.orderFrom p.start :=
    (coherent.mem_orderFrom_iff here).2 uncut.target.1.reached
  by_contra back
  exact uncut.target.2 ((isLoopHead?_eq_true_iff found uncut.target.1.owned).2
    ⟨nMem, m, mMem, declared m n uncut.normal, Nat.le_of_not_lt back⟩)

/-- No cycle of uncut edges. Along each of them the position in reverse postorder grows. -/
theorem acyclic_uncutEdge (coherent : g.Coherent)
    (declared : ∀ m n, g.NormalEdge m n → g.Declared m n) (found : g.procedure? r = some p)
    (n : NodeRef) : ¬ Relation.TransGen (g.UncutEdge r p) n n := by
  intro cycle
  have less : Relation.TransGen (· < ·) ((g.orderFrom p.start).idxOf n)
      ((g.orderFrom p.start).idxOf n) :=
    cycle.lift (g.orderFrom p.start).idxOf fun _ _ uncut =>
      coherent.idxOf_lt_of_uncutEdge declared found uncut
  rw [Relation.transGen_eq_self] at less
  exact Nat.lt_irrefl _ less

end Coherent

end FlowGraph

/-! ### A loop in a loop that an exception closes -/

namespace Sample

def guarded : Json := .obj [("procs", .arr [procedure 0 1 4]),
  ("nodes", .arr [node 1 0 [2] [] [], node 2 0 [3, 4] [1, 3] [], node 3 0 [2] [2] [1],
    node 4 0 [] [2] []])]

/-- In the sample the head of the inner loop is a loop head, and the target of the exceptional
edge is none. -/
theorem exists_guarded : ∃ g p, (Reading.flowGraph guarded).answer .default = .ok g ∧
    g.procedure? ⟨0⟩ = some p ∧ p.start = ⟨0⟩ ∧ g.Mirrored ∧
    (g.NormalEdge ⟨0⟩ ⟨1⟩ ∧ g.NormalEdge ⟨1⟩ ⟨2⟩ ∧ g.NormalEdge ⟨2⟩ ⟨1⟩ ∧ g.Edge ⟨2⟩ ⟨0⟩) ∧
    (g.OwnedBy ⟨0⟩ ⟨0⟩ ∧ g.OwnedBy ⟨0⟩ ⟨1⟩ ∧ g.OwnedBy ⟨0⟩ ⟨2⟩) ∧
    g.reversePostorder? ⟨0⟩ = some [⟨0⟩, ⟨1⟩, ⟨3⟩, ⟨2⟩] ∧
    g.isLoopHead? ⟨0⟩ = some false ∧ g.isLoopHead? ⟨1⟩ = some true := by
  obtain ⟨g, accepted, computed⟩ := exists_ok_of_map_toOption
    (x := (Reading.flowGraph guarded).answer .default)
    (fun g => decide ((g.procedure? ⟨0⟩).map (·.start) = some ⟨0⟩ ∧ g.Mirrored ∧
      (g.NormalEdge ⟨0⟩ ⟨1⟩ ∧ g.NormalEdge ⟨1⟩ ⟨2⟩ ∧ g.NormalEdge ⟨2⟩ ⟨1⟩ ∧ g.Edge ⟨2⟩ ⟨0⟩) ∧
      (g.OwnedBy ⟨0⟩ ⟨0⟩ ∧ g.OwnedBy ⟨0⟩ ⟨1⟩ ∧ g.OwnedBy ⟨0⟩ ⟨2⟩) ∧
      g.reversePostorder? ⟨0⟩ = some [⟨0⟩, ⟨1⟩, ⟨3⟩, ⟨2⟩] ∧
      g.isLoopHead? ⟨0⟩ = some false ∧ g.isLoopHead? ⟨1⟩ = some true)) true (by decide +kernel)
  obtain ⟨begins, rest⟩ := of_decide_eq_true computed
  obtain ⟨p, found, start⟩ := Option.map_eq_some_iff.1 begins
  exact ⟨g, p, accepted, found, start, rest⟩

end Sample

/-! ### Loop heads and cycles -/

section Accepted

variable {o : Options} {v : Json} {g : FlowGraph}

/-- If all declared predecessors have an edge to their node, a loop head can be reached from
the start of its procedure and lies on a cycle. -/
theorem cycle_of_isLoopHead (accepted : (Reading.flowGraph v).answer o = .ok g)
    (real : ∀ m n, g.Declared m n → g.Edge m n) {n : NodeRef}
    (head : g.isLoopHead? n = some true) :
    ∃ node p, g.node? n = some node ∧ g.procedure? node.owner = some p ∧
      Relation.ReflTransGen g.Edge p.start n ∧ Relation.TransGen g.Edge n n := by
  have coherent := FlowGraph.coherent_of_accepted accepted
  cases there : g.node? n with
  | none => simp [FlowGraph.isLoopHead?, there] at head
  | some node =>
    obtain ⟨p, found⟩ := Option.isSome_iff_exists.1 (coherent.owner there)
    have here := coherent.start found
    obtain ⟨mem, m, mMem, declared, back⟩ :=
      (FlowGraph.isLoopHead?_eq_true_iff found ⟨node, there, rfl⟩).1 head
    have edge := real m n declared
    refine ⟨node, p, rfl, found, (coherent.mem_orderFrom_iff here).1 mem, ?_⟩
    rcases coherent.idxOf_lt_or_reachable here mMem edge with forward | returns
    · exact absurd forward (Nat.not_lt_of_le back)
    · exact Relation.TransGen.tail' returns edge

/-- The sample has a loop head, and there is a cycle through it. -/
theorem exists_cycle_of_isLoopHead : ∃ g n,
    (Reading.flowGraph Sample.guarded).answer .default = .ok g ∧
      (∀ a b, g.Declared a b → g.Edge a b) ∧ g.isLoopHead? n = some true ∧
      Relation.TransGen g.Edge n n := by
  obtain ⟨g, _, accepted, _, _, mirrored, _, _, _, _, head⟩ := Sample.exists_guarded
  have real : ∀ a b, g.Declared a b → g.Edge a b := fun a b declared =>
    ((mirrored a b).1 declared).edge
  obtain ⟨_, _, _, _, _, cycle⟩ := cycle_of_isLoopHead accepted real head
  exact ⟨g, ⟨1⟩, accepted, real, head, cycle⟩

/-- If all normal edges are declared, each cycle of normal edges inside a procedure has a loop
head, and without the loop heads there is no cycle. -/
theorem exists_isLoopHead (accepted : (Reading.flowGraph v).answer o = .ok g)
    (declared : ∀ m n, g.NormalEdge m n → g.Declared m n) {r : ProcRef} {p : Procedure}
    (found : g.procedure? r = some p) :
    (∀ cycle : Cycle NodeRef, cycle ≠ .nil → cycle.Chain g.NormalEdge →
      (∀ n ∈ cycle, g.Inside r p n) → ∃ n ∈ cycle, g.isLoopHead? n = some true) ∧
    ∀ n, ¬ Relation.TransGen (g.UncutEdge r p) n n := by
  have coherent := FlowGraph.coherent_of_accepted accepted
  have acyclic := coherent.acyclic_uncutEdge declared found
  refine ⟨fun cycle nonempty edges inside => ?_, acyclic⟩
  by_contra headless
  have uncut : cycle.Chain (g.UncutEdge r p) := (chain_mem edges).imp fun a b edge =>
    ⟨edge.2.2, ⟨inside a edge.1, fun head => headless ⟨a, edge.1, head⟩⟩,
      ⟨inside b edge.2.1, fun head => headless ⟨b, edge.2.1, head⟩⟩⟩
  exact nonempty (eq_nil_of_chain uncut acyclic)

/-- The sample has a cycle of two normal edges, and one of its nodes is a loop head. -/
theorem exists_isLoopHead_two : ∃ g p,
    (Reading.flowGraph Sample.guarded).answer .default = .ok g ∧
      (∀ a b, g.NormalEdge a b → g.Declared a b) ∧ g.procedure? ⟨0⟩ = some p ∧
      Cycle.Chain g.NormalEdge ([⟨1⟩, ⟨2⟩] : List NodeRef) ∧
      ∃ n ∈ ([⟨1⟩, ⟨2⟩] : List NodeRef), g.isLoopHead? n = some true := by
  obtain ⟨g, p, accepted, found, start, mirrored, links, ⟨_, owned, owned'⟩, _⟩ :=
    Sample.exists_guarded
  obtain ⟨first, there, back, _⟩ := links
  have declared : ∀ a b, g.NormalEdge a b → g.Declared a b := fun a b => (mirrored a b).2
  have edges : Cycle.Chain g.NormalEdge ([⟨1⟩, ⟨2⟩] : List NodeRef) := by
    simp [Cycle.chain_coe_cons, there, back]
  have reached : Relation.ReflTransGen g.Edge p.start ⟨1⟩ := start ▸ .single first.edge
  have inside : ∀ n ∈ (([⟨1⟩, ⟨2⟩] : List NodeRef) : Cycle NodeRef), g.Inside ⟨0⟩ p n := by
    intro n mem
    rcases List.mem_pair.1 (Cycle.mem_coe_iff.1 mem) with rfl | rfl
    · exact ⟨owned, reached⟩
    · exact ⟨owned', reached.tail there.edge⟩
  obtain ⟨n, mem, head⟩ :=
    (exists_isLoopHead accepted declared found).1 _ (by simp) edges inside
  exact ⟨g, p, accepted, declared, found, edges, n, Cycle.mem_coe_iff.1 mem, head⟩

/-- If the declared predecessors are the sources of the normal edges, a node is a loop head
exactly when a normal edge from a node in the order of its procedure does not lead forward to
it. Exceptional edges that lead back to it have no say. -/
theorem isLoopHead_iff_normalBackEdge (accepted : (Reading.flowGraph v).answer o = .ok g)
    (mirrored : g.Mirrored) {r : ProcRef} {p : Procedure} (found : g.procedure? r = some p) :
    ∃ order, g.reversePostorder? r = some order ∧ ∀ n, g.OwnedBy r n →
      (g.isLoopHead? n = some true ↔
        ∃ m ∈ order, g.NormalEdge m n ∧ order.idxOf n ≤ order.idxOf m) := by
  have coherent := FlowGraph.coherent_of_accepted accepted
  have here := coherent.start found
  refine ⟨g.orderFrom p.start, FlowGraph.reversePostorder?_eq found, fun n owned => ?_⟩
  rw [FlowGraph.isLoopHead?_eq_true_iff found owned]
  constructor
  · rintro ⟨_, m, mMem, declared, back⟩
    exact ⟨m, mMem, (mirrored m n).1 declared, back⟩
  · rintro ⟨m, mMem, normal, back⟩
    have reached := ((coherent.mem_orderFrom_iff here).1 mMem).tail normal.edge
    exact ⟨(coherent.mem_orderFrom_iff here).2 reached, m, mMem, (mirrored m n).2 normal, back⟩

/-- In the sample a normal edge leads back to the head of the inner loop. -/
theorem exists_normalBackEdge : ∃ g p order,
    (Reading.flowGraph Sample.guarded).answer .default = .ok g ∧ g.Mirrored ∧
      g.procedure? ⟨0⟩ = some p ∧ g.reversePostorder? ⟨0⟩ = some order ∧ g.OwnedBy ⟨0⟩ ⟨1⟩ ∧
      ∃ m ∈ order, g.NormalEdge m ⟨1⟩ ∧ order.idxOf ⟨1⟩ ≤ order.idxOf m := by
  obtain ⟨g, p, accepted, found, _, mirrored, _, ⟨_, owned, _⟩, _, _, head⟩ :=
    Sample.exists_guarded
  obtain ⟨order, given, heads⟩ := isLoopHead_iff_normalBackEdge accepted mirrored found
  exact ⟨g, p, order, accepted, mirrored, found, given, owned, (heads ⟨1⟩ owned).1 head⟩

/-- An exceptional edge that leads back in the order of its procedure, to a node of that
procedure which is no loop head. -/
theorem exists_exceptionalBackEdge : ∃ g p order m n,
    (Reading.flowGraph Sample.guarded).answer .default = .ok g ∧ g.Mirrored ∧
      g.procedure? ⟨0⟩ = some p ∧ g.reversePostorder? ⟨0⟩ = some order ∧ m ∈ order ∧
      g.OwnedBy ⟨0⟩ n ∧ g.Edge m n ∧ order.idxOf n ≤ order.idxOf m ∧
      g.isLoopHead? n = some false := by
  obtain ⟨g, p, accepted, found, _, mirrored, ⟨_, _, _, edge⟩, ⟨owned, _⟩, given, head, _⟩ :=
    Sample.exists_guarded
  exact ⟨g, p, _, ⟨2⟩, ⟨0⟩, accepted, mirrored, found, given, by decide, owned, edge, by decide,
    head⟩

end Accepted

end ProgramModel
