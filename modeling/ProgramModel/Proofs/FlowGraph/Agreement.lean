import ProgramModel.FlowGraph.Agreement
import ProgramModel.Proofs.FlowGraph.Reordering
import ProgramModel.Proofs.Wire.FloatConstants

/-!
Agreement of graphs. It is equality up to the signs of zeros among graphs without a NaN, and
so it is symmetric and transitive; a graph with a NaN agrees with nothing, not even with
itself. Main statement: a document and a reordered one are graphs that agree exactly when all
values given for float constants in instructions are finite (`agrees_reordered_iff`).
-/

namespace ProgramModel

open Constituent (Numeric)

/-! ### Agreement of nodes and graphs -/

/-- The body with all float constants of its instructions changed. -/
def NodeBody.mapFloats (f : Binary64 → Binary64) (b : NodeBody) : NodeBody :=
  { b with instrs := b.instrs.map (Instr.mapFloats f) }

def Node.mapFloats (f : Binary64 → Binary64) (n : Node) : Node :=
  { n with body := n.body.mapFloats f }

namespace FlowGraph

def mapFloats (f : Binary64 → Binary64) (g : FlowGraph) : FlowGraph :=
  { g with nodes := g.nodes.map (Node.mapFloats f) }

/-- A float constant in an instruction of the graph, however deep, is a NaN. -/
def HasNaN (g : FlowGraph) : Prop :=
  ∃ n ∈ g.nodes.toList, ∃ i ∈ n.body.instrs, ∃ x, .float x ∈ i.constituents ∧ x.isNaN = true

/-- A graph has no NaN when all instructions of its nodes are numeric. -/
theorem not_hasNaN_iff {g : FlowGraph} :
    ¬ g.HasNaN ↔ ∀ n ∈ g.nodes.toList, ∀ i ∈ n.body.instrs, Numeric i.constituents := by
  simp [HasNaN, Numeric]

end FlowGraph

/-- Bodies of nodes agree by their instructions, and what else they have is equal. -/
theorem NodeBody.compares : Compares agrees (mapFloats Binary64.withOneZero)
    fun b => ∀ i ∈ b.instrs, Numeric i.constituents := by
  intro b c
  have instrs := Instr.compares.isEqv b.instrs c.instrs
  obtain ⟨kind, location, _, temporaries, deadBefore, deadAfter⟩ := b
  obtain ⟨kind', location', _, temporaries', deadBefore', deadAfter'⟩ := c
  simp only [agrees, mapFloats, Bool.and_eq_true, decide_eq_true_eq, instrs, mk.injEq]
  tauto

/-- Nodes agree by their bodies, with equal ids and equal references. -/
theorem Node.compares : Compares agrees (mapFloats Binary64.withOneZero)
    fun n => ∀ i ∈ n.body.instrs, Numeric i.constituents := by
  intro n m
  have bodies := NodeBody.compares n.body m.body
  obtain ⟨ref, id, body, owner, succs, preds, exceptional⟩ := n
  obtain ⟨ref', id', body', owner', succs', preds', exceptional'⟩ := m
  simp only [agrees, mapFloats, Bool.and_eq_true, decide_eq_true_eq, bodies, mk.injEq]
  tauto

namespace FlowGraph

/-- Graphs agree when they are equal but for the signs of zeros and neither has a NaN. -/
theorem compares : Compares agrees (mapFloats Binary64.withOneZero) fun g => ¬ g.HasNaN := by
  intro g h
  have nodes := Node.compares.isEqv g.nodes.toList h.nodes.toList
  have tables : g.nodes.toList.map (Node.mapFloats Binary64.withOneZero) =
      h.nodes.toList.map (Node.mapFloats Binary64.withOneZero) ↔
      g.nodes.map (Node.mapFloats Binary64.withOneZero) =
        h.nodes.map (Node.mapFloats Binary64.withOneZero) := by
    rw [← Array.toList_map, ← Array.toList_map, Array.toList_inj]
  simp only [agrees, mapFloats, Bool.and_eq_true, decide_eq_true_eq, nodes, tables, mk.injEq,
    not_hasNaN_iff]
  tauto

/-! ### Float constants of a document -/

variable {o : Options} {v : Json} {g : FlowGraph}

/-- A graph has a NaN exactly when its document gives something for a float constant that is
not a numeral of a finite number. -/
theorem hasNaN_iff (read : (Reading.flowGraph v).answer o = .ok g) :
    g.HasNaN ↔ ∃ w, v.FloatInGraph w ∧ ¬ w.IsFinite := by
  obtain ⟨r, P, N, listed, same, _, rfl⟩ := Reading.answer_flowGraph_eq_ok_iff.1 read
  obtain ⟨_, nodeItems, nodes, records⟩ := listed
  -- The nodes of the graph are in the order of their ids, the records in that of the document.
  have bodies (Q : NodeBody → Prop) :
      (∀ n ∈ (linked P N).nodes.toList, Q n.body) ↔ ∀ e ∈ r.nodes, Q e.2.body := by
    have perm : ((linked P N).nodes.toList.map (·.body)).Perm (r.nodes.map (·.2.body)) :=
      (List.Perm.of_eq (map_body_linked P N)).trans (same.nodes.map _)
    have all : (∀ b ∈ (linked P N).nodes.toList.map (·.body), Q b) ↔
        ∀ b ∈ r.nodes.map (·.2.body), Q b :=
      forall_congr' fun b => by rw [perm.mem_iff]
    simpa only [List.forall_mem_map] using all
  have each := records.imp fun n e record =>
    (Reading.ensures_nodeBody_numeric n).holds record.body
  rw [← not_iff_not, not_hasNaN_iff, bodies fun b => ∀ i ∈ b.instrs, Numeric i.constituents,
    Reading.forall_mem_iff_of_forall₂ each]
  simp only [Json.FloatInGraph, nodes, Option.some.injEq, Json.arr.injEq, exists_eq_left',
    not_exists, not_and, not_not]
  constructor
  · rintro finite w ⟨n, mem, here⟩
    exact finite n mem w here
  · intro finite n mem w here
    exact finite w ⟨n, mem, here⟩

end FlowGraph

/-- Agreement of graphs is symmetric and transitive, and the graphs that agree with themselves
are those without a NaN. So a document in which the order of procedures and nodes is changed
gives a graph that agrees with the first one, unless something that is not a numeral of a
finite number is given for a float constant of an instruction. -/
theorem agrees_reordered_iff (o : Options) :
    (∀ g h : FlowGraph, g.agrees h = true → h.agrees g = true) ∧
    (∀ g h k : FlowGraph, g.agrees h = true → h.agrees k = true → g.agrees k = true) ∧
    (∀ g : FlowGraph, g.agrees g = true ↔ ¬ g.HasNaN) ∧
    ∀ (v w : Json) (g : FlowGraph), Reordered v w → (Reading.flowGraph v).answer o = .ok g →
      ∃ h, (Reading.flowGraph w).answer o = .ok h ∧ (g.agrees h = true ↔ ¬ g.HasNaN) ∧
        (g.HasNaN ↔ ∃ x, v.FloatInGraph x ∧ ¬ x.IsFinite) := by
  refine ⟨fun g h => FlowGraph.compares.symm, fun g h k => FlowGraph.compares.trans,
    fun g => FlowGraph.compares.self_iff, ?_⟩
  intro v w g reordered read
  exact ⟨g, answer_flowGraph_reordered reordered read, FlowGraph.compares.self_iff,
    FlowGraph.hasNaN_iff read⟩

/-! ### A document with floats -/

namespace Sample

/-- A float constant with anything for its value. -/
def floatConstant (value : Json) : Json :=
  .obj [("expr_kind", .str "ConstExpression"),
    ("constant", .obj [("kind", .str "Float"), ("float_value", value)])]

/-- The instruction that assumes one constant to be less than another one. -/
def comparison (left right : Json) : Json :=
  .obj [("instruction_kind", .str "Prune"),
    ("condition", .obj [("expr_kind", .str "BinopExpression"), ("operator", .str "Lt"),
      ("left", floatConstant left), ("right", floatConstant right)]),
    ("true_branch", .bool true), ("if_kind", .str "Ik_if"), ("location", location)]

/-- The nodes of the small document, each of which compares zero with a constant. -/
def comparingNodes (right : Json) : List Json :=
  nodes.map (·.withMember "nd_instrs" (.arr [comparison (.ofInt 0) right]))

def comparing (right : Json) : Json :=
  .obj [("procs", .arr procedures), ("nodes", .arr (comparingNodes right))]

def comparingBackwards (right : Json) : Json :=
  .obj [("procs", .arr procedures.reverse), ("nodes", .arr (comparingNodes right).reverse)]

theorem reordered_comparing (right : Json) :
    Reordered (comparing right) (comparingBackwards right) :=
  .members (.cons (.items (.inl rfl) (List.reverse_perm _).symm)
    (.cons (.items (.inr rfl) (List.reverse_perm _).symm) .nil))

/-- The right side of the comparison is the payload of a float constant of the document. -/
theorem floatInGraph_comparing (right : Json) : (comparing right).FloatInGraph right := by
  have operand : (comparison (.ofInt 0) right).FloatInInstr right :=
    .expr (f := .prune) rfl (.head _) rfl
      (.operand (f := .binary) rfl (.tail _ (.head _)) rfl (.constant rfl rfl rfl rfl))
  exact ⟨comparingNodes right, rfl, _, .head _, _, rfl, _, .head _, operand⟩

end Sample

/-- When a null is given for the constant, the small document and the same one listed backwards
are graphs that do not agree. -/
theorem agrees_reordered_null : ∃ g h : FlowGraph,
    (Reading.flowGraph (Sample.comparing .null)).answer .default = .ok g ∧
    (Reading.flowGraph (Sample.comparingBackwards .null)).answer .default = .ok h ∧
    g.agrees h = false := by
  have computed : ((Reading.flowGraph (Sample.comparing .null)).answer .default).toOption.map
      (fun _ => ()) = some () := by
    decide +kernel
  obtain ⟨g, read, _⟩ := exists_ok_of_map_toOption _ _ computed
  obtain ⟨h, read', agree, given⟩ := (agrees_reordered_iff .default).2.2.2 _ _ g
    (Sample.reordered_comparing .null) read
  have nan : g.HasNaN := given.2 ⟨.null, Sample.floatInGraph_comparing .null, id⟩
  exact ⟨g, h, read, read', Bool.eq_false_iff.2 fun same => agree.1 same nan⟩

end ProgramModel
