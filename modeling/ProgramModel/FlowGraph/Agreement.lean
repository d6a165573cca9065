import ProgramModel.FlowGraph.Basic

/-!
Agreement of graphs: equality in all respects but one, that float constants compare as
numbers. A graph with a constant that is no number does not agree with itself.
-/

namespace ProgramModel

def NodeBody.agrees (b c : NodeBody) : Bool :=
  decide (b.kind = c.kind ∧ b.location = c.location ∧ b.temporaries = c.temporaries ∧
    b.deadBefore = c.deadBefore ∧ b.deadAfter = c.deadAfter) &&
  b.instrs.isEqv c.instrs Instr.agrees

def Node.agrees (n m : Node) : Bool :=
  decide (n.ref = m.ref ∧ n.id = m.id ∧ n.owner = m.owner ∧ n.succs = m.succs ∧
    n.preds = m.preds ∧ n.exceptional = m.exceptional) &&
  n.body.agrees m.body

def FlowGraph.agrees (g h : FlowGraph) : Bool :=
  decide (g.procedures = h.procedures) && g.nodes.toList.isEqv h.nodes.toList Node.agrees

end ProgramModel
