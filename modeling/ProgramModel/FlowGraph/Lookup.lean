import ProgramModel.FlowGraph.Basic

/-!
Entries of a graph by id and by name. The tables ascend by id, so that an id is found
by halving; a name is looked for from the least id on.
-/

namespace ProgramModel

variable {α : Type}

/-- `bisect key entries target low high` is an entry with the key `target` at a place
from `low` to below `high`, where the entries ascend by their keys. -/
def bisect (key : α → Int) (entries : Array α) (target : Int) (low high : Nat) : Option α :=
  if low < high then
    let middle := (low + high) / 2
    match entries[middle]? with
    | none => none
    | some a =>
      if key a = target then some a
      else if key a < target then bisect key entries target (middle + 1) high
      else bisect key entries target low middle
  else none
termination_by high - low

namespace FlowGraph

def nodeById? (g : FlowGraph) (id : WireId) : Option Node :=
  bisect (fun n => n.id.val) g.nodes id.val 0 g.nodes.size

def procedureById? (g : FlowGraph) (id : WireId) : Option Procedure :=
  bisect (fun p => p.id.val) g.procedures id.val 0 g.procedures.size

/-- The procedure of a name that has the least id. -/
def procedureByName? (g : FlowGraph) (name : ProcName) : Option Procedure :=
  g.procedures.find? fun p => p.name = name

end FlowGraph
end ProgramModel
