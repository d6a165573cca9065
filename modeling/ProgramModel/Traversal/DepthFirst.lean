/-!
Depth-first traversal of a graph that is given by the targets of each node's edges. A
node is marked when it is entered and finished when all its edges have been followed;
the finished nodes, the last one first, are the reverse postorder. The traversal is a
machine with an explicit stack, so that its state can be looked at after every step.
-/

namespace ProgramModel.Traversal

variable {α : Type} [DecidableEq α]

/-- A node that was entered, and how many of its edges were followed. -/
structure Frame (α : Type) where
  node : α
  followed : Nat
  deriving DecidableEq, Repr

structure DepthFirst (α : Type) where
  /-- The marked nodes. -/
  visited : List α
  /-- The nodes that are not finished, the innermost first. -/
  stack : List (Frame α)
  /-- The finished nodes, the last one first. -/
  finished : List α
  deriving DecidableEq, Repr

namespace DepthFirst

def start (node : α) : DepthFirst α := ⟨[node], [⟨node, 0⟩], []⟩

/-- Follows the next edge of the innermost node, or finishes it when there is none. No
step is left when the stack is empty. -/
def step (targets : α → List α) (w : DepthFirst α) : Option (DepthFirst α) :=
  match w.stack with
  | [] => none
  | ⟨node, i⟩ :: below =>
    match (targets node)[i]? with
    | some t =>
      if t ∈ w.visited then some { w with stack := ⟨node, i + 1⟩ :: below }
      else some { w with visited := t :: w.visited, stack := ⟨t, 0⟩ :: ⟨node, i + 1⟩ :: below }
    | none => some { w with stack := below, finished := node :: w.finished }

/-- Takes steps until none is left, a given number of them at the most. -/
def run (targets : α → List α) : Nat → DepthFirst α → DepthFirst α
  | 0, w => w
  | n + 1, w =>
    match w.step targets with
    | some w' => run targets n w'
    | none => w

end DepthFirst

/-- The nodes that can be reached, in reverse postorder, if the number of steps is
enough. A step is taken for each edge of a reachable node and one for the node. -/
def reversePostorder (targets : α → List α) (steps : Nat) (node : α) : List α :=
  (DepthFirst.run targets steps (.start node)).finished

end ProgramModel.Traversal
