/-!
Breadth-first traversal of a graph that is given by the targets of each node's edges.
The order grows at its end while a cursor moves over it, so that all nodes at a smaller
distance from the start come before those at a greater one.
-/

namespace ProgramModel.Traversal

variable {α : Type} [DecidableEq α]

/-- The list with a node at its end, unless it is in the list already. -/
def appendNew (order : List α) (node : α) : List α :=
  if node ∈ order then order else order ++ [node]

/-- Adds the targets of the node under the cursor and moves on, for a given number of
rounds at the most. -/
def explore (targets : α → List α) : Nat → Nat → List α → List α
  | 0, _, order => order
  | rounds + 1, cursor, order =>
    match order[cursor]? with
    | some node => explore targets rounds (cursor + 1) ((targets node).foldl appendNew order)
    | none => order

/-- The nodes that can be reached, each once and by distance, if the number of rounds is
enough. One round is taken for each reachable node. -/
def breadthFirst (targets : α → List α) (rounds : Nat) (node : α) : List α :=
  explore targets rounds 0 [node]

end ProgramModel.Traversal
