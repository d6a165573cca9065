/-!
The gauge of nesting: how many levels are open, how many were open at the most, and
how often a level was closed that was not open. A reading of nested values opens a
level before it goes in and closes it when it comes out, also with a fault.
-/

namespace ProgramModel

structure Gauge where
  depth : Nat
  peak : Nat
  spurious : Nat
  deriving DecidableEq, Repr

namespace Gauge

def start : Gauge := ⟨0, 0, 0⟩

def enter (g : Gauge) : Gauge := { g with depth := g.depth + 1, peak := max g.peak (g.depth + 1) }

def leave (g : Gauge) : Gauge :=
  match g.depth with
  | 0 => { g with spurious := g.spurious + 1 }
  | d + 1 => { g with depth := d }

@[simp]
theorem depth_enter (g : Gauge) : g.enter.depth = g.depth + 1 := rfl

end Gauge
end ProgramModel
