import ProgramModel.Fault
import ProgramModel.Options.Basic
import ProgramModel.Wire.Gauge

/-!
Readings of wire values. A reading knows the options, carries the gauge of nesting
along, and gives a value or the first fault; the gauge outlives the fault.
-/

namespace ProgramModel

abbrev Reading (α : Type) := ReaderT Options (ExceptT Fault (StateM Gauge)) α

namespace Reading

variable {α : Type}

/-- What a reading gives, and the gauge after it. -/
def outcome (m : Reading α) (o : Options) (g : Gauge) : Except Fault α × Gauge := m o g

/-- What a reading gives on its own, with no level open before it. -/
def answer (m : Reading α) (o : Options) : Except Fault α := (m.outcome o .start).1

/-- A reading one level further in. It is refused, with the gauge as it was, when all
the levels that the options allow are open. -/
def nested (context : String) (m : Reading α) : Reading α := fun o g =>
  if g.depth + 1 ≤ o.maxDepth then
    let (result, g') := m o g.enter
    (result, g'.leave)
  else (.error (.depthExceeded o.maxDepth context), g)

/-- A result that needs no options and no nesting. -/
def ofExcept (result : Except Fault α) : Reading α := fun _ g => (result, g)

end Reading
end ProgramModel
