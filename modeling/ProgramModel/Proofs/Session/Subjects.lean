import ProgramModel.Depth
import ProgramModel.Proofs.FlowGraph.Nesting
import ProgramModel.Session

/-!
The readings of all kinds of values, each put together from the laws of its reader. Main
statements: all of them are regular (`regular_reading`), and all but that of a table are
graded by the depth of the value (`graded_reading`). A table drops the entries that later
ones take the place of, and their depth with them.
-/

namespace ProgramModel.Subject

open Reading

/-- What is read needs as many levels as it is deep, except for tables. A table keeps one
definition for each name, but all of them are read. -/
theorem graded_reading {s : Subject} (v : Json) (other : s ≠ typeTable) :
    Graded 0 (s.reading v) Decoded.depth := by
  cases s with
  | typeName => exact (flat_typeName v).map fun _ => rfl
  | procName => exact (graded_procName v).map fun _ => rfl
  | fieldName => exact (flat_fieldName v).map fun _ => rfl
  | temporary => exact (flat_temporary v).map fun _ => rfl
  | programVariable => exact (graded_programVariable v).map fun _ => rfl
  | location => exact (flat_location v).map fun _ => rfl
  | intLiteral => exact (flat_intLiteral v).map fun _ => rfl
  | type => exact (graded_ty v).map fun _ => rfl
  | constant => exact (graded_constant v).map fun _ => rfl
  | expr => exact (graded_expr v).map fun _ => rfl
  | instr => exact (graded_instr v).map fun _ => rfl
  | itemAnnotations => exact (flat_itemAnnotations v).map fun _ => rfl
  | methodAnnotations => exact (flat_methodAnnotations v).map fun _ => rfl
  | attributes => exact (graded_attributes v).map fun _ => rfl
  | nodeKind => exact (flat_nodeKind v).map fun _ => rfl
  | structDef => exact (graded_structDef v).map fun _ => rfl
  | typeTable => exact absurd rfl other
  | flowGraph => exact (graded_flowGraph v).map fun _ => rfl

/-- All readings are regular, that of tables too. -/
theorem regular_reading (s : Subject) (v : Json) : Regular (s.reading v) := by
  by_cases table : s = typeTable
  · subst table
    exact (regular_typeTable v).map Decoded.typeTable
  · exact (graded_reading v table).regular

end ProgramModel.Subject
