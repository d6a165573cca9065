import ProgramModel.Ty.Wire

/-!
Positions in source files. A document that knows no line or column has -1 there.
-/

namespace ProgramModel

structure Location where
  line : Coordinate
  column : Coordinate
  file : Option String
  deriving DecidableEq, Repr

namespace Location

/-- A position without a file. -/
def ofPosition (line column : Coordinate) : Location := ⟨line, column, none⟩

def origin : Location :=
  let zero : Coordinate := ⟨0, by decide, by decide⟩
  ofPosition zero zero

def text (l : Location) : String :=
  let file := match l.file with
    | some f => f ++ ":"
    | none => ""
  file ++ toString l.line ++ ":" ++ toString l.column

end Location

namespace Reading

/-- The string under a key that may be absent. -/
def optionalString (v : Json) (key context : String) : Reading (Option String) := do
  match ← optional v key context with
  | some w => return some (← string w context)
  | none => return none

def location (v : Json) : Reading Location := do
  let file ← optionalString v "file" "location"
  let line ← coordinate (← field v "line" "location") "location"
  let column ← coordinate (← field v "col" "location") "location"
  return { line, column, file }

/-- The location under a key. -/
def locationField (v : Json) (key context : String) : Reading Location := do
  location (← field v key context)

end Reading

open Json in
def Location.toWire (l : Location) : Json :=
  .obj (memberOf? "file" (l.file.map .str) ++
    [("line", .ofInt l.line.val), ("col", .ofInt l.column.val)])

end ProgramModel
