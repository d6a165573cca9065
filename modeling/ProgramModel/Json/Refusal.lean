import ProgramModel.Json.Scan
import ProgramModel.Text.Quoted

/-!
Refusals of values by their type. A place that takes strings only, or counts only,
says of any other value what it is and what was expected.
-/

namespace ProgramModel.Json

def foundString (s : String) : String := "string " ++ Text.quoted s

def foundInteger (text : String) : String := "integer `" ++ text ++ "`"

/-- What a message shows of a number. Integers are shown if a machine word can hold them;
minus zero is none. -/
def foundNumber (n : Numeral) : String :=
  match n.integer? with
  | none => "number"
  | some i =>
    if n.negative then
      if -0x8000000000000000 ≤ i ∧ i < 0 then foundInteger (toString i) else "number"
    else if i < 0x10000000000000000 then foundInteger (toString i) else "number"

/-- The refusal of a value by its type. A scalar is read to its end first, so that a
defect inside it comes before its being of the wrong type. -/
def refusal (expected : String) (s : List Char) : Stop :=
  let wrong {t : List Char} (m : Scanned t String) : Stop :=
    match m with
    | .error e => e
    | .ok found => .before (.wrongType found.value expected) found.rest
  match s with
  | [] => .atEnd .unfinishedValue
  | 'n' :: r => wrong (literal 'n' ['u', 'l', 'l'] "null" r)
  | 't' :: r => wrong (literal 't' ['r', 'u', 'e'] "boolean `true`" r)
  | 'f' :: r => wrong (literal 'f' ['a', 'l', 's', 'e'] "boolean `false`" r)
  | '"' :: r => wrong ((stringTail [] r).map foundString)
  | '[' :: r => .before (.wrongType "sequence" expected) ('[' :: r)
  | '{' :: r => .before (.wrongType "map" expected) ('{' :: r)
  | c :: r =>
    if startsNumeral c then wrong ((numeral (c :: r)).map foundNumber)
    else .at .noValue (c :: r)

/-- A string, with blanks before it skipped. -/
def stringValue (expected : String) (s : List Char) : Scanned s String :=
  match h : skipGaps s with
  | '"' :: r => (stringTail [] r).behindNext h
  | other => .error (refusal expected other)

end ProgramModel.Json
