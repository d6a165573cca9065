import ProgramModel.Json.Basic
import ProgramModel.Text.Blank
import ProgramModel.Wire.Reading

/-!
The members and scalars of wire values. Each access names the construct that is being
read, so that a fault points at it. A member comes with the proof that it is a child
of its object, which is what readings of nested values recurse on.
-/

namespace ProgramModel

/-- A direct member of a value. -/
abbrev Member (v : Json) := { w : Json // Json.Child w v }

namespace Reading

variable {α : Type}

def mismatch (expected : Shape) (context : String) (v : Json) : Reading α :=
  throw (.shapeMismatch expected context v.glimpse)

/-! ### Members -/

/-- The member under a key, if there is one. -/
def member? (v : Json) (key : String) : Option (Member v) :=
  match h : v.member? key with
  | some w => some ⟨w, Json.child_of_member? h⟩
  | none => none

/-- The member under a key that every object of its kind has. -/
def field (v : Json) (key context : String) : Reading (Member v) :=
  match v with
  | .obj members =>
    match member? (.obj members) key with
    | some w => pure w
    | none => throw (.missingField key context)
  | other => mismatch .object context other

/-- The member under a key that may be absent. A null counts as absent. -/
def optional (v : Json) (key context : String) : Reading (Option (Member v)) :=
  match v with
  | .obj members =>
    match member? (.obj members) key with
    | some ⟨.null, _⟩ => pure none
    | found => pure found
  | other => mismatch .object context other

/-! ### Scalars -/

def string (v : Json) (context : String) : Reading String :=
  match v with
  | .str s => pure s
  | other => mismatch .string context other

def boolean (v : Json) (context : String) : Reading Bool :=
  match v with
  | .bool b => pure b
  | other => mismatch .boolean context other

/-- An integer of a signed word, as a numeral without fraction and exponent. -/
def wireId (v : Json) (context : String) : Reading WireId :=
  match v with
  | .num n =>
    match n.integer?.bind (Bounded.ofInt? _ _) with
    | some i => pure i
    | none => mismatch .integer context v
  | other => mismatch .integer context other

/-- An integer of an unsigned word, written without a sign. -/
def extent (v : Json) (context : String) : Reading Extent :=
  match v with
  | .num n =>
    match n.natural?.bind fun k => Bounded.ofInt? _ _ k with
    | some i => pure i
    | none => mismatch .natural context v
  | other => mismatch .natural context other

/-- An integer of half a signed word. -/
def coordinate (v : Json) (context : String) : Reading Coordinate :=
  match v with
  | .num n =>
    match n.integer?.bind (Bounded.ofInt? _ _) with
    | some i => pure i
    | none => mismatch .coordinate context v
  | other => mismatch .coordinate context other

/-- An integer of a double signed word, as a numeral or as digits in a string, which
blanks may surround. A numeral is taken as a signed word, or else as an unsigned one, or
else by its text. -/
def wideInt? (v : Json) : Option WideInt :=
  match v with
  | .num n =>
    let signed : Option WireId := n.integer?.bind (Bounded.ofInt? _ _)
    let unsigned : Option Extent := n.natural?.bind fun k => Bounded.ofInt? _ _ k
    (signed.map WireId.toWide).or <| (unsigned.map Extent.toWide).or <|
      (Text.signed? n.text.toList).bind (Bounded.ofInt? _ _)
  | .str s => (Text.signed? (Text.trim s.toList)).bind (Bounded.ofInt? _ _)
  | _ => none

def wideInt (v : Json) (context : String) : Reading WideInt :=
  match wideInt? v with
  | some i => pure i
  | none => mismatch .wideInteger context v

/-- The nearest finite number of a numeral; anything else is no number. -/
def binary64 (v : Json) : Binary64 :=
  match v with
  | .num n => n.binary64?.getD .nan
  | _ => .nan

/-! ### Arrays -/

def items (v : Json) (context : String) : Reading (List Json) :=
  match v with
  | .arr items => pure items
  | other => mismatch .array context other

/-- Reads all items in order, up to the first fault. -/
def list (v : Json) (context : String) (readItem : Json → Reading α) : Reading (List α) := do
  (← items v context).mapM readItem

/-! ### Fields of one shape -/

def stringField (v : Json) (key context : String) : Reading String := do
  string (← field v key context) context

def booleanField (v : Json) (key context : String) : Reading Bool := do
  boolean (← field v key context) context

def wireIdField (v : Json) (key context : String) : Reading WireId := do
  wireId (← field v key context) context

def listField (v : Json) (key context : String) (readItem : Json → Reading α) :
    Reading (List α) := do
  list (← field v key context) context readItem

end Reading
end ProgramModel
