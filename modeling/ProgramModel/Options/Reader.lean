import ProgramModel.Fault
import ProgramModel.Json.Refusal
import ProgramModel.Json.Skip
import ProgramModel.Options.Basic
import ProgramModel.Options.Count

/-!
Options read from JSON text, straight from the characters. The text is an object, of
which unknown members are skipped and known ones may not be repeated, or an array of
the values in their order. What is absent keeps its default.
-/

namespace ProgramModel.Options

open ProgramModel.Json

/-! ### Fields -/

inductive Field where
  | maxDepth
  | constructorName
  | builtinNewName
  | separator
  deriving DecidableEq, Repr

def Field.key : Field → String
  | maxDepth => "max_depth"
  | constructorName => "constructor_name"
  | builtinNewName => "builtin_new_name"
  | separator => "namespace_separator"

/-- The order of the values in an array. -/
def Field.all : List Field := [maxDepth, constructorName, builtinNewName, separator]

def Field.ofKey? (key : String) : Option Field := Field.all.find? (·.key == key)

/-- The values read so far. -/
structure Draft where
  maxDepth : Option Nat := none
  constructorName : Option String := none
  builtinNewName : Option String := none
  separator : Option Char := none

def Draft.has (d : Draft) : Field → Bool
  | .maxDepth => d.maxDepth.isSome
  | .constructorName => d.constructorName.isSome
  | .builtinNewName => d.builtinNewName.isSome
  | .separator => d.separator.isSome

def Draft.complete (d : Draft) : Options where
  maxDepth := d.maxDepth.getD Options.default.maxDepth
  constructorName := d.constructorName.getD Options.default.constructorName
  builtinNewName := d.builtinNewName.getD Options.default.builtinNewName
  separator := d.separator.getD Options.default.separator

/-! ### Values -/

def countValue (s : List Char) : Scanned s Nat :=
  match h : skipGaps s with
  | c :: r =>
    if startsNumeral c then (count (c :: r)).fromNext h
    else .error (refusal "usize" (c :: r))
  | [] => .error (refusal "usize" [])

/-- A string of one character. -/
def charValue (s : List Char) : Scanned s Char :=
  match stringValue "a character" s with
  | .error e => .error e
  | .ok t =>
    match t.value.toList with
    | [c] => .ok ⟨c, t.rest, t.shorter⟩
    | _ => .error (.before (.wrongValue (foundString t.value) "a character") t.rest)

def fieldValue (d : Draft) (s : List Char) : Field → Scanned s Draft
  | .maxDepth => (countValue s).map fun n => { d with maxDepth := some n }
  | .constructorName =>
    (stringValue "a string" s).map fun name => { d with constructorName := some name }
  | .builtinNewName =>
    (stringValue "a string" s).map fun name => { d with builtinNewName := some name }
  | .separator => (charValue s).map fun c => { d with separator := some c }

/-! ### Containers -/

/-- The end of an array after the last field. -/
def arrayEnd (d : Draft) (s : List Char) : Scanned s Draft :=
  match h : skipGaps s with
  | [] => .error (.atEnd .unfinishedList)
  | ']' :: _ => .endsNext d h
  | ',' :: r =>
    match skipGaps r with
    | ']' :: t => .error (.at .trailingComma (']' :: t))
    | other => .error (.at .trailingText other)
  | other => .error (.at .trailingText other)

/-- The values of an array behind a first one. -/
def arrayTail : List Field → Draft → (s : List Char) → Scanned s Draft
  | [], d, s => arrayEnd d s
  | f :: fields, d, s =>
    match h : skipGaps s with
    | [] => .error (.atEnd .unfinishedList)
    | ']' :: _ => .endsNext d h
    | ',' :: r =>
      match skipGaps r with
      | [] => .error (.atEnd .unfinishedValue)
      | ']' :: t => .error (.at .trailingComma (']' :: t))
      | _ =>
        ((fieldValue d r f).andThen fun d => arrayTail fields d.value d.rest).behindNext h
    | other => .error (.at .noListSeparator other)

/-- An array of values in the order of the fields, after its bracket. -/
def ofArray (s : List Char) : Scanned s Draft :=
  match h : skipGaps s with
  | [] => .error (.atEnd .unfinishedList)
  | ']' :: _ => .endsNext {} h
  | _ =>
    (fieldValue {} s .maxDepth).andThen fun d => arrayTail Field.all.tail d.value d.rest

/-- The place of a repeated key is behind the key and the blanks after it, and behind a
closing brace there. -/
def repeated (key : String) (rest : List Char) : Stop :=
  match skipGaps rest with
  | '}' :: r => .before (.repeatedKey key) r
  | other => .before (.repeatedKey key) other

/-- A member, after its key. -/
def memberValue (d : Draft) (key : String) (s : List Char) : Scanned s Draft :=
  let known := Field.ofKey? key
  if known.any d.has then .error (repeated key s)
  else
    match h : skipGaps s with
    | [] => .error (.atEnd .unfinishedObject)
    | ':' :: r =>
      let m : Scanned r Draft :=
        match known with
        | some f => fieldValue d r f
        | none => (skipValue r).map fun _ => d
      m.behindNext h
    | other => .error (.at .noColon other)

/-- The rest of a nonempty object, from a key on. -/
def objectTail (d : Draft) (s : List Char) : Scanned s Draft :=
  match h : skipGaps s with
  | '"' :: q =>
    have hq := length_lt_of_skipGaps h
    ((stringTail [] q).andThen fun key =>
      have := key.shorter
      (memberValue d key.value key.rest).andThen fun d =>
        have := d.shorter
        match h' : skipGaps d.rest with
        | [] => .error (.atEnd .unfinishedObject)
        | '}' :: r => .ok ⟨d.value, r, length_lt_of_skipGaps h'⟩
        | ',' :: r =>
          have hr := length_lt_of_skipGaps h'
          match skipGaps r with
          | [] => .error (.atEnd .unfinishedValue)
          | '}' :: t => .error (.at .trailingComma ('}' :: t))
          | _ => (objectTail d.value r).within (Nat.le_of_lt hr)
        | other => .error (.at .noObjectSeparator other)).within (Nat.le_of_lt hq)
  | other => .error (.at .keyNotString other)
termination_by s.length

/-- An object of members, after its brace. -/
def ofObject (s : List Char) : Scanned s Draft :=
  match h : skipGaps s with
  | [] => .error (.atEnd .unfinishedObject)
  | '}' :: _ => .endsNext {} h
  | _ => objectTail {} s

/-- The options that the front of a text describes. -/
def draft (s : List Char) : Scanned s Draft :=
  match h : skipGaps s with
  | '[' :: r => (ofArray r).behindNext h
  | '{' :: r => (ofObject r).behindNext h
  | other => .error (refusal "struct DecodeOptions" other)

/-- The options that a whole text describes. A depth of zero is refused. -/
def ofText (text : String) : Except Fault Options :=
  let s := text.toList
  match draft s with
  | .error stop => .error (.malformed (stop.locate s))
  | .ok d =>
    match skipGaps d.rest with
    | [] =>
      let o := d.value.complete
      if o.maxDepth = 0 then .error .zeroDepthLimit else .ok o
    | other => .error (.malformed ((Stop.at .trailingText other).locate s))

end ProgramModel.Options
