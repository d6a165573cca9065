import ProgramModel.Json.NumeralText

/-!
JSON text read into values. Containers may be nested as deeply as `room` says; a
key that an object repeats keeps its last value. An object with a numeral's key in
front is read as the number it stands for.
-/

namespace ProgramModel.Json

mutual
/-- A value, with blanks before it skipped. -/
def value (room : Nat) (s : List Char) : Scanned s Json :=
  match h : skipGaps s with
  | [] => .error (.atEnd .unfinishedValue)
  | '"' :: r => ((stringTail [] r).map Json.str).behindNext h
  | '[' :: r =>
    have hr := length_lt_of_skipGaps h
    match room with
    | 0 => .error (.at .tooDeep ('[' :: r))
    | room + 1 =>
      match h' : skipGaps r with
      | [] => .error (.atEnd .unfinishedList)
      | ']' :: t => .ok ⟨.arr [], t, Nat.lt_trans (length_lt_of_skipGaps h') hr⟩
      | _ => (items room [] r).within (Nat.le_of_lt hr)
  | '{' :: r =>
    have hr := length_lt_of_skipGaps h
    match room with
    | 0 => .error (.at .tooDeep ('{' :: r))
    | room + 1 =>
      match h' : skipGaps r with
      | [] => .error (.atEnd .unfinishedObject)
      | '}' :: t => .ok ⟨.obj [], t, Nat.lt_trans (length_lt_of_skipGaps h') hr⟩
      | _ => (members room [] r).within (Nat.le_of_lt hr)
  | 'n' :: r => (literal 'n' ['u', 'l', 'l'] .null r).fromNext h
  | 't' :: r => (literal 't' ['r', 'u', 'e'] (.bool true) r).fromNext h
  | 'f' :: r => (literal 'f' ['a', 'l', 's', 'e'] (.bool false) r).fromNext h
  | c :: r =>
    if startsNumeral c then ((numeral (c :: r)).map Json.num).fromNext h
    else .error (.at .noValue (c :: r))
termination_by (s.length, 0)

/-- The rest of a nonempty array, from an item on; `read` holds the items before it,
the last one first. -/
def items (room : Nat) (read : List Json) (s : List Char) : Scanned s Json :=
  (value room s).andThen fun v =>
    match h : skipGaps v.rest with
    | [] => .error (.atEnd .unfinishedList)
    | ']' :: r => .ok ⟨.arr (v.value :: read).reverse, r, length_lt_of_skipGaps h⟩
    | ',' :: r =>
      have hr := length_lt_of_skipGaps h
      have := v.shorter
      match skipGaps r with
      | [] => .error (.atEnd .unfinishedValue)
      | ']' :: t => .error (.at .trailingComma (']' :: t))
      | _ => (items room (v.value :: read) r).within (Nat.le_of_lt hr)
    | other => .error (.at .noListSeparator other)
termination_by (s.length, 1)

/-- The rest of a nonempty object, from a key on; `read` holds the members before it. -/
def members (room : Nat) (read : List (String × Json)) (s : List Char) : Scanned s Json :=
  match h : skipGaps s with
  | '"' :: q =>
    have hq := length_lt_of_skipGaps h
    ((stringTail [] q).andThen fun key =>
      have := key.shorter
      if read.isEmpty && key.value == numeralKey then numeralMember key.rest
      else
        match h' : skipGaps key.rest with
        | [] => .error (.atEnd .unfinishedObject)
        | ':' :: p =>
          have hp := length_lt_of_skipGaps h'
          ((value room p).andThen fun v =>
            have := v.shorter
            let read := put key.value v.value read
            match h'' : skipGaps v.rest with
            | [] => .error (.atEnd .unfinishedObject)
            | '}' :: r => .ok ⟨.obj read, r, length_lt_of_skipGaps h''⟩
            | ',' :: r =>
              have hr := length_lt_of_skipGaps h''
              match skipGaps r with
              | [] => .error (.atEnd .unfinishedValue)
              | '}' :: t => .error (.at .trailingComma ('}' :: t))
              | _ => (members room read r).within (Nat.le_of_lt hr)
            | other => .error (.at .noObjectSeparator other)).within (Nat.le_of_lt hp)
        | other => .error (.at .noColon other)).within (Nat.le_of_lt hq)
  | other => .error (.at .keyNotString other)
termination_by (s.length, 1)
end

/-- The number of nested containers that a document may have. -/
def nestingLimit : Nat := 127

/-- A whole text as one value. -/
def ofText (room : Nat) (text : String) : Except Malformed Json :=
  let s := text.toList
  match value room s with
  | .error stop => .error (stop.locate s)
  | .ok v =>
    match skipGaps v.rest with
    | [] => .ok v.value
    | other => .error ((Stop.at .trailingText other).locate s)

end ProgramModel.Json
