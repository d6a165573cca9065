import ProgramModel.Json.Scan

/-!
Values that are skipped unread. Skipping is laxer than reading: nesting has no
limit and halves of surrogate pairs pass; and it has less to say about a text that
ends too early or has a comma too many.
-/

namespace ProgramModel.Json

/-- Skips the rest of a string after its opening quote, and gives the rest. -/
def skipString (s : List Char) : Scanned s Unit :=
  match s with
  | [] => .error (.atEnd .unfinishedString)
  | '"' :: r => .ok ⟨(), r, by simp⟩
  | '\\' :: 'u' :: r =>
    ((hexFour r).andThen fun n =>
      have := n.shorter
      skipString n.rest).within (by simp only [List.length_cons]; omega)
  | ['\\'] => .error (.atEnd .unfinishedString)
  | '\\' :: c :: r =>
    if (shortEscape? c).isSome then
      (skipString r).within (by simp only [List.length_cons]; omega)
    else .error (.at .badEscape (c :: r))
  | c :: r =>
    if c.toNat < 0x20 then .error (.before .controlCharacter (c :: r))
    else (skipString r).within (by simp)
termination_by s.length
decreasing_by all_goals simp only [List.length_cons]; omega

/-- Skips a numeral. That it ends with the text is no defect of its own. -/
def skipNumeral (s : List Char) : Scanned s Unit :=
  match numeral s with
  | .ok n => .ok ⟨(), n.rest, n.shorter⟩
  | .error stop =>
    .error (if stop.defect = .unfinishedValue then { stop with defect := .badNumber } else stop)

mutual
/-- Skips a value, with blanks before it. -/
def skipValue (s : List Char) : Scanned s Unit :=
  match h : skipGaps s with
  | [] => .error (.atEnd .unfinishedValue)
  | '"' :: r => (skipString r).behindNext h
  | '[' :: r =>
    have hr := length_lt_of_skipGaps h
    match h' : skipGaps r with
    | [] => .error (.atEnd .unfinishedList)
    | ']' :: t => .ok ⟨(), t, Nat.lt_trans (length_lt_of_skipGaps h') hr⟩
    | _ => (skipItems r).within (Nat.le_of_lt hr)
  | '{' :: r =>
    have hr := length_lt_of_skipGaps h
    match h' : skipGaps r with
    | [] => .error (.atEnd .unfinishedObject)
    | '}' :: t => .ok ⟨(), t, Nat.lt_trans (length_lt_of_skipGaps h') hr⟩
    | _ => (skipMembers r).within (Nat.le_of_lt hr)
  | 'n' :: r => (literal 'n' ['u', 'l', 'l'] () r).fromNext h
  | 't' :: r => (literal 't' ['r', 'u', 'e'] () r).fromNext h
  | 'f' :: r => (literal 'f' ['a', 'l', 's', 'e'] () r).fromNext h
  | c :: r =>
    if startsNumeral c then (skipNumeral (c :: r)).fromNext h
    else .error (.at .noValue (c :: r))
termination_by (s.length, 0)

/-- Skips the rest of a nonempty array, from an item on. -/
def skipItems (s : List Char) : Scanned s Unit :=
  (skipValue s).andThen fun v =>
    match h : skipGaps v.rest with
    | [] => .error (.atEnd .unfinishedList)
    | ']' :: r => .ok ⟨(), r, length_lt_of_skipGaps h⟩
    | ',' :: r =>
      have hr := length_lt_of_skipGaps h
      have := v.shorter
      (skipItems r).within (Nat.le_of_lt hr)
    | other => .error (.at .noListSeparator other)
termination_by (s.length, 1)

/-- Skips the rest of a nonempty object, from a key on. -/
def skipMembers (s : List Char) : Scanned s Unit :=
  match h : skipGaps s with
  | [] => .error (.atEnd .unfinishedObject)
  | '"' :: q =>
    have hq := length_lt_of_skipGaps h
    ((skipString q).andThen fun key =>
      have := key.shorter
      match h' : skipGaps key.rest with
      | [] => .error (.atEnd .unfinishedObject)
      | ':' :: p =>
        have hp := length_lt_of_skipGaps h'
        ((skipValue p).andThen fun v =>
          have := v.shorter
          match h'' : skipGaps v.rest with
          | [] => .error (.atEnd .unfinishedObject)
          | '}' :: r => .ok ⟨(), r, length_lt_of_skipGaps h''⟩
          | ',' :: r =>
            have hr := length_lt_of_skipGaps h''
            (skipMembers r).within (Nat.le_of_lt hr)
          | other => .error (.at .noObjectSeparator other)).within (Nat.le_of_lt hp)
      | other => .error (.at .noColon other)).within (Nat.le_of_lt hq)
  | other => .error (.at .keyNotString other)
termination_by (s.length, 1)
end

end ProgramModel.Json
