import ProgramModel.Json.Basic
import ProgramModel.Json.Refusal

/-!
Numbers that are given by their text. An object whose first key is `numeralKey`
stands for a number: the key's value is a string, the string is a numeral and
nothing else, and the object ends there. Behind another key the same key is a key
like all others.
-/

namespace ProgramModel.Json

/-- The key that makes an object a number. -/
def numeralKey : String := "$serde_json::private::Number"

/-- A whole text as one numeral, with no blanks around it. A sign or an exponent mark takes
one byte after it, digit or not; a byte behind that one is then the defect. -/
def numeralOfText (s : List Char) : Except Stop Numeral :=
  match s with
  | [] => .error (.atEnd .unfinishedValue)
  | c :: r =>
    if startsNumeral c then
      match numeral (c :: r) with
      | .error stop =>
        .error <| if stop.defect = .missingDigit ∧ 0 < stop.left then
          { stop with left := stop.left - 1 } else stop
      | .ok n =>
        match n.rest with
        | [] => .ok n.value
        | other => .error (.at .badNumber other)
    else .error (.at .badNumber (c :: r))

/-- The end of an object that stands for a number. -/
def numeralEnd (n : Numeral) (s : List Char) : Scanned s Json :=
  match h : skipGaps s with
  | [] => .error (.atEnd .unfinishedObject)
  | '}' :: _ => .endsNext (.num n) h
  | ',' :: r => .error (.at .trailingComma (',' :: r))
  | other => .error (.at .trailingText other)

/-- The rest of an object that stands for a number, after its key. A defect of the numeral
has its place in the text of the numeral. -/
def numeralMember (s : List Char) : Scanned s Json :=
  match h : skipGaps s with
  | [] => .error (.atEnd .unfinishedObject)
  | ':' :: r =>
    ((stringValue "string containing a number" r).andThen fun text =>
      match numeralOfText text.value.toList with
      | .error stop => .error { stop with held := some text.value.toList }
      | .ok n => numeralEnd n text.rest).behindNext h
  | other => .error (.at .noColon other)

end ProgramModel.Json
