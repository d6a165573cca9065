import ProgramModel.Json.Basic
import ProgramModel.Text.Quoted

/-!
What a message shows of a JSON value: a scalar as it is, an array by its length, and
of an object nothing but that it is one.
-/

namespace ProgramModel.Json

inductive Glimpse where
  | null
  | boolean (value : Bool)
  | number (value : Numeral)
  | string (value : String)
  | array (length : Nat)
  | object
  deriving DecidableEq, Repr

def glimpse : Json → Glimpse
  | .null => .null
  | .bool b => .boolean b
  | .num n => .number n
  | .str s => .string s
  | .arr items => .array items.length
  | .obj _ => .object

/-- The number of characters that a message shows of a string. -/
def glimpseLimit : Nat := 40

def Glimpse.text : Glimpse → String
  | null => "null"
  | boolean b => "boolean " ++ toString b
  | number n => "number " ++ n.text
  | string s =>
    if glimpseLimit < s.length then
      "string " ++ Text.quoted (String.ofList (s.toList.take glimpseLimit)) ++ "..."
    else "string " ++ Text.quoted s
  | array n => "array of " ++ toString n ++ " elements"
  | object => "object"

end ProgramModel.Json
