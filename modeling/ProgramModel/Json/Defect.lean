/-!
What can be wrong with a JSON text, and where: a line and a column, which counts the
bytes since the last line feed.
-/

namespace ProgramModel.Json

/-- What is wrong with a text. Of a numeral, `missingDigit` is that a sign or an exponent
mark has no digit after it, and `badNumber` all else. -/
inductive Defect where
  | unfinishedValue
  | unfinishedList
  | unfinishedObject
  | unfinishedString
  | noValue
  | badWord
  | noColon
  | noListSeparator
  | noObjectSeparator
  | trailingComma
  | keyNotString
  | trailingText
  | badNumber
  | missingDigit
  | numberTooLarge
  | badEscape
  | loneSurrogate
  | missingSurrogate
  | controlCharacter
  | tooDeep
  | wrongType (found expected : String)
  | wrongValue (found expected : String)
  | repeatedKey (key : String)
  deriving DecidableEq, Repr

def Defect.message : Defect → String
  | unfinishedValue => "EOF while parsing a value"
  | unfinishedList => "EOF while parsing a list"
  | unfinishedObject => "EOF while parsing an object"
  | unfinishedString => "EOF while parsing a string"
  | noValue => "expected value"
  | badWord => "expected ident"
  | noColon => "expected `:`"
  | noListSeparator => "expected `,` or `]`"
  | noObjectSeparator => "expected `,` or `\x7d`"
  | trailingComma => "trailing comma"
  | keyNotString => "key must be a string"
  | trailingText => "trailing characters"
  | badNumber | missingDigit => "invalid number"
  | numberTooLarge => "number out of range"
  | badEscape => "invalid escape"
  | loneSurrogate => "lone leading surrogate in hex escape"
  | missingSurrogate => "unexpected end of hex escape"
  | controlCharacter => "control character (\\u0000-\\u001F) found while parsing a string"
  | tooDeep => "recursion limit exceeded"
  | wrongType found expected => "invalid type: " ++ found ++ ", expected " ++ expected
  | wrongValue found expected => "invalid value: " ++ found ++ ", expected " ++ expected
  | repeatedKey key => "duplicate field `" ++ key ++ "`"

/-- A defect at a line and at a column in bytes. -/
structure Malformed where
  defect : Defect
  line : Nat
  column : Nat
  deriving DecidableEq, Repr

def Malformed.message (m : Malformed) : String :=
  m.defect.message ++ " at line " ++ toString m.line ++ " column " ++ toString m.column

end ProgramModel.Json
