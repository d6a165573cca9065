import ProgramModel.Json.Defect
import ProgramModel.Json.Numeral

/-!
The words of JSON text: blanks, literals, strings and numerals, read from a list of
characters. A reading that succeeds leaves a shorter rest and carries the proof of
it, which is what reading by recursion on the rest is founded on. A reading that
fails says what is wrong and how many bytes of the text lie behind the place.
-/

namespace ProgramModel.Json

open ProgramModel.Text

/-! ### Places -/

/-- The length of a text in bytes of its UTF-8 form. -/
def byteLength (s : List Char) : Nat := s.foldr (fun c n => c.utf8Size + n) 0

/-- A defect and the number of bytes that follow its place. The place is in the text
that is read, or in a text of its own that a string there holds. -/
structure Stop where
  defect : Defect
  left : Nat
  held : Option (List Char)
  deriving DecidableEq, Repr

/-- The place right before a rest. -/
def Stop.before (defect : Defect) (s : List Char) : Stop := ⟨defect, byteLength s, none⟩

/-- The place right behind the first byte of a rest, or the end of the text. -/
def Stop.at (defect : Defect) (s : List Char) : Stop := ⟨defect, byteLength s - 1, none⟩

def Stop.atEnd (defect : Defect) : Stop := ⟨defect, 0, none⟩

/-- Line and column after so many bytes; a line feed ends a line. -/
def locate : List Char → Nat → Nat → Nat → Nat × Nat
  | c :: s, bytes, line, column =>
    if bytes < c.utf8Size then (line, column + bytes)
    else if c = '\n' then locate s (bytes - c.utf8Size) (line + 1) 0
    else locate s (bytes - c.utf8Size) line (column + c.utf8Size)
  | [], _, line, column => (line, column)

def Stop.locate (stop : Stop) (text : List Char) : Malformed :=
  let text := stop.held.getD text
  let (line, column) := Json.locate text (byteLength text - stop.left) 1 0
  ⟨stop.defect, line, column⟩

/-! ### Steps -/

/-- A value read from the front of a text, and the shorter rest. -/
structure Step (s : List Char) (α : Type) where
  value : α
  rest : List Char
  shorter : rest.length < s.length

/-- What reading at the front of a text gives. -/
abbrev Scanned (s : List Char) (α : Type) := Except Stop (Step s α)

namespace Scanned

variable {s t : List Char} {α β : Type}

/-- A reading of a part is a reading of the whole. -/
def within (m : Scanned t α) (h : t.length ≤ s.length) : Scanned s α :=
  match m with
  | .error e => .error e
  | .ok r => .ok ⟨r.value, r.rest, Nat.lt_of_lt_of_le r.shorter h⟩

def andThen (m : Scanned s α) (f : (r : Step s α) → Scanned r.rest β) : Scanned s β :=
  match m with
  | .error e => .error e
  | .ok r => (f r).within (Nat.le_of_lt r.shorter)

def map (f : α → β) (m : Scanned s α) : Scanned s β :=
  match m with
  | .error e => .error e
  | .ok r => .ok ⟨f r.value, r.rest, r.shorter⟩

end Scanned

/-- The blanks of JSON: space, tab, line feed and carriage return. -/
def isGap (c : Char) : Bool := c == ' ' || c == '\t' || c == '\n' || c == '\r'

def skipGaps (s : List Char) : List Char := s.dropWhile isGap

theorem length_skipGaps_le (s : List Char) : (skipGaps s).length ≤ s.length := by
  induction s with
  | nil => simp [skipGaps]
  | cons c s ih =>
    simp only [skipGaps, List.dropWhile_cons] at ih ⊢
    split
    · simp only [List.length_cons]; omega
    · simp

theorem length_lt_of_skipGaps {s r : List Char} {c : Char} (h : skipGaps s = c :: r) :
    r.length < s.length := by
  have := length_skipGaps_le s
  rw [h, List.length_cons] at this
  omega

namespace Scanned

variable {s r : List Char} {c : Char} {α : Type}

/-- A reading that begins with the next character after blanks. -/
def fromNext (m : Scanned (c :: r) α) (h : skipGaps s = c :: r) : Scanned s α :=
  m.within (length_lt_of_skipGaps h)

/-- A reading that begins behind the next character after blanks. -/
def behindNext (m : Scanned r α) (h : skipGaps s = c :: r) : Scanned s α :=
  m.within (Nat.le_of_lt (length_lt_of_skipGaps h))

/-- A value that ends with the next character after blanks. -/
def endsNext (a : α) (h : skipGaps s = c :: r) : Scanned s α :=
  .ok ⟨a, r, length_lt_of_skipGaps h⟩

end Scanned

/-! ### Literals -/

/-- Reads the given characters and no others, and gives the rest. -/
def word : List Char → (s : List Char) → Except Stop { r : List Char // r.length ≤ s.length }
  | [], s => .ok ⟨s, Nat.le_refl _⟩
  | _ :: _, [] => .error (.atEnd .unfinishedValue)
  | w :: ws, c :: s =>
    if c = w then
      match word ws s with
      | .ok r => .ok ⟨r.val, Nat.le_succ_of_le r.property⟩
      | .error e => .error e
    else .error (.at .badWord (c :: s))

/-- A literal: its first letter, the other letters, and the value it denotes. -/
def literal {α : Type} (first : Char) (letters : List Char) (value : α) (s : List Char) :
    Scanned (first :: s) α :=
  match word letters s with
  | .error e => .error e
  | .ok r => .ok ⟨value, r.val, Nat.lt_succ_of_le r.property⟩

/-! ### Strings -/

def hexValue? (c : Char) : Option Nat :=
  if '0' ≤ c ∧ c ≤ '9' then some (c.toNat - 48)
  else if 'a' ≤ c ∧ c ≤ 'f' then some (c.toNat - 87)
  else if 'A' ≤ c ∧ c ≤ 'F' then some (c.toNat - 55)
  else none

/-- Four hexadecimal digits. Four bytes are taken whatever they are. -/
def hexFour (s : List Char) : Scanned s Nat :=
  match s with
  | a :: b :: c :: d :: r =>
    match hexValue? a, hexValue? b, hexValue? c, hexValue? d with
    | some a', some b', some c', some d' =>
      .ok ⟨((a' * 16 + b') * 16 + c') * 16 + d', r, by simp only [List.length_cons]; omega⟩
    | _, _, _, _ => .error ⟨.badEscape, byteLength (a :: b :: c :: d :: r) - 4, none⟩
  | short =>
    if byteLength short < 4 then .error (.atEnd .unfinishedString)
    else .error ⟨.badEscape, byteLength short - 4, none⟩

def isLowSurrogate (n : Nat) : Bool := 0xDC00 ≤ n && n ≤ 0xDFFF

def isHighSurrogate (n : Nat) : Bool := 0xD800 ≤ n && n ≤ 0xDBFF

/-- The character beyond the basic plane that two halves denote. -/
def joined (high low : Nat) : Char :=
  Char.ofNat (0x10000 + (high - 0xD800) * 0x400 + (low - 0xDC00))

/-- The second half of a character beyond the basic plane, after its first half. -/
def lowHalf (high : Nat) (s : List Char) : Scanned s Char :=
  match s with
  | [] => .error (.atEnd .unfinishedString)
  | ['\\'] => .error (.atEnd .unfinishedString)
  | '\\' :: 'u' :: r =>
    match hexFour r with
    | .error e => .error e
    | .ok low =>
      if isLowSurrogate low.value then
        .ok ⟨joined high low.value, low.rest, by
          have := low.shorter
          simp only [List.length_cons]
          omega⟩
      else .error (.before .loneSurrogate low.rest)
  | '\\' :: r => .error (.at .missingSurrogate r)
  | r => .error (.at .missingSurrogate r)

/-- A character written by its number, after the `u`. -/
def numbered (s : List Char) : Scanned s Char :=
  match hexFour s with
  | .error e => .error e
  | .ok first =>
    if isLowSurrogate first.value then .error (.before .loneSurrogate first.rest)
    else if isHighSurrogate first.value then
      (lowHalf first.value first.rest).within (Nat.le_of_lt first.shorter)
    else .ok ⟨Char.ofNat first.value, first.rest, first.shorter⟩

/-- The character a one-letter escape stands for. -/
def shortEscape? (c : Char) : Option Char :=
  match c with
  | '"' => some '"'
  | '\\' => some '\\'
  | '/' => some '/'
  | 'b' => some '\x08'
  | 'f' => some '\x0c'
  | 'n' => some '\n'
  | 'r' => some '\r'
  | 't' => some '\t'
  | _ => none

/-- A character written by an escape, after the backslash. -/
def escape (s : List Char) : Scanned s Char :=
  match s with
  | [] => .error (.atEnd .unfinishedString)
  | 'u' :: r => (numbered r).within (by simp)
  | c :: r =>
    match shortEscape? c with
    | some d => .ok ⟨d, r, by simp⟩
    | none => .error (.at .badEscape (c :: r))

/-- The rest of a string after its opening quote; `read` holds the characters read so
far, the last one first. -/
def stringTail (read : List Char) (s : List Char) : Scanned s String :=
  match s with
  | [] => .error (.atEnd .unfinishedString)
  | '"' :: r => .ok ⟨String.ofList read.reverse, r, by simp⟩
  | '\\' :: r =>
    ((escape r).andThen fun c =>
      have := c.shorter
      stringTail (c.value :: read) c.rest).within (by simp)
  | c :: r =>
    if c.toNat < 0x20 then .error (.at .controlCharacter (c :: r))
    else (stringTail (c :: read) r).within (by simp)
termination_by s.length
decreasing_by all_goals simp only [List.length_cons]; omega

/-! ### Numerals -/

/-- The digits at the front of a text, and the rest. -/
def frontDigits : List Char → List Digit × List Char
  | [] => ([], [])
  | c :: s =>
    match Digit.ofChar? c with
    | some d => (d :: (frontDigits s).1, (frontDigits s).2)
    | none => ([], c :: s)

theorem length_frontDigits_le (s : List Char) : (frontDigits s).2.length ≤ s.length := by
  fun_induction frontDigits s with
  | case1 => simp
  | case2 c s d h ih => simp only [List.length_cons]; omega
  | case3 => simp

/-- One digit or more, where a numeral needs some; `missing` is the defect of a character
that is none. -/
def digitRun (missing : Defect) (s : List Char) : Scanned s DigitRun :=
  match s with
  | [] => .error (.atEnd .unfinishedValue)
  | c :: r =>
    match Digit.ofChar? c with
    | none => .error (.at missing (c :: r))
    | some d => .ok ⟨⟨d, (frontDigits r).1⟩, (frontDigits r).2,
        Nat.lt_succ_of_le (length_frontDigits_le r)⟩

/-- The digits before the point; a zero stands alone. -/
def wholePart (s : List Char) : Scanned s DigitRun :=
  match digitRun .missingDigit s with
  | .error e => .error e
  | .ok run =>
    match run.value.lead, run.value.more with
    | 0, _ :: _ => .error (.at .badNumber s.tail)
    | _, _ => .ok run

/-- A part of a numeral that may be absent, and the rest. -/
abbrev Optionally (s : List Char) (α : Type) :=
  Except Stop (Option α × { r : List Char // r.length ≤ s.length })

/-- The digits behind a point, if there is a point. -/
def fractionPart (s : List Char) : Optionally s DigitRun :=
  match s with
  | '.' :: r =>
    match digitRun .badNumber r with
    | .error e => .error e
    | .ok run => .ok (some run.value, ⟨run.rest, Nat.le_succ_of_le (Nat.le_of_lt run.shorter)⟩)
  | r => .ok (none, ⟨r, Nat.le_refl _⟩)

/-- The sign of an exponent, positive where none is written, and the rest. -/
def exponentSign (s : List Char) : Bool × { r : List Char // r.length ≤ s.length } :=
  match s with
  | '+' :: r => (false, ⟨r, Nat.le_succ _⟩)
  | '-' :: r => (true, ⟨r, Nat.le_succ _⟩)
  | r => (false, ⟨r, Nat.le_refl _⟩)

/-- The exponent, if there is one; either letter marks it. -/
def exponentPart (s : List Char) : Optionally s Exponent :=
  match s with
  | [] => .ok (none, ⟨[], Nat.le_refl _⟩)
  | c :: r =>
    if c = 'e' ∨ c = 'E' then
      let (negative, t) := exponentSign r
      match digitRun .missingDigit t.val with
      | .error e => .error e
      | .ok run => .ok (some ⟨negative, run.value⟩, ⟨run.rest, by
          have := run.shorter
          have := t.property
          simp only [List.length_cons]
          omega⟩)
    else .ok (none, ⟨c :: r, Nat.le_refl _⟩)

/-- A numeral after its sign. -/
def unsignedNumeral (negative : Bool) (s : List Char) : Scanned s Numeral :=
  match wholePart s with
  | .error e => .error e
  | .ok whole =>
    match fractionPart whole.rest with
    | .error e => .error e
    | .ok (fraction, r) =>
      match exponentPart r.val with
      | .error e => .error e
      | .ok (exponent, t) => .ok ⟨⟨negative, whole.value, fraction, exponent⟩, t.val, by
          have := whole.shorter
          have := r.property
          have := t.property
          omega⟩

def startsNumeral (c : Char) : Bool := c == '-' || (Digit.ofChar? c).isSome

def numeral (s : List Char) : Scanned s Numeral :=
  match s with
  | '-' :: r => (unsignedNumeral true r).within (by simp)
  | r => unsignedNumeral false r

end ProgramModel.Json
