/-!
Blank characters and trimming. A blank is a character with the Unicode property
White_Space; `trim` drops the blanks at both ends of a text and none inside it.
-/

namespace ProgramModel.Text

/-- The twenty-five characters of White_Space. The zero width space and the byte
order mark are not among them. -/
def isBlank (c : Char) : Bool :=
  let n := c.toNat
  (9 ≤ n && n ≤ 13) || n == 0x20 || n == 0x85 || n == 0xA0 || n == 0x1680 ||
    (0x2000 ≤ n && n ≤ 0x200A) || n == 0x2028 || n == 0x2029 || n == 0x202F ||
    n == 0x205F || n == 0x3000

def trimLeft (cs : List Char) : List Char := cs.dropWhile isBlank

def trim (cs : List Char) : List Char := (trimLeft (trimLeft cs).reverse).reverse

end ProgramModel.Text
