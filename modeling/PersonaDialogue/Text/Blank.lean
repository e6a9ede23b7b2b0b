/-!
# White space at the ends of a text

`isBlank` is the property `White_Space` of the Unicode standard (25 code points); `trim` cuts it off
both ends and leaves everything between as it is.
-/

namespace PersonaDialogue.Text

/-- The white space of the Unicode standard: tab to carriage return, space, the spaces of other
scripts, and the two line separators. -/
def isBlank (c : Char) : Bool :=
  let n := c.toNat
  (9 ≤ n && n ≤ 13) || n == 0x20 || n == 0x85 || n == 0xA0 || n == 0x1680 ||
    (0x2000 ≤ n && n ≤ 0x200A) || n == 0x2028 || n == 0x2029 || n == 0x202F || n == 0x205F ||
    n == 0x3000

def trimStart (s : List Char) : List Char := s.dropWhile isBlank

/-- `s` without the characters satisfying `drop` that it ends with. -/
def trimEndWhile (drop : Char → Bool) (s : List Char) : List Char :=
  (s.reverse.dropWhile drop).reverse

def trim (s : List Char) : List Char := trimEndWhile isBlank (trimStart s)

def isAllBlank (s : List Char) : Bool := s.all isBlank

end PersonaDialogue.Text
