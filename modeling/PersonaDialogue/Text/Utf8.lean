/-!
# Offsets in bytes

A text is a list of characters; where it has to be cut at offsets counted in UTF-8 bytes, `cut` does
so and refuses an offset that lies outside the text or inside a character.
-/

namespace PersonaDialogue.Text

def byteSize : List Char → Nat
  | [] => 0
  | c :: s => c.utf8Size + byteSize s

/-- What follows the first `n` bytes, if these end with a whole character. -/
def dropBytes : List Char → Nat → Option (List Char)
  | s, 0 => some s
  | [], _ + 1 => none
  | c :: s, n + 1 => if c.utf8Size ≤ n + 1 then dropBytes s (n + 1 - c.utf8Size) else none

/-- The first `n` bytes, if these end with a whole character. -/
def takeBytes : List Char → Nat → Option (List Char)
  | _, 0 => some []
  | [], _ + 1 => none
  | c :: s, n + 1 =>
    if c.utf8Size ≤ n + 1 then (takeBytes s (n + 1 - c.utf8Size)).map (c :: ·) else none

/-- The part of `s` between two byte offsets. -/
def cut (s : List Char) (start stop : Nat) : Option (List Char) :=
  (dropBytes s start).bind (takeBytes · (stop - start))

end PersonaDialogue.Text
