/-!
# Lines

A line ends at a line feed, and a carriage return right before that line feed belongs to the ending.
A last line without a line feed is a line too, and keeps a carriage return at its end; nothing
follows the last line feed.
-/

namespace PersonaDialogue.Text

/-- Drops one carriage return at the head of a reversed line. -/
def dropReturn : List Char → List Char
  | '\r' :: line => line
  | line => line

/-- The lines of a text of which `line`, reversed, was read already. -/
def linesAfter (line : List Char) : List Char → List (List Char)
  | [] => if line.isEmpty then [] else [line.reverse]
  | c :: s =>
    if c = '\n' then (dropReturn line).reverse :: linesAfter [] s else linesAfter (c :: line) s

/-- The lines of a text, without their endings. -/
def lines (s : List Char) : List (List Char) := linesAfter [] s

/-- The pieces of a byte string that a line feed ends, and what is left after the last of them. -/
def byteLinesAfter (line : List UInt8) : List UInt8 → List (List UInt8 × Bool)
  | [] => if line.isEmpty then [] else [(line.reverse, false)]
  | b :: s => if b = 10 then (line.reverse, true) :: byteLinesAfter [] s else byteLinesAfter (b :: line) s

/-- A line of bytes as text; `none` if it is not UTF-8.  The flag tells that a line feed ended it. -/
def decodeLine : List UInt8 × Bool → Option String
  | (bytes, ended) =>
    let kept := if ended && bytes.getLast? == some 13 then bytes.dropLast else bytes
    String.fromUTF8? (ByteArray.mk kept.toArray)

/-- The lines of a byte stream, each read as UTF-8 on its own. -/
def streamLines (s : List UInt8) : List (Option String) := (byteLinesAfter [] s).map decodeLine

end PersonaDialogue.Text
