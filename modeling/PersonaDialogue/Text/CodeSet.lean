/-!
# Sets of code points

A property of characters is given as a list of closed intervals of code points, in increasing order
and without overlap.  `CodeSet.has` walks the list and stops at the first interval that begins
beyond the code point asked for.
-/

namespace PersonaDialogue.Text

/-- A set of code points: closed intervals in increasing order. -/
abbrev CodeSet := List (Nat × Nat)

def CodeSet.has : CodeSet → Nat → Bool
  | [], _ => false
  | (first, last) :: later, n =>
    if n < first then false else if n ≤ last then true else has later n

end PersonaDialogue.Text
