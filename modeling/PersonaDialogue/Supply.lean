import PersonaDialogue.Uuid

/-!
# A supply of identifiers

Everything that gets an identifier takes it from a supply: an unending row of identifiers of which
some number was given out.  Whoever takes one passes on the supply after it.
-/

namespace PersonaDialogue

/-- The identifiers of `stream`, of which the first `used` were given out. -/
structure Supply where
  stream : Nat → Uuid
  used : Nat

namespace Supply

def ofStream (stream : Nat → Uuid) : Supply := ⟨stream, 0⟩

def next (s : Supply) : Uuid := s.stream s.used

/-- The identifier that is given out after `n` others. -/
def ahead (s : Supply) (n : Nat) : Uuid := s.stream (s.used + n)

def after (s : Supply) (n : Nat) : Supply := { s with used := s.used + n }

end Supply

end PersonaDialogue
