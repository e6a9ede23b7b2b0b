import PersonaDialogue.Instant

/-!
# The clock

Every message and every event gets the moment at which it is noted from a clock.  A clock is the
unending row of its readings, the next one first; they may go on, stand still or go back.
-/

namespace PersonaDialogue

/-- The readings of a clock that are to come. -/
structure Clock where
  reading : Nat → Instant

namespace Clock

/-- The clock after it was read `n` times. -/
def after (k : Clock) (n : Nat) : Clock := ⟨fun i => k.reading (n + i)⟩

def still (t : Instant) : Clock := ⟨fun _ => t⟩

instance : Coe Instant Clock := ⟨still⟩

theorem after_after (k : Clock) (m n : Nat) : (k.after m).after n = k.after (m + n) := by
  simp only [after, Nat.add_assoc]

end Clock

end PersonaDialogue
