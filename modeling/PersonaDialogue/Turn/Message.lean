import PersonaDialogue.Instant
import PersonaDialogue.Uuid

/-!
# Messages

The message log holds what the user wrote, as it was written, and what was answered.
-/

namespace PersonaDialogue

inductive Role
  | user
  | assistant
deriving DecidableEq, Repr

namespace Role

def label : Role → String
  | user => "user"
  | assistant => "assistant"

/-- How a transcript names the speaker. -/
def speaker : Role → String
  | user => "User"
  | assistant => "Assistant"

end Role

/-- An entry of the message log. -/
structure Message where
  id : Uuid
  role : Role
  text : String
  time : Instant
deriving DecidableEq, Repr

def Message.transcript (m : Message) : String :=
  "[" ++ m.time.clock ++ "] " ++ m.role.speaker ++ ": " ++ m.text

end PersonaDialogue
