import PersonaDialogue.Canvas.Codec
import PersonaDialogue.Command.Codec

/-!
# What the journal says about a command

When a command is detected the journal notes it alone; when it was applied, the fingerprints of the
canvas before and after as well.  Equal fingerprints mean that the command changed nothing.
-/

namespace PersonaDialogue

open Json

/-- A command, and the fingerprints of the canvas around it once it was applied. -/
structure Details where
  command : Command
  hashBefore : Option String
  hashAfter : Option String
deriving DecidableEq, Repr

namespace Details

def detected (c : Command) : Details := ⟨c, none, none⟩

def applied (c : Command) (before after : Canvas) : Details :=
  ⟨c, some before.fingerprint, some after.fingerprint⟩

/-- Did the command leave the canvas as it was? -/
def isNoop (d : Details) : Bool := d.hashBefore.isSome && d.hashBefore == d.hashAfter

/-- Details as an object; an absent fingerprint is null. -/
def toJson (d : Details) : Value :=
  .object [("command", d.command.toJson), ("hash_before", .ofText? d.hashBefore),
    ("hash_after", .ofText? d.hashAfter)]

def fields : Fields (Command × Option String × Option String × Unit) :=
  .field "command" Command.decode .required <|
  .field "hash_before" (decodeOption decodeText) (.inObject none) <|
  .field "hash_after" (decodeOption decodeText) (.inObject none) .nil

def decode : Decoder Details := fun depth v => do
  let (command, before, after, ()) ← fields.decode "struct CommandEventDetails" depth v
  return ⟨command, before, after⟩

/-- Details as the journal holds them. -/
def toValue (d : Details) : Value := d.toJson.canonical

/-- The details that a value of the journal stands for. -/
def ofValue (v : Value) : Reading Details := Json.read decode v.compact

end Details

end PersonaDialogue
