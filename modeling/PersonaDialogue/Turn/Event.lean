import PersonaDialogue.Instant
import PersonaDialogue.Json.Record
import PersonaDialogue.Uuid

/-!
# Events

The journal of a conversation is a list of events, each with an identifier of its own, the turn it
belongs to, its kind, its time and details in JSON.  An event is written as one line of JSON.
-/

namespace PersonaDialogue

open Json

inductive EventKind
  | turnStarted
  | commandDetected
  | commandApplied
  | commandUnrecognized
  | turnCompleted
deriving DecidableEq, Repr

namespace EventKind

def label : EventKind → String
  | turnStarted => "turn_started"
  | commandDetected => "command_detected"
  | commandApplied => "command_applied"
  | commandUnrecognized => "command_unrecognized"
  | turnCompleted => "turn_completed"

def table : List (String × EventKind) :=
  [("turn_started", turnStarted), ("command_detected", commandDetected),
    ("command_applied", commandApplied), ("command_unrecognized", commandUnrecognized),
    ("turn_completed", turnCompleted)]

end EventKind

structure Event where
  id : Uuid
  turn : Uuid
  kind : EventKind
  time : Instant
  details : Value
deriving Repr

namespace Event

def toJson (e : Event) : Value :=
  .object [("event_id", .text e.id.hyphenated), ("turn_id", .text e.turn.hyphenated),
    ("event_type", .text e.kind.label), ("timestamp", .text e.time.text), ("details", e.details)]

/-- Any value, in the form in which an event holds it. -/
def decodeDetails : Decoder Value := fun depth v => do return (← decodeValue depth v).canonical

def fields : Fields (Uuid × Uuid × EventKind × Instant × Value × Unit) :=
  .field "event_id" Uuid.decode .required <| .field "turn_id" Uuid.decode .required <|
  .field "event_type" (decodeVariant EventKind.table) .required <|
  .field "timestamp" Instant.decode .required <|
  .field "details" decodeDetails .required .nil

def decode : Decoder Event := fun depth v => do
  let (id, turn, kind, time, details, ()) ← fields.decode "struct TurnEvent" depth v
  return ⟨id, turn, kind, time, details⟩

def toLine (e : Event) : String := e.toJson.compact

def ofLine (line : String) : Reading Event := Json.read decode line

end Event

end PersonaDialogue
