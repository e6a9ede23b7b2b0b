import PersonaDialogue.Clock
import PersonaDialogue.Command.Reply
import PersonaDialogue.Settings.Basic
import PersonaDialogue.Supply
import PersonaDialogue.Turn.Details
import PersonaDialogue.Turn.Event
import PersonaDialogue.Turn.Message

/-!
# Conversations

A conversation takes one turn at a time.  A message that is accepted starts a turn, which then waits
for its answer; while it waits, every further message is refused.  The turn ends when it is answered
or given up.  Every step says what it adds to the message log and to the journal, and each message and
event that it adds has its own reading of the clock that is given to the step.
-/

namespace PersonaDialogue

/-- A turn that waits for its answer. -/
structure Turn where
  id : Uuid
  /-- The message that started the turn, as it was written. -/
  message : String
  /-- The canvas that the turn was given. -/
  canvas : Canvas
  /-- The command that the message asks for. -/
  command : Option Command
deriving DecidableEq, Repr

inductive Refusal
  | emptyInput
  | busy
deriving DecidableEq, Repr

structure Report where
  turn : Uuid
  command : Option Command
  /-- The canvas after the command, if there was one. -/
  canvas : Option Canvas
  reply : Message
deriving DecidableEq, Repr

structure Conversation where
  settings : Settings
  supply : Supply
  /-- Is a turn under way?  This alone decides whether a message is accepted. -/
  processing : Bool
  /-- The turns that wait for their answer. -/
  waiting : List Turn
  messages : List Message
  events : List Event

namespace Conversation

def start (settings : Settings) (supply : Supply) : Conversation :=
  ⟨settings, supply, false, [], [], []⟩

def messageDetails (message : String) : Json.Value := .object [("text", .text message)]

def replyDetails (reply : Uuid) : Json.Value := .object [("reply_id", .text reply.hyphenated)]

def skipId (c : Conversation) : Conversation := { c with supply := c.supply.after 1 }

def say (c : Conversation) (now : Instant) (role : Role) (text : String) : Conversation :=
  { c.skipId with messages := c.messages ++ [⟨c.supply.next, role, text, now⟩] }

def record (c : Conversation) (now : Instant) (turn : Uuid) (kind : EventKind)
    (details : Json.Value) : Conversation :=
  { c.skipId with events := c.events ++ [⟨c.supply.next, turn, kind, now, details⟩] }

/-- Notes the command that a turn asks for, if it asks for one. -/
def detect (c : Conversation) (now : Instant) (turn : Turn) : Conversation :=
  match turn.command with
  | some command => c.record now turn.id .commandDetected (Details.detected command).toValue
  | none => c

/-- Starts a turn. -/
def accept (c : Conversation) (clock : Clock) (turn : Turn) : Conversation :=
  let c := { c.skipId with processing := true, waiting := c.waiting ++ [turn] }
  let said := c.say (clock.reading 0) .user turn.message
  let started := said.record (clock.reading 1) turn.id .turnStarted (messageDetails turn.message)
  started.detect (clock.reading 2) turn

/-- Takes a message, to be understood over a canvas: the turn that it starts, or why it starts none. -/
def submit (c : Conversation) (clock : Clock) (message : String) (canvas : Canvas) :
    Conversation × Except Refusal Turn :=
  if Text.isAllBlank message.toList then (c, .error .emptyInput)
  else if c.processing then (c, .error .busy)
  else
    let turn : Turn :=
      ⟨c.supply.next, message, canvas, Intent.command? c.settings.ageWindow message⟩
    (c.accept clock turn, .ok turn)

/-- The canvas after the command of a turn, whose new element would get the next identifier. -/
def outcome (c : Conversation) (turn : Turn) : Option Canvas :=
  turn.command.map fun command => command.apply c.settings.edits c.supply.next turn.canvas

/-- Notes what the command of a turn did, or that there was none. -/
def settle (c : Conversation) (now : Instant) (turn : Turn) : Conversation :=
  match turn.command with
  | some command =>
    let after := command.apply c.settings.edits c.supply.next turn.canvas
    c.skipId.record now turn.id .commandApplied (Details.applied command turn.canvas after).toValue
  | none => c.record now turn.id .commandUnrecognized (messageDetails turn.message)

def replyText (turn : Turn) : String := (turn.command.map Command.describe).getD noMatchReply

/-- Takes a turn off the list of those that wait. -/
def release (c : Conversation) (turn : Uuid) : Conversation :=
  { c with processing := false, waiting := c.waiting.filter fun t => t.id != turn }

/-- Answers a turn. -/
def complete (c : Conversation) (clock : Clock) (turn : Turn) : Conversation × Report :=
  let settled := c.settle (clock.reading 0) turn
  let reply : Message := ⟨settled.supply.next, .assistant, replyText turn, clock.reading 1⟩
  let said := settled.say reply.time .assistant reply.text
  let answered := said.record (clock.reading 2) turn.id .turnCompleted (replyDetails reply.id)
  (answered.release turn.id, ⟨turn.id, turn.command, c.outcome turn, reply⟩)

def waiting? (c : Conversation) (turn : Uuid) : Option Turn := c.waiting.find? fun t => t.id == turn

/-- Answers the turn with an identifier, if it waits for its answer. -/
def resume (c : Conversation) (clock : Clock) (turn : Uuid) : Option (Conversation × Report) :=
  (c.waiting? turn).map fun t => c.complete clock t

/-- Gives up the turn with an identifier, if it waits for its answer. -/
def drop (c : Conversation) (turn : Uuid) : Conversation :=
  if (c.waiting? turn).isSome then c.release turn else c

/-! ### Several steps -/

/-- How often `accept` and `complete` look at the clock, at most.  A step that comes next begins behind
that many readings. -/
def looks : Nat := 3

/-- Takes messages one after the other before any is answered. -/
def submitAll (c : Conversation) (clock : Clock) (canvas : Canvas) :
    List String → Conversation × List (Except Refusal Turn)
  | [] => (c, [])
  | message :: rest =>
    let (c, arrival) := c.submit clock message canvas
    let (c, later) := c.submitAll (clock.after looks) canvas rest
    (c, arrival :: later)

def resumeAll (c : Conversation) (clock : Clock) :
    List (Except Refusal Turn) → Conversation × List (Except Refusal Report)
  | [] => (c, [])
  | .error refusal :: rest =>
    let (c, later) := c.resumeAll clock rest
    (c, .error refusal :: later)
  | .ok turn :: rest =>
    let (c, report) := c.complete clock turn
    let (c, later) := c.resumeAll (clock.after looks) rest
    (c, .ok report :: later)

/-- Takes messages that arrive together, and then answers those that started a turn. -/
def burst (c : Conversation) (clock : Clock) (canvas : Canvas) (messages : List String) :
    Conversation × List (Except Refusal Report) :=
  let (c, arrivals) := c.submitAll clock canvas messages
  c.resumeAll (clock.after (looks * messages.length)) arrivals

end Conversation

end PersonaDialogue
