import PersonaDialogue.Canvas.Default
import PersonaDialogue.Conversation
import PersonaDialogue.Turn.Log

/-!
# Sessions

A session owns a canvas and a conversation about it.  A turn is given the canvas as it is, and the
canvas that the turn hands back becomes the canvas of the session.  A `Desk` is a session with the
disk to which the events of its conversation are logged.
-/

namespace PersonaDialogue

/-- A canvas and the conversation about it. -/
structure Session where
  canvas : Canvas
  conversation : Conversation

namespace Session

def startWith (settings : Settings) (supply : Supply) (canvas : Canvas) : Session :=
  ⟨canvas, .start settings supply⟩

def start (settings : Settings) (supply : Supply) : Session :=
  startWith settings (supply.after Canvas.defaultSize) (.default supply.ahead)

/-- Restores the default canvas, with new elements; the conversation goes on. -/
def reset (s : Session) : Session :=
  let supply := s.conversation.supply
  ⟨.default supply.ahead, { s.conversation with supply := supply.after Canvas.defaultSize }⟩

def submit (s : Session) (clock : Clock) (message : String) : Session × Except Refusal Turn :=
  let (c, arrival) := s.conversation.submit clock message s.canvas
  ({ s with conversation := c }, arrival)

/-- Answers a turn, and keeps the canvas that it hands back. -/
def answer (s : Session) (clock : Clock) (turn : Turn) : Session × Report :=
  let (c, report) := s.conversation.complete clock turn
  (⟨report.canvas.getD s.canvas, c⟩, report)

def send (s : Session) (clock : Clock) (message : String) : Session × Except Refusal Report :=
  match s.submit clock message with
  | (s, .error refusal) => (s, .error refusal)
  | (s, .ok turn) =>
    let (s, report) := s.answer (clock.after Conversation.looks) turn
    (s, .ok report)

/-- Takes messages that arrive together; the canvas stays as it is. -/
def burst (s : Session) (clock : Clock) (messages : List String) :
    Session × List (Except Refusal Report) :=
  let (c, outcomes) := s.conversation.burst clock s.canvas messages
  ({ s with conversation := c }, outcomes)

def drop (s : Session) (turn : Turn) : Session :=
  { s with conversation := s.conversation.drop turn.id }

end Session

structure Desk where
  disk : Disk
  session : Session

namespace Desk

/-- The events that a session recorded since it was another. -/
def recordedSince (before after : Session) : List Event :=
  after.conversation.events.drop before.conversation.events.length

/-- Goes on with a later state of the session, and logs the events that it recorded. -/
def advance (d : Desk) (s : Session) : Desk :=
  match d.session.conversation.settings.eventLog with
  | some path => ⟨d.disk.writeEvents path (recordedSince d.session s), s⟩
  | none => { d with session := s }

def send (d : Desk) (clock : Clock) (message : String) : Desk × Except Refusal Report :=
  let (s, outcome) := d.session.send clock message
  (d.advance s, outcome)

def burst (d : Desk) (clock : Clock) (messages : List String) :
    Desk × List (Except Refusal Report) :=
  let (s, outcomes) := d.session.burst clock messages
  (d.advance s, outcomes)

def submit (d : Desk) (clock : Clock) (message : String) : Desk × Except Refusal Turn :=
  let (s, arrival) := d.session.submit clock message
  (d.advance s, arrival)

def answer (d : Desk) (clock : Clock) (turn : Turn) : Desk × Report :=
  let (s, report) := d.session.answer clock turn
  (d.advance s, report)

def drop (d : Desk) (turn : Turn) : Desk := d.advance (d.session.drop turn)

/-- Restores the default canvas. -/
def reset (d : Desk) : Desk := d.advance d.session.reset

end Desk

end PersonaDialogue
