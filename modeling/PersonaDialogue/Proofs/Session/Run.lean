import PersonaDialogue.Proofs.Conversation.Step
import PersonaDialogue.Session

/-!
# Runs of a session

What may happen to a session, one thing after the other: a message is sent and answered, a turn is
started and given up, the defaults are restored, or a command is applied to the canvas directly.
`Session.run` is the session after a list of such moves.  Of a stretch of messages and abandoned turns
`Session.rounds` keeps the reports of the turns that were answered.
-/

namespace PersonaDialogue

/-- A turn that was answered: what came of it, and the identifier that stood ready for a new
element. -/
structure Round where
  fresh : Uuid
  report : Report

namespace Session

/-- What the user does in the conversation of a session. -/
inductive Talk
  | send (clock : Clock) (message : String)
  /-- A message over some canvas, whose turn is given up before it is answered. -/
  | abandon (clock : Clock) (message : String) (canvas : Canvas)

/-- What may happen to a session. -/
inductive Move
  | talk (t : Talk)
  | reset
  /-- A command is applied directly, with any settings and any identifier for a new element. -/
  | edit (settings : EditSettings) (fresh : Uuid) (command : Command)

/-- Takes a message over some canvas, and gives up the turn if it started one. -/
def abandon (s : Session) (clock : Clock) (message : String) (canvas : Canvas) : Session :=
  match s.conversation.submit clock message canvas with
  | (c, .error _) => { s with conversation := c }
  | (c, .ok turn) => { s with conversation := c.drop turn.id }

def talk (s : Session) : Talk → Session
  | .send clock message => (s.send clock message).1
  | .abandon clock message canvas => s.abandon clock message canvas

/-- The turn that is answered when the user does something, if one is: what the session reports of it,
and the identifier that stood ready when it was answered. -/
def round? (s : Session) : Talk → Option Round
  | .send clock message => (s.send clock message).2.toOption.map fun report =>
      ⟨(s.submit clock message).1.conversation.supply.next, report⟩
  | .abandon .. => none

/-- The session after a stretch of messages and abandoned turns. -/
def talkAll (s : Session) (ts : List Talk) : Session := ts.foldl talk s

/-- The turns answered in a stretch of messages and abandoned turns, in order. -/
def rounds (s : Session) : List Talk → List Round
  | [] => []
  | t :: ts => (s.round? t).toList ++ (s.talk t).rounds ts

def move (s : Session) : Move → Session
  | .talk t => s.talk t
  | .reset => s.reset
  | .edit settings fresh command => { s with canvas := command.apply settings fresh s.canvas }

def run (s : Session) (ms : List Move) : Session := ms.foldl move s

/-! ### What a message does -/

/-- A message is refused and the session stays as it is, or it starts a turn that is answered. -/
theorem send_cases (s : Session) (clock : Clock) (message : String) :
    ((∃ refusal, s.send clock message = (s, .error refusal)) ∧
        s.round? (.send clock message) = none) ∨
      let turn := s.conversation.turnFor message s.canvas
      let started : Session := ⟨s.canvas, s.conversation.accept clock turn⟩
      let answered := started.answer (clock.after Conversation.looks) turn
      s.send clock message = (answered.1, .ok answered.2) ∧
        s.round? (.send clock message) = some ⟨started.conversation.supply.next, answered.2⟩ := by
  rcases s.conversation.submit_cases clock message s.canvas with ⟨refusal, h⟩ | h
  · exact .inl ⟨⟨refusal, by simp [send, submit, h]⟩, by simp [round?, send, submit, h, Except.toOption]⟩
  · exact .inr ⟨by simp [send, submit, h], by simp [round?, send, submit, h, Except.toOption]⟩

end Session

end PersonaDialogue
