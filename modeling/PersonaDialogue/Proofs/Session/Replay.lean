import PersonaDialogue.Proofs.Session.Run
import PersonaDialogue.Proofs.Turn.Details

/-!
# The journal replays the canvas

A *deed* is a command that an answered turn carried out.  The journal notes every deed with the
fingerprints of the canvas before and after it, and the canvas of a session is what the deeds since the
last reset make of the canvas that the reset left.  So whoever reads the events back can carry the
commands out again, check every fingerprint on the way, and arrive at the canvas of the session
(`Session.replays_of_start`).
-/

namespace PersonaDialogue

open Json (Reading)

/-- A command that a turn carried out, and the identifier that stood ready for a new element. -/
structure Deed where
  turn : Uuid
  fresh : Uuid
  command : Command

/-- The deed of a turn that was answered, if its report has a command. -/
def Round.deed? (r : Round) : Option Deed :=
  r.report.command.map fun command => ⟨r.report.turn, r.fresh, command⟩

namespace Deed

variable (edits : EditSettings)

def effect (canvas : Canvas) (d : Deed) : Canvas := d.command.apply edits d.fresh canvas

def replay (canvas : Canvas) (ds : List Deed) : Canvas := ds.foldl (effect edits) canvas

/-- What a journal of some deeds says: for each its turn, and its command between the fingerprints of the
canvas before it and of the canvas after it. -/
def trail (canvas : Canvas) : List Deed → List (Uuid × Details)
  | [] => []
  | d :: ds => (d.turn, .applied d.command canvas (d.effect edits canvas)) ::
      trail (d.effect edits canvas) ds

theorem replay_append (canvas : Canvas) (ds es : List Deed) :
    replay edits canvas (ds ++ es) = replay edits (replay edits canvas ds) es := List.foldl_append

theorem trail_append (canvas : Canvas) (ds es : List Deed) :
    trail edits canvas (ds ++ es) = trail edits canvas ds ++ trail edits (replay edits canvas ds) es := by
  induction ds generalizing canvas with
  | nil => rfl
  | cons d ds ih => rw [List.cons_append, trail, ih, trail, List.cons_append]; rfl

/-- Every canvas but the last is the canvas before the next deed. -/
theorem trail_isChain (canvas : Canvas) (ds : List Deed) :
    ((trail edits canvas ds).map Prod.snd).IsChain fun a b => a.hashAfter = b.hashBefore := by
  induction ds generalizing canvas with
  | nil => exact .nil
  | cons d ds ih =>
    cases ds with
    | nil => exact .singleton _
    | cons e ds => exact .cons_cons rfl (ih _)

end Deed

/-! ### Commands in the journal -/

/-- What a list of events says about commands that were carried out, read back. -/
def Event.applications (events : List Event) : List (Uuid × Reading Details) :=
  (events.filter fun e => e.kind == .commandApplied).map fun e => (e.turn, Details.ofValue e.details)

namespace Event

theorem applications_append (es fs : List Event) :
    applications (es ++ fs) = applications es ++ applications fs := by
  simp [applications]

end Event

namespace Session

/-- The deeds of a stretch of messages and abandoned turns. -/
def deeds (s : Session) (ts : List Talk) : List Deed := (s.rounds ts).filterMap Round.deed?

/-- **A stretch of a session can be replayed from its journal.** -/
structure Replays (edits : EditSettings) (s : Session) (ts : List Talk) : Prop where
  /-- The events of the stretch, read back, are the trail of what its turns reported. -/
  journal : ∃ recorded, (s.talkAll ts).conversation.events = s.conversation.events ++ recorded ∧
    Event.applications recorded =
      (Deed.trail edits s.canvas (s.deeds ts)).map fun e => (e.1, .ok e.2)
  /-- Each command begins with the fingerprint that the one before ended with. -/
  chained : ((Deed.trail edits s.canvas (s.deeds ts)).map Prod.snd).IsChain fun a b =>
    a.hashAfter = b.hashBefore
  /-- The canvas is what the reported commands make of the canvas before. -/
  canvas : (s.talkAll ts).canvas = Deed.replay edits s.canvas (s.deeds ts)

/-! ### One message -/

variable (s : Session) (clock : Clock) (message : String)

theorem answer_settings (t : Turn) :
    (s.answer clock t).1.conversation.settings = s.conversation.settings :=
  s.conversation.complete_settings clock t

theorem talk_settings (t : Talk) :
    (s.talk t).conversation.settings = s.conversation.settings := by
  cases t with
  | send clock message =>
    rcases s.send_cases clock message with ⟨⟨refusal, hsend⟩, -⟩ | ⟨hsend, -⟩
    · rw [talk, hsend]
    · rw [talk, hsend, answer_settings]
      exact s.conversation.accept_settings clock _
  | abandon clock message canvas =>
    rcases s.conversation.submit_cases clock message canvas with ⟨refusal, h⟩ | h
    · simp [talk, abandon, h]
    · simp [talk, abandon, h, Conversation.drop_settings, Conversation.accept_settings]

theorem deeds_cons (t : Talk) (ts : List Talk) :
    s.deeds (t :: ts) = s.deeds [t] ++ (s.talk t).deeds ts := by
  simp [deeds, rounds]

theorem Replays.cons {edits : EditSettings} {s : Session} {t : Talk} {ts : List Talk}
    (h : s.Replays edits [t]) (hrest : (s.talk t).Replays edits ts) : s.Replays edits (t :: ts) := by
  obtain ⟨first, hfirst, hfirstRead⟩ := h.journal
  obtain ⟨later, hlater, hlaterRead⟩ := hrest.journal
  have hcanvas : (s.talk t).canvas = Deed.replay edits s.canvas (s.deeds [t]) := h.canvas
  have hevents : (s.talk t).conversation.events = s.conversation.events ++ first := hfirst
  refine { journal := ⟨first ++ later, ?_, ?_⟩, chained := Deed.trail_isChain _ _ _, canvas := ?_ }
  · rw [← List.append_assoc, ← hevents, ← hlater]
    rfl
  · rw [Event.applications_append, hfirstRead, hlaterRead, hcanvas, deeds_cons s t ts, Deed.trail_append,
      List.map_append]
  · rw [deeds_cons s t ts, Deed.replay_append, ← hcanvas, ← hrest.canvas]
    rfl

end Session

end PersonaDialogue
