import PersonaDialogue.Proofs.Conversation.Lasting
import PersonaDialogue.Proofs.Conversation.OneTurn
import PersonaDialogue.Proofs.Turn.Log

/-!
# The log mirrors the journal

A session whose log begins with nothing finds all events of its journal in the log at any time, as they
are: whatever is said, answered, refused and given up (`Desk.Mirrors`).  In the other direction nothing
flows: the disk and the log have no part in what a session answers and becomes, so a log that cannot be
written is as good as none.
-/

namespace PersonaDialogue

/-- What may be done at a desk: all that a session offers, and all that may happen to its conversation
while a turn waits. -/
inductive Act
  | send (clock : Clock) (message : String)
  | burst (clock : Clock) (messages : List String)
  | reset
  | happen (e : Happening)

/-- What is told of an act. -/
inductive Told
  | answer (outcome : Except Refusal Report)
  | answers (outcomes : List (Except Refusal Report))
  | arrival (arrival : Except Refusal Turn)
  | ending (report : Option Report)
  | nothing

/-- Is something done by a clock that shows proper instants? -/
def Act.timely : Act → Prop
  | .send clock _ => clock.Proper
  | .burst clock _ => clock.Proper
  | .reset => True
  | .happen e => e.timely

/-- What is told when something happens to a conversation. -/
def Conversation.tell (c : Conversation) : Happening → Told
  | .submit clock message canvas => .arrival (c.submit clock message canvas).2
  | .resume clock turn => .ending ((c.resume clock turn).map Prod.snd)
  | .drop _ => .nothing

namespace Desk

def act (d : Desk) : Act → Desk × Told
  | .send clock message => ((d.send clock message).1, .answer (d.send clock message).2)
  | .burst clock messages => ((d.burst clock messages).1, .answers (d.burst clock messages).2)
  | .reset => (d.reset, .nothing)
  | .happen e => (d.happen e, d.session.conversation.tell e)

/-- Does one thing after the other, and keeps what is told. -/
def actAll (d : Desk) : List Act → Desk × List Told
  | [] => (d, [])
  | a :: rest => (((d.act a).1.actAll rest).1, (d.act a).2 :: ((d.act a).1.actAll rest).2)

end Desk

/-! ### Without a disk -/

namespace Session

def act (s : Session) : Act → Session × Told
  | .send clock message => ((s.send clock message).1, .answer (s.send clock message).2)
  | .burst clock messages => ((s.burst clock messages).1, .answers (s.burst clock messages).2)
  | .reset => (s.reset, .nothing)
  | .happen e => ({ s with conversation := s.conversation.happen e }, s.conversation.tell e)

def actAll (s : Session) : List Act → Session × List Told
  | [] => (s, [])
  | a :: rest => (((s.act a).1.actAll rest).1, (s.act a).2 :: ((s.act a).1.actAll rest).2)

theorem act_follows {s : Session} (h : s.conversation.Lasting) {a : Act} (ha : a.timely) :
    s.conversation.Follows (s.act a).1.conversation := by
  cases a with
  | send clock message =>
    obtain ⟨hsubmitted, hruled⟩ := Conversation.submit_follows h ha message s.canvas
    rw [act, send, submit]
    cases hsubmit : s.conversation.submit clock message s.canvas with
    | mk c arrival =>
      rw [hsubmit] at hsubmitted hruled
      cases arrival with
      | error refusal => exact hsubmitted
      | ok turn =>
        exact hsubmitted.trans
          (Conversation.complete_follows hsubmitted.lasting (ha.after _) (hruled turn rfl))
  | burst clock messages => exact Conversation.burst_follows h ha s.canvas messages
  | reset => exact ⟨rfl, List.prefix_rfl, h.events, h.waiting⟩
  | happen e => exact Conversation.happen_follows h ha

end Session

namespace Desk

/-- An act is done to the session, and then what it recorded is logged. -/
theorem act_eq (d : Desk) (a : Act) : d.act a = (d.advance (d.session.act a).1, (d.session.act a).2) := by
  cases a <;> rfl

theorem actAll_eq (d : Desk) (as : List Act) :
    (d.actAll as).1.session = (d.session.actAll as).1 ∧ (d.actAll as).2 = (d.session.actAll as).2 := by
  induction as generalizing d with
  | nil => exact ⟨rfl, rfl⟩
  | cons a rest ih =>
    obtain ⟨hsession, htold⟩ := ih (d.act a).1
    rw [act_eq, advance_session] at hsession htold
    refine ⟨?_, ?_⟩
    · rw [actAll, Session.actAll, act_eq, hsession]
    · rw [actAll, Session.actAll, act_eq, htold]

/-! ### The log -/

/-- The log of a desk is at a path and holds the journal, which can be read back from it. -/
structure Mirrors (d : Desk) (path : String) : Prop where
  eventLog : d.session.conversation.settings.eventLog = some path
  logs : d.disk.Logs path d.session.conversation.events
  lasting : d.session.conversation.Lasting

theorem Mirrors.advance {d : Desk} {path : String} (h : d.Mirrors path) {s : Session}
    (hs : d.session.conversation.Follows s.conversation) : (d.advance s).Mirrors path := by
  obtain ⟨new, hnew⟩ := hs.events
  have hrecorded : recordedSince d.session s = new := by
    rw [recordedSince, ← hnew, List.drop_left]
  have hadvance : d.advance s = ⟨d.disk.writeEvents path new, s⟩ := by
    rw [Desk.advance, h.eventLog, hrecorded]
  have hlogs := h.logs.writeEvents new
  rw [hadvance]
  exact ⟨hs.settings ▸ h.eventLog, hnew ▸ hlogs, hs.lasting⟩

theorem Mirrors.act {d : Desk} {path : String} (h : d.Mirrors path) {a : Act} (ha : a.timely) :
    (d.act a).1.Mirrors path := by
  rw [act_eq]
  exact h.advance (Session.act_follows h.lasting ha)

theorem Mirrors.actAll {d : Desk} {path : String} (h : d.Mirrors path) {as : List Act}
    (hall : ∀ a ∈ as, a.timely) : (d.actAll as).1.Mirrors path := by
  induction as generalizing d with
  | nil => exact h
  | cons a rest ih =>
    have hfirst := h.act (hall a List.mem_cons_self)
    exact ih hfirst fun b hb => hall b (List.mem_cons_of_mem _ hb)

theorem Mirrors.readLog {d : Desk} {path : String} (h : d.Mirrors path) :
    d.disk.readLog path = .ok d.session.conversation.events :=
  h.logs.readLog h.lasting.events

end Desk

/-! ### No log -/

/-- The same settings without a log. -/
def Settings.quiet (s : Settings) : Settings := { s with eventLog := none }

namespace Conversation

def quiet (c : Conversation) : Conversation := { c with settings := c.settings.quiet }

variable (c : Conversation) (clock : Clock)

theorem accept_quiet (t : Turn) : c.quiet.accept clock t = (c.accept clock t).quiet := by
  simp only [accept, detect]
  cases t.command <;> rfl

theorem submit_quiet (message : String) (canvas : Canvas) :
    c.quiet.submit clock message canvas =
      ((c.submit clock message canvas).1.quiet, (c.submit clock message canvas).2) := by
  cases hblank : Text.isAllBlank message.toList with
  | true => rw [submit_blank _ clock hblank, submit_blank _ clock hblank]
  | false =>
    cases hbusy : c.processing with
    | true => rw [submit_busy _ clock hblank hbusy, submit_busy c.quiet clock hblank hbusy]
    | false =>
      rw [submit_idle _ clock hblank hbusy, submit_idle c.quiet clock hblank hbusy, accept_quiet]
      rfl

theorem settle_quiet (now : Instant) (t : Turn) : c.quiet.settle now t = (c.settle now t).quiet := by
  unfold settle
  cases t.command <;> rfl

theorem complete_quiet (t : Turn) :
    c.quiet.complete clock t = ((c.complete clock t).1.quiet, (c.complete clock t).2) := by
  rw [complete, settle_quiet]
  rfl

theorem resume_quiet (turn : Uuid) :
    c.quiet.resume clock turn = (c.resume clock turn).map fun r => (r.1.quiet, r.2) := by
  have hwaits : c.quiet.waiting? turn = c.waiting? turn := rfl
  rw [resume, resume, hwaits]
  cases c.waiting? turn with
  | none => rfl
  | some t => rw [Option.map_some, Option.map_some, Option.map_some, complete_quiet]

theorem drop_quiet (turn : Uuid) : c.quiet.drop turn = (c.drop turn).quiet := by
  have hwaits : c.quiet.waiting? turn = c.waiting? turn := rfl
  rw [drop, drop, hwaits]
  split <;> rfl

theorem happen_quiet (e : Happening) :
    c.quiet.happen e = (c.happen e).quiet ∧ c.quiet.tell e = c.tell e := by
  cases e with
  | submit clock message canvas =>
    rw [happen, happen, tell, tell, submit_quiet]
    exact ⟨rfl, rfl⟩
  | resume clock turn =>
    rw [happen, happen, tell, tell, resume_quiet]
    cases c.resume clock turn <;> exact ⟨rfl, rfl⟩
  | drop turn => exact ⟨c.drop_quiet turn, rfl⟩

theorem submitAll_quiet (canvas : Canvas) (messages : List String) :
    c.quiet.submitAll clock canvas messages =
      ((c.submitAll clock canvas messages).1.quiet, (c.submitAll clock canvas messages).2) := by
  induction messages generalizing c clock with
  | nil => rfl
  | cons message rest ih => simp only [submitAll, submit_quiet, ih]

theorem resumeAll_quiet (arrivals : List (Except Refusal Turn)) :
    c.quiet.resumeAll clock arrivals =
      ((c.resumeAll clock arrivals).1.quiet, (c.resumeAll clock arrivals).2) := by
  induction arrivals generalizing c clock with
  | nil => rfl
  | cons arrival rest ih =>
    cases arrival with
    | error refusal => rw [resumeAll, ih, resumeAll]
    | ok turn => simp only [resumeAll, complete_quiet, ih]

theorem burst_quiet (canvas : Canvas) (messages : List String) :
    c.quiet.burst clock canvas messages =
      ((c.burst clock canvas messages).1.quiet, (c.burst clock canvas messages).2) := by
  simp only [burst, submitAll_quiet, resumeAll_quiet]

end Conversation

namespace Session

def quiet (s : Session) : Session := { s with conversation := s.conversation.quiet }

theorem act_quiet (s : Session) (a : Act) : s.quiet.act a = ((s.act a).1.quiet, (s.act a).2) := by
  cases a with
  | send clock message =>
    rw [act, act, send, send, submit, submit]
    simp only [quiet, Conversation.submit_quiet]
    cases (s.conversation.submit clock message s.canvas).2 with
    | error refusal => rfl
    | ok turn => simp only [answer, Conversation.complete_quiet]
  | burst clock messages =>
    have hburst := s.conversation.burst_quiet clock s.canvas messages
    simp only [act, burst, quiet, hburst]
  | reset => rfl
  | happen e =>
    obtain ⟨hhappen, htell⟩ := s.conversation.happen_quiet e
    simp only [act, quiet, hhappen, htell]

theorem actAll_quiet (s : Session) (as : List Act) :
    s.quiet.actAll as = ((s.actAll as).1.quiet, (s.actAll as).2) := by
  induction as generalizing s with
  | nil => rfl
  | cons a rest ih => rw [actAll, act_quiet, actAll, ih]

end Session

/-! ### Runs -/

namespace Desk

theorem start_mirrors {disk : Disk} {settings : Settings} {path : String}
    (hlog : settings.eventLog = some path) (hdisk : disk.Awaits path) (supply : Supply) (canvas : Canvas) :
    (Desk.mk disk (.startWith settings supply canvas)).Mirrors path :=
  ⟨hlog, .inl ⟨rfl, hdisk⟩, Conversation.start_lasting settings supply⟩

/-- On any disk a session is told and becomes what it would without a log on any other. -/
theorem actAll_quiet (disk other : Disk) (s : Session) (as : List Act) :
    ((Desk.mk other s.quiet).actAll as).1.session = ((Desk.mk disk s).actAll as).1.session.quiet ∧
      ((Desk.mk other s.quiet).actAll as).2 = ((Desk.mk disk s).actAll as).2 := by
  obtain ⟨hsession, htold⟩ := actAll_eq (Desk.mk disk s) as
  obtain ⟨hquiet, hquietTold⟩ := actAll_eq (Desk.mk other s.quiet) as
  have hsame := s.actAll_quiet as
  exact ⟨by rw [hquiet, hsame, hsession], by rw [hquietTold, hsame, htold]⟩

/-- **The log is the journal, and nothing depends on it.**  A log that is not there at first, and can be
written, is read as the journal whenever the session stops.  Whether it can be written or not, all that
is told, the canvas, the messages and the journal are those of the same session without a log. -/
theorem log_mirrors_journal (disk : Disk) (settings : Settings) (supply : Supply) (canvas : Canvas)
    (acts : List Act) :
    let d := (Desk.mk disk (.startWith settings supply canvas)).actAll acts
    (∀ path, settings.eventLog = some path → disk.Awaits path → (∀ a ∈ acts, a.timely) →
      d.1.disk.readLog path = .ok d.1.session.conversation.events) ∧
    ∀ other : Disk,
      let quiet := (Desk.mk other (.startWith settings.quiet supply canvas)).actAll acts
      d.2 = quiet.2 ∧ d.1.session.canvas = quiet.1.session.canvas ∧
        d.1.session.conversation.messages = quiet.1.session.conversation.messages ∧
        d.1.session.conversation.events = quiet.1.session.conversation.events := by
  intro d
  refine ⟨fun path hlog hdisk hall => ?_, fun other => ?_⟩
  · exact ((start_mirrors hlog hdisk supply canvas).actAll hall).readLog
  · obtain ⟨hsession, htold⟩ := actAll_quiet disk other (.startWith settings supply canvas) acts
    have hcanvas := congrArg Session.canvas hsession
    have hmessages := congrArg (fun s => s.conversation.messages) hsession
    have hevents := congrArg (fun s => s.conversation.events) hsession
    exact ⟨htold.symm, hcanvas.symm, hmessages.symm, hevents.symm⟩

/-- The clock goes on by a second with every reading, and the last turn falls into an inserted second.  A
folder on the way is missing, the texts have line breaks, quotes and controls in them, one turn is given
up, and one message is refused while it waits. -/
theorem log_mirrors_journal_mixed :
    let disk := Disk.withFolders ["desk"]
    let settings : Settings := { Settings.default with eventLog := some "logs/turns.jsonl" }
    let supply := Supply.ofStream fun n => ⟨BitVec.ofNat 128 n⟩
    let canvas := Canvas.default supply.ahead
    let clock : Clock := ⟨fun n => ⟨⟨2024, 2, 29⟩, 23, 59, n % 60, 120000000⟩⟩
    let acts : List Act := [.send clock "add pain point \"two\\\tparts\"",
      .happen (.submit clock "a\r\n\nb\u0000" canvas), .send clock "make it younger",
      .happen (.drop ⟨8⟩), .reset, .send (.still ⟨⟨2016, 12, 31⟩, 23, 59, 59, 1500000000⟩) "\nset age to 18-30\n"]
    let d := (Desk.mk disk (.startWith settings supply canvas)).actAll acts
    d.1.disk.readLog "logs/turns.jsonl" = .ok d.1.session.conversation.events ∧
      d.1.session.conversation.events.length = 9 := by
  intro disk settings supply canvas clock acts d
  have hawaits : disk.Awaits "logs/turns.jsonl" := ⟨_, rfl, by decide +kernel, by decide +kernel⟩
  have hday : (⟨2024, 2, 29⟩ : Date).isValid = true := by decide
  have hclock : clock.Proper := fun n =>
    ⟨hday, (by decide : 23 < 24), (by decide : 59 < 60), Nat.mod_lt n (by decide),
      .inl (by decide : 120000000 < 1000000000)⟩
  have hinserted : (⟨⟨2016, 12, 31⟩, 23, 59, 59, 1500000000⟩ : Instant).Proper :=
    ⟨by decide, by decide, by decide, by decide, .inr ⟨rfl, by decide⟩⟩
  have htimely : ∀ a ∈ acts, a.timely := by
    intro a ha
    simp only [acts, List.mem_cons, List.not_mem_nil, or_false] at ha
    rcases ha with rfl | rfl | rfl | rfl | rfl | rfl
    · exact hclock
    · exact hclock
    · exact hclock
    · exact trivial
    · exact trivial
    · exact Clock.still_proper hinserted
  have hmirrors := log_mirrors_journal disk settings supply canvas acts
  have hread := hmirrors.1 "logs/turns.jsonl" rfl hawaits htimely
  have hlength : d.1.session.conversation.events.length = 9 := by decide +kernel
  refine ⟨?_, hlength⟩
  simp only [d]
  exact hread

end Desk

end PersonaDialogue
