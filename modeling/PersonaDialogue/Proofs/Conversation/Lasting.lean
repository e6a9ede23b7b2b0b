import PersonaDialogue.Proofs.Conversation.Step
import PersonaDialogue.Proofs.Turn.Event

/-!
# The journal of a conversation lasts

Whatever happens to a conversation, it only adds to the journal, and what it adds can be read back from
a log: the details are held as they will be read, since a turn that waits has no command but one that a
rule gave.  `Conversation.Follows` says so of a step, and steps go together.
-/

namespace PersonaDialogue

open Json.Value (settled_object settled_text)

/-- Is the command of a turn, if there is one, a command that a rule may give? -/
def Turn.Ruled (t : Turn) : Prop := ∀ command ∈ t.command, command.confidence ∈ Intent.confidences

/-- Does a clock show instants of the calendar and the clock only? -/
def Clock.Proper (k : Clock) : Prop := ∀ n, (k.reading n).Proper

theorem Clock.still_proper {t : Instant} (h : t.Proper) : (Clock.still t).Proper := fun _ => h

theorem Clock.Proper.after {k : Clock} (h : k.Proper) (n : Nat) : (k.after n).Proper :=
  fun i => h (n + i)

/-- Does something happen by a clock that shows proper instants? -/
def Happening.timely : Happening → Prop
  | .submit clock _ _ => clock.Proper
  | .resume clock _ => clock.Proper
  | .drop _ => True

namespace Conversation

/-- The journal can be read back from a log, and goes on being so. -/
structure Lasting (c : Conversation) : Prop where
  events : ∀ e ∈ c.events, e.Lasting
  waiting : ∀ t ∈ c.waiting, t.Ruled

/-- Another conversation has the settings of this one, its journal goes on from the journal of this one,
and it lasts. -/
structure Follows (c c' : Conversation) : Prop where
  settings : c'.settings = c.settings
  events : c.events <+: c'.events
  lasting : c'.Lasting

variable {c c₁ c₂ : Conversation}

theorem start_lasting (settings : Settings) (supply : Supply) : (start settings supply).Lasting :=
  ⟨by simp [start], by simp [start]⟩

theorem Follows.refl (h : c.Lasting) : c.Follows c := ⟨rfl, List.prefix_rfl, h⟩

theorem Follows.trans (h₁ : c.Follows c₁) (h₂ : c₁.Follows c₂) : c.Follows c₂ :=
  ⟨h₂.settings.trans h₁.settings, h₁.events.trans h₂.events, h₂.lasting⟩

/-! ### Parts of a step -/

theorem textObject_settled (key s : String) : (Json.Value.object [(key, .text s)]).Settled 1 := by
  have hsettled : (Json.Value.object [(key, .text s)]).canonical.Settled 1 := by
    refine settled_object (by omega) fun m hm => ?_
    obtain rfl := List.mem_singleton.1 hm
    exact settled_text _ _
  exact hsettled

theorem messageDetails_settled (message : String) : (messageDetails message).Settled 1 :=
  textObject_settled "text" message

theorem replyDetails_settled (reply : Uuid) : (replyDetails reply).Settled 1 :=
  textObject_settled "reply_id" reply.hyphenated

theorem turnFor_ruled (c : Conversation) (message : String) (canvas : Canvas) :
    (c.turnFor message canvas).Ruled :=
  fun _ hcommand => Intent.command?_confidence hcommand

section Parts

variable (h : c.Lasting) {now : Instant} (hnow : now.Proper) {t : Turn} (ht : t.Ruled)
include h

theorem skipId_follows : c.Follows c.skipId := ⟨rfl, List.prefix_rfl, h.events, h.waiting⟩

theorem say_follows (now : Instant) (role : Role) (text : String) : c.Follows (c.say now role text) :=
  ⟨rfl, List.prefix_rfl, h.events, h.waiting⟩

theorem release_follows (turn : Uuid) : c.Follows (c.release turn) :=
  ⟨rfl, List.prefix_rfl, h.events, fun t ht => h.waiting t (List.mem_filter.1 ht).1⟩

include ht in
theorem await_follows :
    c.Follows { c.skipId with processing := true, waiting := c.waiting ++ [t] } := by
  refine ⟨rfl, List.prefix_rfl, h.events, fun u hu => ?_⟩
  rcases List.mem_append.1 hu with hu | hu
  · exact h.waiting u hu
  · rwa [List.mem_singleton.1 hu]

include hnow in
theorem record_follows (turn : Uuid) (kind : EventKind) {details : Json.Value} (hd : details.Settled 1) :
    c.Follows (c.record now turn kind details) := by
  refine ⟨rfl, List.prefix_append _ _, fun e he => ?_, h.waiting⟩
  rcases List.mem_append.1 he with he | he
  · exact h.events e he
  · rw [List.mem_singleton.1 he]
    exact ⟨hnow, hd⟩

include hnow ht in
theorem detect_follows : c.Follows (c.detect now t) := by
  unfold detect
  cases hcommand : t.command with
  | none => exact .refl h
  | some command =>
    have hconfidence : command.confidence ∈ Intent.confidences := ht command hcommand
    exact record_follows h hnow _ _ (Details.settled_toValue (by omega) hconfidence)

include hnow ht in
theorem settle_follows : c.Follows (c.settle now t) := by
  unfold settle
  cases hcommand : t.command with
  | none => exact record_follows h hnow _ _ (messageDetails_settled t.message)
  | some command =>
    have hconfidence : command.confidence ∈ Intent.confidences := ht command hcommand
    have hskipped := skipId_follows h
    exact hskipped.trans
      (record_follows hskipped.lasting hnow _ _ (Details.settled_toValue (by omega) hconfidence))

end Parts

/-! ### Steps -/

section Steps

variable (h : c.Lasting) {clock : Clock} (hclock : clock.Proper) {t : Turn} (ht : t.Ruled)
include h hclock

include ht in
theorem accept_follows : c.Follows (c.accept clock t) := by
  have hwaits := await_follows h ht
  have hsaid := hwaits.trans (say_follows hwaits.lasting (clock.reading 0) .user t.message)
  have hstarted := hsaid.trans
    (record_follows hsaid.lasting (hclock 1) t.id .turnStarted (messageDetails_settled t.message))
  exact hstarted.trans (detect_follows hstarted.lasting (hclock 2) ht)

theorem submit_follows (message : String) (canvas : Canvas) :
    c.Follows (c.submit clock message canvas).1 ∧
      ∀ turn, (c.submit clock message canvas).2 = .ok turn → turn.Ruled := by
  rcases c.submit_cases clock message canvas with ⟨refusal, hsubmit⟩ | hsubmit
  · rw [hsubmit]
    exact ⟨.refl h, fun turn hturn => by cases hturn⟩
  · rw [hsubmit]
    have hruled := c.turnFor_ruled message canvas
    exact ⟨accept_follows h hclock hruled, fun turn hturn => Except.ok.inj hturn ▸ hruled⟩

include ht in
theorem complete_follows : c.Follows (c.complete clock t).1 := by
  have hsettled := settle_follows h (hclock 0) ht
  have hsaid := hsettled.trans
    (say_follows hsettled.lasting (clock.reading 1) .assistant (replyText t))
  have hended := hsaid.trans (record_follows hsaid.lasting (hclock 2) t.id .turnCompleted
    (replyDetails_settled (c.settle (clock.reading 0) t).supply.next))
  exact hended.trans (release_follows hended.lasting t.id)

end Steps

/-! ### What happens to a conversation -/

theorem happen_follows (h : c.Lasting) {e : Happening} (he : e.timely) : c.Follows (c.happen e) := by
  cases e with
  | submit clock message canvas => exact (submit_follows h he message canvas).1
  | resume clock id =>
    cases hwaits : c.waiting? id with
    | none => rw [happen_resume_of_none c clock hwaits]; exact .refl h
    | some t =>
      rw [happen_resume c clock hwaits]
      exact complete_follows h he (h.waiting t (List.mem_of_find?_eq_some hwaits))
  | drop id =>
    cases hwaits : c.waiting? id with
    | none => rw [happen_drop_of_none c hwaits]; exact .refl h
    | some t => rw [happen_drop c hwaits]; exact release_follows h id

theorem submitAll_follows (h : c.Lasting) {clock : Clock} (hclock : clock.Proper) (canvas : Canvas)
    (messages : List String) :
    c.Follows (c.submitAll clock canvas messages).1 ∧
      ∀ turn, .ok turn ∈ (c.submitAll clock canvas messages).2 → turn.Ruled := by
  induction messages generalizing c clock with
  | nil => exact ⟨.refl h, by simp [submitAll]⟩
  | cons message rest ih =>
    obtain ⟨hfirst, hruled⟩ := submit_follows h hclock message canvas
    obtain ⟨hrest, hlater⟩ := ih hfirst.lasting (hclock.after looks)
    refine ⟨hfirst.trans hrest, fun turn hturn => ?_⟩
    rcases List.mem_cons.1 hturn with hturn | hturn
    · exact hruled turn hturn.symm
    · exact hlater turn hturn

theorem resumeAll_follows (h : c.Lasting) {clock : Clock} (hclock : clock.Proper)
    {arrivals : List (Except Refusal Turn)} (hruled : ∀ turn, .ok turn ∈ arrivals → turn.Ruled) :
    c.Follows (c.resumeAll clock arrivals).1 := by
  induction arrivals generalizing c clock with
  | nil => exact .refl h
  | cons arrival rest ih =>
    have hlater : ∀ turn, .ok turn ∈ rest → turn.Ruled := fun turn hturn =>
      hruled turn (List.mem_cons_of_mem _ hturn)
    cases arrival with
    | error refusal => exact ih h hclock hlater
    | ok turn =>
      have hfirst := complete_follows h hclock (hruled turn List.mem_cons_self)
      exact hfirst.trans (ih hfirst.lasting (hclock.after looks) hlater)

theorem burst_follows (h : c.Lasting) {clock : Clock} (hclock : clock.Proper) (canvas : Canvas)
    (messages : List String) : c.Follows (c.burst clock canvas messages).1 := by
  obtain ⟨hsubmitted, hruled⟩ := submitAll_follows h hclock canvas messages
  exact hsubmitted.trans (resumeAll_follows hsubmitted.lasting (hclock.after _) hruled)

end Conversation

end PersonaDialogue
