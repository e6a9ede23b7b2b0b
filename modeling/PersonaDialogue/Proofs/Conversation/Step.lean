import PersonaDialogue.Conversation

/-!
# The steps of a conversation

A message is submitted, a turn that waits is answered, or a turn that waits is given up: these are the
three things that happen to a conversation, in any order and any number.  For each there is one lemma
that says what it leaves and what it adds to the message log and to the journal; all that follows about
runs is drawn from these lemmas.
-/

namespace PersonaDialogue

/-- What an event says, apart from its own identifier and its time. -/
def Event.gist (e : Event) : Uuid × EventKind × Json.Value := (e.turn, e.kind, e.details)

/-- What happens to a conversation from outside. -/
inductive Happening
  | submit (clock : Clock) (message : String) (canvas : Canvas)
  /-- The wait of a turn is over. -/
  | resume (clock : Clock) (turn : Uuid)
  | drop (turn : Uuid)

namespace Turn

/-- What the journal says when a turn starts. -/
def opening (t : Turn) : List (Uuid × EventKind × Json.Value) :=
  (t.id, .turnStarted, Conversation.messageDetails t.message) ::
    match t.command with
    | some command => [(t.id, .commandDetected, (Details.detected command).toValue)]
    | none => []

/-- What the journal says when a turn ends, given the canvas after its command and the identifier of
the reply. -/
def closing (t : Turn) (after : Option Canvas) (reply : Uuid) :
    List (Uuid × EventKind × Json.Value) :=
  (match t.command with
    | some command =>
      (t.id, .commandApplied, (Details.applied command t.canvas (after.getD t.canvas)).toValue)
    | none => (t.id, .commandUnrecognized, Conversation.messageDetails t.message)) ::
    [(t.id, .turnCompleted, Conversation.replyDetails reply)]

end Turn

namespace Conversation

variable (c : Conversation) (clock : Clock)

/-! ### Starting a turn -/

/-- The turn that a message starts if it is accepted. -/
def turnFor (message : String) (canvas : Canvas) : Turn :=
  ⟨c.supply.next, message, canvas, Intent.command? c.settings.ageWindow message⟩

theorem submit_blank {message : String} (h : Text.isAllBlank message.toList = true)
    (canvas : Canvas) : c.submit clock message canvas = (c, .error .emptyInput) := by
  simp [submit, h]

theorem submit_busy {message : String} (h : Text.isAllBlank message.toList = false)
    (hp : c.processing = true) (canvas : Canvas) :
    c.submit clock message canvas = (c, .error .busy) := by
  simp [submit, h, hp]

theorem submit_idle {message : String} (h : Text.isAllBlank message.toList = false)
    (hp : c.processing = false) (canvas : Canvas) :
    c.submit clock message canvas =
      (c.accept clock (c.turnFor message canvas), .ok (c.turnFor message canvas)) := by
  simp [submit, h, hp, turnFor]

/-- A message is refused and nothing changes, or it starts the turn that it stands for. -/
theorem submit_cases (message : String) (canvas : Canvas) :
    (∃ refusal, c.submit clock message canvas = (c, .error refusal)) ∨
      c.submit clock message canvas =
        (c.accept clock (c.turnFor message canvas), .ok (c.turnFor message canvas)) := by
  cases h : Text.isAllBlank message.toList with
  | true => exact .inl ⟨_, c.submit_blank clock h canvas⟩
  | false =>
    cases hp : c.processing with
    | true => exact .inl ⟨_, c.submit_busy clock h hp canvas⟩
    | false => exact .inr (c.submit_idle clock h hp canvas)

section Accept

variable (t : Turn)

theorem accept_processing : (c.accept clock t).processing = true := by
  cases h : t.command <;> simp [accept, detect, record, say, skipId, h]

theorem accept_waiting : (c.accept clock t).waiting = c.waiting ++ [t] := by
  cases h : t.command <;> simp [accept, detect, record, say, skipId, h]

theorem accept_settings : (c.accept clock t).settings = c.settings := by
  cases h : t.command <;> simp [accept, detect, record, say, skipId, h]

theorem accept_supply :
    ∃ n, 0 < n ∧ (c.accept clock t).supply = c.supply.after n := by
  cases h : t.command with
  | none => exact ⟨3, by omega, by simp [accept, detect, record, say, skipId, h, Supply.after]⟩
  | some command =>
    exact ⟨4, by omega, by simp [accept, detect, record, say, skipId, h, Supply.after]⟩

theorem accept_messages :
    ∃ id, (c.accept clock t).messages = c.messages ++ [⟨id, .user, t.message, clock.reading 0⟩] := by
  cases h : t.command <;> exact ⟨_, by simp [accept, detect, record, say, skipId, h]; rfl⟩

theorem accept_events :
    ∃ new, (c.accept clock t).events = c.events ++ new ∧ new.map Event.gist = t.opening := by
  cases h : t.command with
  | none => exact ⟨[_], by simp [accept, detect, record, say, skipId, h]; rfl,
      by simp [Turn.opening, Event.gist, h]⟩
  | some command => exact ⟨[_, _], by simp [accept, detect, record, say, skipId, h]; exact ⟨rfl, rfl⟩,
      by simp [Turn.opening, Event.gist, h]⟩

end Accept

/-! ### Ending a turn -/

section Complete

variable (t : Turn)

theorem complete_processing : (c.complete clock t).1.processing = false := rfl

theorem complete_waiting :
    (c.complete clock t).1.waiting = c.waiting.filter fun u => u.id != t.id := by
  cases h : t.command <;> simp [complete, settle, release, record, say, skipId, h]

theorem complete_settings : (c.complete clock t).1.settings = c.settings := by
  cases h : t.command <;> simp [complete, settle, release, record, say, skipId, h]

theorem complete_supply : ∃ n, (c.complete clock t).1.supply = c.supply.after n := by
  cases h : t.command with
  | none => exact ⟨3, by simp [complete, settle, release, record, say, skipId, h, Supply.after]⟩
  | some command =>
    exact ⟨4, by simp [complete, settle, release, record, say, skipId, h, Supply.after]⟩

theorem complete_messages :
    (c.complete clock t).1.messages = c.messages ++ [(c.complete clock t).2.reply] := by
  cases h : t.command <;> simp [complete, settle, release, record, say, skipId, h]

theorem complete_events :
    ∃ new, (c.complete clock t).1.events = c.events ++ new ∧
      new.map Event.gist =
        t.closing (c.complete clock t).2.canvas (c.complete clock t).2.reply.id := by
  cases h : t.command with
  | none =>
    exact ⟨[_, _], by simp [complete, settle, release, record, say, skipId, h]; exact ⟨rfl, rfl⟩,
      by simp [Turn.closing, Event.gist, complete, settle, record, skipId, h]⟩
  | some command =>
    exact ⟨[_, _], by simp [complete, settle, release, record, say, skipId, h]; exact ⟨rfl, rfl⟩,
      by simp [Turn.closing, Event.gist, complete, outcome, settle, record, skipId, h]⟩

theorem complete_canvas : (c.complete clock t).2.canvas = c.outcome t := rfl
theorem complete_text : (c.complete clock t).2.reply.text = replyText t := rfl

end Complete

/-! ### Giving up a turn -/

theorem drop_settings (id : Uuid) : (c.drop id).settings = c.settings := by
  unfold drop
  split <;> rfl

/-- The conversation after something happened.  A turn that does not wait cannot be answered or given
up. -/
def happen : Happening → Conversation
  | .submit clock message canvas => (c.submit clock message canvas).1
  | .resume clock turn => ((c.resume clock turn).map Prod.fst).getD c
  | .drop turn => c.drop turn

theorem happen_resume {id : Uuid} {t : Turn} (h : c.waiting? id = some t) :
    c.happen (.resume clock id) = (c.complete clock t).1 := by
  simp [happen, resume, h]

theorem happen_resume_of_none {id : Uuid} (h : c.waiting? id = none) :
    c.happen (.resume clock id) = c := by
  simp [happen, resume, h]

theorem happen_drop {id : Uuid} {t : Turn} (h : c.waiting? id = some t) :
    c.happen (.drop id) = c.release id := by
  simp [happen, drop, h]

theorem happen_drop_of_none {id : Uuid} (h : c.waiting? id = none) : c.happen (.drop id) = c := by
  simp [happen, drop, h]

def run (hs : List Happening) : Conversation := hs.foldl happen c

end Conversation

end PersonaDialogue
