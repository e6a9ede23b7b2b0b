import PersonaDialogue.Proofs.Conversation.Step
import PersonaDialogue.Session

/-!
# One turn at a time

In every run of a conversation, whatever arrives, is answered and is given up in whatever order, at most
one turn waits, and the conversation is processing exactly while one does (`Conversation.Orderly`).  So
the answer to a message is known from the turns that wait, a refused message leaves everything as it
was, the log on the disk included, and of messages that arrive together exactly the first that is not
blank is answered.
-/

namespace PersonaDialogue

namespace Conversation

variable {c : Conversation}

/-- No turn waits and the conversation is idle, or one turn waits and it is processing. -/
def Orderly (c : Conversation) : Prop :=
  (c.waiting = [] ∧ c.processing = false) ∨ ∃ turn, c.waiting = [turn] ∧ c.processing = true

theorem start_orderly (settings : Settings) (supply : Supply) : (start settings supply).Orderly :=
  .inl ⟨rfl, rfl⟩

namespace Orderly

theorem processing_iff (h : c.Orderly) : c.processing = true ↔ c.waiting ≠ [] := by
  rcases h with ⟨hw, hp⟩ | ⟨turn, hw, hp⟩ <;> simp [hw, hp]

theorem length_le_one (h : c.Orderly) : c.waiting.length ≤ 1 := by
  rcases h with ⟨hw, -⟩ | ⟨turn, hw, -⟩ <;> simp [hw]

/-- A turn that is found among those that wait is the only one. -/
theorem waiting_of_find (h : c.Orderly) {id : Uuid} {turn : Turn}
    (hf : c.waiting? id = some turn) : c.waiting = [turn] ∧ turn.id = id := by
  have hid : turn.id = id := by simpa using List.find?_some hf
  have hmem : turn ∈ c.waiting := List.mem_of_find?_eq_some hf
  rcases h with ⟨hw, -⟩ | ⟨only, hw, -⟩
  · simp [hw] at hmem
  · rw [hw, List.mem_singleton] at hmem
    exact ⟨by rw [hw, hmem], hid⟩

theorem submit (h : c.Orderly) (clock : Clock) (message : String) (canvas : Canvas) :
    (c.submit clock message canvas).1.Orderly := by
  cases hb : Text.isAllBlank message.toList with
  | true => rw [c.submit_blank clock hb]; exact h
  | false =>
    rcases h with ⟨hw, hp⟩ | ⟨turn, hw, hp⟩
    · rw [c.submit_idle clock hb hp]
      exact .inr ⟨_, by rw [accept_waiting, hw]; rfl, accept_processing ..⟩
    · rw [c.submit_busy clock hb hp]
      exact .inr ⟨turn, hw, hp⟩

theorem complete_idle (clock : Clock) {turn : Turn} (hw : c.waiting = [turn]) :
    (c.complete clock turn).1.waiting = [] ∧ (c.complete clock turn).1.processing = false := by
  refine ⟨?_, complete_processing ..⟩
  rw [complete_waiting, hw]
  simp

theorem release_idle {turn : Turn} (hw : c.waiting = [turn]) :
    (c.release turn.id).waiting = [] ∧ (c.release turn.id).processing = false := by
  simp [release, hw]

theorem happen (h : c.Orderly) (e : Happening) : (c.happen e).Orderly := by
  cases e with
  | submit clock message canvas => exact h.submit clock message canvas
  | resume clock id =>
    cases hf : c.waiting? id with
    | none => rw [c.happen_resume_of_none clock hf]; exact h
    | some turn =>
      rw [c.happen_resume clock hf]
      exact .inl (complete_idle clock (h.waiting_of_find hf).1)
  | drop id =>
    cases hf : c.waiting? id with
    | none => rw [c.happen_drop_of_none hf]; exact h
    | some turn =>
      obtain ⟨hw, rfl⟩ := h.waiting_of_find hf
      rw [c.happen_drop hf]
      exact .inl (release_idle hw)

theorem run (h : c.Orderly) (es : List Happening) : (c.run es).Orderly := by
  induction es generalizing c with
  | nil => exact h
  | cons e es ih => exact ih (h.happen e)

end Orderly

/-! ### Messages that arrive together -/

/-- What comes of messages that arrive together while no turn waits: the first that is not blank is
answered, and all others are refused. -/
def verdicts (messages : List String) : List (Except Refusal Unit) :=
  messages.mapIdx fun i message =>
    if Text.isAllBlank message.toList then .error .emptyInput
    else if i = messages.findIdx (fun m => !Text.isAllBlank m.toList) then .ok ()
    else .error .busy

def refusalWhileBusy (message : String) : Refusal :=
  if Text.isAllBlank message.toList then .emptyInput else .busy

theorem submitAll_busy (hp : c.processing = true) (clock : Clock) (canvas : Canvas)
    (messages : List String) :
    c.submitAll clock canvas messages = (c, messages.map fun m => .error (refusalWhileBusy m)) := by
  induction messages generalizing clock with
  | nil => rfl
  | cons m rest ih =>
    have hm : c.submit clock m canvas = (c, .error (refusalWhileBusy m)) := by
      cases hb : Text.isAllBlank m.toList with
      | true => simp [c.submit_blank clock hb, refusalWhileBusy, hb]
      | false => simp [c.submit_busy clock hb hp, refusalWhileBusy, hb]
    simp [submitAll, hm, ih]

theorem resumeAll_refused (clock : Clock) (refusal : String → Refusal) (messages : List String) :
    c.resumeAll clock (messages.map fun m => .error (refusal m)) =
      (c, messages.map fun m => .error (refusal m)) := by
  induction messages with
  | nil => rfl
  | cons m rest ih => simp [resumeAll, ih]

theorem verdicts_blank {m : String} (hb : Text.isAllBlank m.toList = true) (rest : List String) :
    verdicts (m :: rest) = .error .emptyInput :: verdicts rest := by
  simp [verdicts, List.mapIdx_cons, List.findIdx_cons, hb]

theorem verdicts_nonblank {m : String} (hb : Text.isAllBlank m.toList = false) (rest : List String) :
    verdicts (m :: rest) = .ok () :: rest.map fun t => .error (refusalWhileBusy t) := by
  have hrest : ∀ t, (if Text.isAllBlank t.toList = true then (.error .emptyInput : Except Refusal Unit)
      else .error .busy) = .error (refusalWhileBusy t) := by
    intro t
    unfold refusalWhileBusy
    split <;> rfl
  have hconst : rest.mapIdx (fun _ t => (.error (refusalWhileBusy t) : Except Refusal Unit)) =
      rest.map fun t => .error (refusalWhileBusy t) :=
    List.ext_getElem (by simp) (by simp)
  simp [verdicts, List.mapIdx_cons, List.findIdx_cons, hb, hrest, hconst]

/-- A blank message in front of others is refused; the others arrive when its readings are over. -/
theorem burst_blank {m : String} (hb : Text.isAllBlank m.toList = true) (clock : Clock)
    (canvas : Canvas) (rest : List String) :
    (c.burst clock canvas (m :: rest)).2 =
      .error .emptyInput :: (c.burst (clock.after looks) canvas rest).2 := by
  have hclock : (clock.after looks).after (looks * rest.length) =
      clock.after (looks * (m :: rest).length) := by
    rw [Clock.after_after, List.length_cons, Nat.mul_succ, Nat.add_comm]
  simp only [burst, submitAll, resumeAll, c.submit_blank clock hb, hclock]

/-- **Of messages that arrive together, the first that is not blank is answered.** -/
theorem burst_verdicts (hp : c.processing = false) (clock : Clock) (canvas : Canvas)
    (messages : List String) :
    (c.burst clock canvas messages).2.map (·.map fun _ => ()) = verdicts messages := by
  induction messages generalizing clock with
  | nil => rfl
  | cons m rest ih =>
    cases hb : Text.isAllBlank m.toList with
    | true =>
      rw [verdicts_blank hb, burst_blank hb, List.map_cons, ih]
      rfl
    | false =>
      rw [verdicts_nonblank hb]
      have hbusy := accept_processing c clock (c.turnFor m canvas)
      simp [burst, submitAll, resumeAll, c.submit_idle clock hb hp, submitAll_busy hbusy,
        resumeAll_refused, Except.map]

end Conversation

/-! ### On a desk -/

namespace Desk

/-- The desk after something happened to its conversation: what the journal gained is logged. -/
def happen (d : Desk) (e : Happening) : Desk :=
  d.advance { d.session with conversation := d.session.conversation.happen e }

def runAll (d : Desk) (es : List Happening) : Desk := es.foldl happen d

theorem advance_session (d : Desk) (s : Session) : (d.advance s).session = s := by
  unfold advance
  split <;> rfl

theorem happen_conversation (d : Desk) (e : Happening) :
    (d.happen e).session.conversation = d.session.conversation.happen e := by
  simp [happen, advance_session]

theorem runAll_conversation (d : Desk) (es : List Happening) :
    (d.runAll es).session.conversation = d.session.conversation.run es := by
  induction es generalizing d with
  | nil => rfl
  | cons e es ih => exact (ih (d.happen e)).trans (by rw [happen_conversation]; rfl)

/-- What happens without a trace leaves the whole desk as it was, the disk included. -/
theorem happen_of_eq {d : Desk} {e : Happening}
    (h : d.session.conversation.happen e = d.session.conversation) : d.happen e = d := by
  have hnone : recordedSince d.session d.session = [] := by simp [recordedSince]
  unfold happen
  rw [h]
  unfold advance
  split
  · simp [hnone, Disk.writeEvents]
  · rfl

/-- **A desk takes one turn at a time.** -/
structure TakesOneTurn (d : Desk) : Prop where
  waiting_le_one : d.session.conversation.waiting.length ≤ 1
  processing_iff : d.session.conversation.processing = true ↔ d.session.conversation.waiting ≠ []
  /-- A blank message is refused as such, whether or not a turn waits. -/
  answer_blank : ∀ clock message canvas, Text.isAllBlank message.toList = true →
    (d.session.conversation.submit clock message canvas).2 = .error .emptyInput
  /-- Any other message is refused exactly when a turn waits. -/
  answer_busy : ∀ clock message canvas, Text.isAllBlank message.toList = false →
    ((d.session.conversation.submit clock message canvas).2 = .error .busy ↔
      d.session.conversation.waiting ≠ [])
  /-- It is accepted otherwise, and its turn is then the one that waits. -/
  answer_accepted : ∀ clock message canvas, Text.isAllBlank message.toList = false →
    d.session.conversation.waiting = [] →
    ∃ turn, (d.session.conversation.submit clock message canvas).2 = .ok turn ∧
      turn.message = message ∧ turn.canvas = canvas ∧
      (d.happen (.submit clock message canvas)).session.conversation.waiting = [turn]
  /-- A message that is refused changes nothing, on the disk neither. -/
  refused : ∀ clock message canvas refusal,
    (d.session.conversation.submit clock message canvas).2 = .error refusal →
    d.happen (.submit clock message canvas) = d
  /-- A turn that waits can be answered, and then none waits. -/
  answered : ∀ turn ∈ d.session.conversation.waiting, ∀ clock, ∃ report,
    d.session.conversation.resume clock turn.id =
        some ((d.happen (.resume clock turn.id)).session.conversation, report) ∧
      report.turn = turn.id ∧
      (d.happen (.resume clock turn.id)).session.conversation.waiting = []
  /-- A turn that waits can be given up, and then none waits. -/
  givenUp : ∀ turn ∈ d.session.conversation.waiting,
    (d.happen (.drop turn.id)).session.conversation.waiting = []
  /-- After either, the next message that is not blank is accepted. -/
  next_accepted : ∀ turn ∈ d.session.conversation.waiting, ∀ clock,
    ∀ e ∈ [.resume clock turn.id, .drop turn.id], ∀ later message canvas,
    Text.isAllBlank message.toList = false →
    ∃ next, ((d.happen e).session.conversation.submit later message canvas).2 = .ok next
  /-- Of messages that arrive together while no turn waits, the first that is not blank is answered. -/
  together : d.session.conversation.waiting = [] → ∀ clock canvas messages,
    (d.session.conversation.burst clock canvas messages).2.map (·.map fun _ => ()) =
      Conversation.verdicts messages

variable {d : Desk}

/-- The only turn that waits is found under its identifier. -/
theorem waiting_of_mem (h : d.session.conversation.Orderly) {turn : Turn}
    (ht : turn ∈ d.session.conversation.waiting) :
    d.session.conversation.waiting = [turn] ∧
      d.session.conversation.waiting? turn.id = some turn := by
  rcases h with ⟨hw, -⟩ | ⟨only, hw, -⟩
  · simp [hw] at ht
  · rw [hw, List.mem_singleton] at ht
    subst ht
    exact ⟨hw, by simp [Conversation.waiting?, hw]⟩

theorem idle_of_resumed (h : d.session.conversation.Orderly) {turn : Turn}
    (ht : turn ∈ d.session.conversation.waiting) (clock : Clock) :
    (d.happen (.resume clock turn.id)).session.conversation.waiting = [] ∧
      (d.happen (.resume clock turn.id)).session.conversation.processing = false := by
  obtain ⟨hw, hf⟩ := waiting_of_mem h ht
  rw [happen_conversation, Conversation.happen_resume _ clock hf]
  exact Conversation.Orderly.complete_idle clock hw

theorem idle_of_dropped (h : d.session.conversation.Orderly) {turn : Turn}
    (ht : turn ∈ d.session.conversation.waiting) :
    (d.happen (.drop turn.id)).session.conversation.waiting = [] ∧
      (d.happen (.drop turn.id)).session.conversation.processing = false := by
  obtain ⟨hw, hf⟩ := waiting_of_mem h ht
  rw [happen_conversation, Conversation.happen_drop _ hf]
  exact Conversation.Orderly.release_idle hw

theorem takesOneTurn_of_orderly (h : d.session.conversation.Orderly) : d.TakesOneTurn where
  waiting_le_one := h.length_le_one
  processing_iff := h.processing_iff
  answer_blank clock message canvas hb := by rw [Conversation.submit_blank _ clock hb]
  answer_busy clock message canvas hb := by
    rw [← h.processing_iff]
    cases hp : d.session.conversation.processing with
    | true => simp [Conversation.submit_busy _ clock hb hp]
    | false => simp [Conversation.submit_idle _ clock hb hp]
  answer_accepted clock message canvas hb hw := by
    have hp : d.session.conversation.processing = false := by
      simpa [hw] using h.processing_iff
    refine ⟨_, by rw [Conversation.submit_idle _ clock hb hp], rfl, rfl, ?_⟩
    rw [happen_conversation, Conversation.happen, Conversation.submit_idle _ clock hb hp,
      Conversation.accept_waiting, hw]
    rfl
  refused clock message canvas refusal hr := by
    refine happen_of_eq ?_
    rcases d.session.conversation.submit_cases clock message canvas with ⟨r, hs⟩ | hs
    · rw [Conversation.happen, hs]
    · simp [hs] at hr
  answered turn ht clock := by
    obtain ⟨hw, hf⟩ := waiting_of_mem h ht
    refine ⟨(d.session.conversation.complete clock turn).2, ?_, rfl,
      (idle_of_resumed h ht clock).1⟩
    rw [happen_conversation, Conversation.happen_resume _ clock hf]
    simp [Conversation.resume, hf]
  givenUp turn ht := (idle_of_dropped h ht).1
  next_accepted turn ht clock e he later message canvas hb := by
    have hp : (d.happen e).session.conversation.processing = false := by
      simp only [List.mem_cons, List.not_mem_nil, or_false] at he
      rcases he with rfl | rfl
      · exact (idle_of_resumed h ht clock).2
      · exact (idle_of_dropped h ht).2
    exact ⟨_, by rw [Conversation.submit_idle _ later hb hp]⟩
  together hw clock canvas messages :=
    Conversation.burst_verdicts (by simpa [hw] using h.processing_iff) clock canvas messages

/-- **Whatever arrives, is answered and is given up, in whatever order, a desk takes one turn at a
time.** -/
theorem takesOneTurn_of_start (disk : Disk) (settings : Settings) (supply : Supply)
    (canvas : Canvas) (es : List Happening) :
    ((Desk.mk disk (.startWith settings supply canvas)).runAll es).TakesOneTurn := by
  refine takesOneTurn_of_orderly ?_
  rw [runAll_conversation]
  exact (Conversation.start_orderly settings supply).run es

end Desk

end PersonaDialogue
