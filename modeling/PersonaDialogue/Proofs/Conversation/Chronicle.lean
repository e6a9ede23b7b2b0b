import Mathlib.Data.List.Forall2
import Mathlib.Tactic.Conv
import PersonaDialogue.Proofs.Conversation.OneTurn

/-!
# The logs tell the history of the turns

The history of a run is the list of the turns that were accepted, in that order, each with what became
of it; it is kept beside the run from the answers that the conversation gives (`Conversation.history`).
The journal is the concatenation of one block of events for each turn of the history, and the message
log the concatenation of the matching blocks of messages.
-/

namespace PersonaDialogue

/-- Are the identifiers distinct that were given out so far? -/
def Supply.GaveDistinct (s : Supply) : Prop :=
  ∀ i < s.used, ∀ j < s.used, s.stream i = s.stream j → i = j

instance (s : Supply) : Decidable s.GaveDistinct :=
  inferInstanceAs (Decidable (∀ i < s.used, ∀ j < s.used, s.stream i = s.stream j → i = j))

/-- What became of a turn. -/
inductive Fate
  | waiting
  | givenUp
  | answered (report : Report)

/-- A turn of a history: what was submitted, under which identifier, and what became of it. -/
structure Episode where
  turn : Uuid
  message : String
  canvas : Canvas
  fate : Fate

namespace Episode

def command? (settings : Settings) (e : Episode) : Option Command :=
  Intent.command? settings.ageWindow e.message

/-- The block of the journal that belongs to a turn. -/
def gists (settings : Settings) (e : Episode) : List (Uuid × EventKind × Json.Value) :=
  match e.command? settings, e.fate with
  | some command, .answered report =>
    [(e.turn, .turnStarted, Conversation.messageDetails e.message),
      (e.turn, .commandDetected, (Details.detected command).toValue),
      (e.turn, .commandApplied,
        (Details.applied command e.canvas (report.canvas.getD e.canvas)).toValue),
      (e.turn, .turnCompleted, Conversation.replyDetails report.reply.id)]
  | none, .answered report =>
    [(e.turn, .turnStarted, Conversation.messageDetails e.message),
      (e.turn, .commandUnrecognized, Conversation.messageDetails e.message),
      (e.turn, .turnCompleted, Conversation.replyDetails report.reply.id)]
  | some command, _ =>
    [(e.turn, .turnStarted, Conversation.messageDetails e.message),
      (e.turn, .commandDetected, (Details.detected command).toValue)]
  | none, _ => [(e.turn, .turnStarted, Conversation.messageDetails e.message)]

def reply? (e : Episode) : Option Message :=
  match e.fate with
  | .answered report => some report.reply
  | _ => none

/-- The block of the message log that belongs to a turn: the message as it was submitted, and the reply
if there was one. -/
def Says (e : Episode) (messages : List Message) : Prop :=
  ∃ said : Message, said.role = .user ∧ said.text = e.message ∧ messages = said :: e.reply?.toList

/-- The report of a turn is about this turn, and its reply describes the command. -/
def Reported (settings : Settings) (e : Episode) : Prop :=
  ∀ report, e.fate = .answered report →
    report.turn = e.turn ∧ report.command = e.command? settings ∧
      report.reply.role = .assistant ∧
      report.reply.text =
        match e.command? settings with
        | some command => command.describe
        | none => noMatchReply

/-- The turn with an identifier, if it waits, meets its fate. -/
def closed (id : Uuid) (fate : Fate) (e : Episode) : Episode :=
  match e.fate with
  | .waiting => if e.turn = id then { e with fate := fate } else e
  | _ => e

def IsOver (e : Episode) : Prop := e.fate ≠ .waiting

end Episode

namespace Conversation

/-- The history after something happened, kept from the answer of the conversation. -/
def remember (c : Conversation) (past : List Episode) : Happening → List Episode
  | .submit clock message canvas =>
    match (c.submit clock message canvas).2 with
    | .ok turn => past ++ [⟨turn.id, message, canvas, .waiting⟩]
    | .error _ => past
  | .resume clock turn =>
    match c.resume clock turn with
    | some (_, report) => past.map (Episode.closed turn (.answered report))
    | none => past
  | .drop turn => if (c.waiting? turn).isSome then past.map (Episode.closed turn .givenUp) else past

section Remember

variable (c : Conversation) (past : List Episode) (clock : Clock)

theorem remember_refused {message : String} {canvas : Canvas} {refusal : Refusal}
    (h : (c.submit clock message canvas).2 = .error refusal) :
    c.remember past (.submit clock message canvas) = past := by
  simp [remember, h]

theorem remember_accepted {message : String} {canvas : Canvas}
    (h : (c.submit clock message canvas).2 = .ok (c.turnFor message canvas)) :
    c.remember past (.submit clock message canvas) =
      past ++ [⟨(c.turnFor message canvas).id, message, canvas, .waiting⟩] := by
  simp [remember, h]

theorem remember_resume {id : Uuid} {t : Turn} (h : c.waiting? id = some t) :
    c.remember past (.resume clock id) =
      past.map (Episode.closed id (.answered (c.complete clock t).2)) := by
  simp [remember, resume, h]

theorem remember_resume_of_none {id : Uuid} (h : c.waiting? id = none) :
    c.remember past (.resume clock id) = past := by
  simp [remember, resume, h]

theorem remember_drop {id : Uuid} {t : Turn} (h : c.waiting? id = some t) :
    c.remember past (.drop id) = past.map (Episode.closed id .givenUp) := by
  simp [remember, h]

theorem remember_drop_of_none {id : Uuid} (h : c.waiting? id = none) :
    c.remember past (.drop id) = past := by
  simp [remember, h]

end Remember

def history (c : Conversation) (past : List Episode) : List Happening → List Episode
  | [] => past
  | e :: es => (c.happen e).history (c.remember past e) es

/-- **The logs tell a history**: both are the concatenations of the blocks of its turns. -/
structure Tells (c : Conversation) (settings : Settings) (past : List Episode) : Prop where
  events : c.events.map Event.gist = past.flatMap (Episode.gists settings)
  messages : ∃ blocks : List (List Message),
    List.Forall₂ Episode.Says past blocks ∧ c.messages = blocks.flatten
  reported : ∀ e ∈ past, e.Reported settings

end Conversation

/-! ### The blocks of a turn -/

theorem forall_mem_concat {past : List Episode} {P : Episode → Prop} (h : ∀ e ∈ past, P e)
    {last : Episode} (hlast : P last) : ∀ e ∈ past ++ [last], P e := by
  intro e he
  rcases List.mem_append.1 he with he | he
  · exact h e he
  · rw [List.mem_singleton] at he
    exact he ▸ hlast

namespace Turn

def episode (t : Turn) (fate : Fate) : Episode := ⟨t.id, t.message, t.canvas, fate⟩

variable {t : Turn} {settings : Settings}

theorem gists_waiting (h : t.command = Intent.command? settings.ageWindow t.message) :
    (t.episode .waiting).gists settings = t.opening := by
  cases hc : t.command <;> rw [hc] at h <;>
    simp [Episode.gists, Episode.command?, episode, opening, ← h, hc]

theorem gists_givenUp : (t.episode .givenUp).gists settings =
    (t.episode .waiting).gists settings := by
  unfold Episode.gists Episode.command? episode
  split <;> simp_all

theorem gists_answered (h : t.command = Intent.command? settings.ageWindow t.message)
    (report : Report) :
    (t.episode (.answered report)).gists settings =
      t.opening ++ t.closing report.canvas report.reply.id := by
  cases hc : t.command <;> rw [hc] at h <;>
    simp [Episode.gists, Episode.command?, episode, opening, closing, ← h, hc]

/-- Of a turn that was not answered there is no report. -/
theorem reported_unanswered {fate : Fate} (h : ∀ report, fate ≠ .answered report) :
    (t.episode fate).Reported settings :=
  fun report he => absurd he (h report)

theorem reported_complete (h : t.command = Intent.command? settings.ageWindow t.message)
    (c : Conversation) (clock : Clock) :
    (t.episode (.answered (c.complete clock t).2)).Reported settings := by
  rintro _ ⟨⟩
  refine ⟨rfl, h, rfl, ?_⟩
  rw [Conversation.complete_text, Conversation.replyText]
  cases hc : t.command <;> rw [hc] at h <;> simp [Episode.command?, episode, ← h]

end Turn

namespace Episode

theorem closed_of_isOver {e : Episode} (h : e.IsOver) (id : Uuid) (fate : Fate) :
    e.closed id fate = e := by
  unfold closed
  split
  · exact absurd ‹_› h
  · rfl

theorem map_closed_of_isOver {past : List Episode} (h : ∀ e ∈ past, e.IsOver) (id : Uuid)
    (fate : Fate) : past.map (closed id fate) = past := by
  conv_rhs => rw [← List.map_id past]
  exact List.map_congr_left fun e he => closed_of_isOver (h e he) id fate

theorem closed_episode (t : Turn) (fate : Fate) :
    (t.episode .waiting).closed t.id fate = t.episode fate := by
  simp [closed, Turn.episode]

/-- The last block of messages belongs to the last turn. -/
theorem says_concat {past : List Episode} {e : Episode} {blocks : List (List Message)}
    (h : List.Forall₂ Says (past ++ [e]) blocks) :
    ∃ before block, blocks = before ++ [block] ∧ List.Forall₂ Says past before ∧ e.Says block := by
  induction past generalizing blocks with
  | nil =>
    obtain ⟨block, rest, hblock, hrest, rfl⟩ := List.forall₂_cons_left_iff.1 h
    rw [List.forall₂_nil_left_iff] at hrest
    exact ⟨[], block, by rw [hrest]; rfl, .nil, hblock⟩
  | cons first past ih =>
    obtain ⟨block, rest, hblock, hrest, rfl⟩ := List.forall₂_cons_left_iff.1 h
    obtain ⟨before, last, rfl, hbefore, hlast⟩ := ih hrest
    exact ⟨block :: before, last, rfl, .cons hblock hbefore, hlast⟩

end Episode

/-! ### What a step adds to a history -/

namespace Conversation

variable {c : Conversation} {settings : Settings} {past : List Episode} {t : Turn}

namespace Tells

theorem accept (h : c.Tells settings past) (clock : Clock)
    (ht : t.command = Intent.command? settings.ageWindow t.message) :
    (c.accept clock t).Tells settings (past ++ [t.episode .waiting]) where
  events := by
    obtain ⟨new, hnew, hgist⟩ := c.accept_events clock t
    rw [hnew, List.map_append, hgist, h.events, List.flatMap_append, List.flatMap_singleton,
      Turn.gists_waiting ht]
  messages := by
    obtain ⟨id, hid⟩ := c.accept_messages clock t
    obtain ⟨blocks, hblocks, hmessages⟩ := h.messages
    refine ⟨blocks ++ [[⟨id, .user, t.message, clock.reading 0⟩]], ?_, by simp [hid, hmessages]⟩
    exact List.rel_append hblocks (.cons ⟨_, rfl, rfl, rfl⟩ .nil)
  reported := forall_mem_concat h.reported (Turn.reported_unanswered (by simp))

theorem complete (h : c.Tells settings (past ++ [t.episode .waiting])) (clock : Clock)
    (ht : t.command = Intent.command? settings.ageWindow t.message) :
    (c.complete clock t).1.Tells settings (past ++ [t.episode (.answered (c.complete clock t).2)]) where
  events := by
    obtain ⟨new, hnew, hgist⟩ := c.complete_events clock t
    have hevents := h.events
    rw [List.flatMap_append, List.flatMap_singleton, Turn.gists_waiting ht] at hevents
    rw [hnew, List.map_append, hgist, hevents, List.flatMap_append, List.flatMap_singleton,
      Turn.gists_answered ht, List.append_assoc]
  messages := by
    obtain ⟨blocks, hblocks, hmessages⟩ := h.messages
    obtain ⟨before, block, rfl, hbefore, said, hrole, htext, rfl⟩ := Episode.says_concat hblocks
    refine ⟨before ++ [[said, (c.complete clock t).2.reply]], ?_, ?_⟩
    · exact List.rel_append hbefore (.cons ⟨said, hrole, htext, rfl⟩ .nil)
    · rw [complete_messages, hmessages]
      simp [Episode.reply?, Turn.episode]
  reported := forall_mem_concat (fun e he => h.reported e (List.mem_append_left _ he))
    (Turn.reported_complete ht c clock)

theorem release (h : c.Tells settings (past ++ [t.episode .waiting])) (id : Uuid) :
    (c.release id).Tells settings (past ++ [t.episode .givenUp]) where
  events := by
    have hevents := h.events
    rw [List.flatMap_append, List.flatMap_singleton] at hevents ⊢
    rw [Turn.gists_givenUp]
    exact hevents
  messages := by
    obtain ⟨blocks, hblocks, hmessages⟩ := h.messages
    obtain ⟨before, block, rfl, hbefore, said, hrole, htext, rfl⟩ := Episode.says_concat hblocks
    refine ⟨before ++ [[said]], ?_, hmessages⟩
    exact List.rel_append hbefore (.cons ⟨said, hrole, htext, rfl⟩ .nil)
  reported := forall_mem_concat (fun e he => h.reported e (List.mem_append_left _ he))
    (Turn.reported_unanswered (by simp))

end Tells

/-! ### Runs -/

/-- The turns of a history carry identifiers that were drawn one after the other. -/
def Drawn (c : Conversation) (past : List Episode) : Prop :=
  ∃ places : List Nat, past.map Episode.turn = places.map c.supply.stream ∧
    places.Pairwise (· < ·) ∧ ∀ k ∈ places, k < c.supply.used

/-- What a run keeps: the logs tell the history, and the turns of the history that still wait are those
that wait in the conversation, at most the last one. -/
structure Keeps (c : Conversation) (settings : Settings) (stream : Nat → Uuid)
    (past : List Episode) : Prop where
  settings_eq : c.settings = settings
  stream_eq : c.supply.stream = stream
  tells : c.Tells settings past
  waits : (c.waiting = [] ∧ c.processing = false ∧ ∀ e ∈ past, e.IsOver) ∨
    ∃ before t, c.waiting = [t] ∧ c.processing = true ∧ past = before ++ [t.episode .waiting] ∧
      (∀ e ∈ before, e.IsOver) ∧ t.command = Intent.command? settings.ageWindow t.message
  drawn : c.Drawn past

/-- The turn that starts draws the next identifier. -/
theorem Drawn.accept (h : c.Drawn past) (clock : Clock) (ht : t.id = c.supply.next) :
    (c.accept clock t).Drawn (past ++ [t.episode .waiting]) := by
  obtain ⟨places, hmap, hsorted, hbound⟩ := h
  obtain ⟨n, hn, hsupply⟩ := c.accept_supply clock t
  refine ⟨places ++ [c.supply.used], ?_, ?_, ?_⟩
  · rw [hsupply, List.map_append, List.map_append, hmap]
    simp [Turn.episode, ht, Supply.after, Supply.next]
  · rw [List.pairwise_append]
    refine ⟨hsorted, List.pairwise_singleton _ _, ?_⟩
    intro k hk m hm
    rw [List.mem_singleton] at hm
    exact hm ▸ hbound k hk
  · intro k hk
    have hused : (c.accept clock t).supply.used = c.supply.used + n := by rw [hsupply]; rfl
    rcases List.mem_append.1 hk with hk | hk
    · have := hbound k hk
      omega
    · rw [List.mem_singleton] at hk
      omega

/-- A turn that ends keeps its identifier. -/
theorem Drawn.ended {before : List Episode} {fate : Fate}
    (h : c.Drawn (before ++ [t.episode .waiting])) {d : Conversation} {n : Nat}
    (hd : d.supply = c.supply.after n) : d.Drawn (before ++ [t.episode fate]) := by
  obtain ⟨places, hmap, hsorted, hbound⟩ := h
  refine ⟨places, ?_, hsorted, fun k hk => ?_⟩
  · rw [hd]
    simpa [Turn.episode, Supply.after] using hmap
  · have := hbound k hk
    rw [hd]
    simp only [Supply.after]
    omega

namespace Keeps

variable {stream : Nat → Uuid}

theorem refused (h : c.Keeps settings stream past) {clock : Clock} {message : String}
    {canvas : Canvas} {refusal : Refusal}
    (hs : c.submit clock message canvas = (c, .error refusal)) :
    (c.happen (.submit clock message canvas)).Keeps settings stream
      (c.remember past (.submit clock message canvas)) := by
  rw [remember_refused c past clock (by rw [hs])]
  simpa [Conversation.happen, hs] using h

theorem accepted (h : c.Keeps settings stream past) {clock : Clock} {message : String}
    {canvas : Canvas} (hw : c.waiting = []) (hover : ∀ e ∈ past, e.IsOver)
    (hs : c.submit clock message canvas =
      (c.accept clock (c.turnFor message canvas), .ok (c.turnFor message canvas))) :
    (c.happen (.submit clock message canvas)).Keeps settings stream
      (c.remember past (.submit clock message canvas)) := by
  have ht : (c.turnFor message canvas).command =
      Intent.command? settings.ageWindow (c.turnFor message canvas).message := by
    rw [← h.settings_eq]
    rfl
  obtain ⟨n, -, hsupply⟩ := c.accept_supply clock (c.turnFor message canvas)
  rw [remember_accepted c past clock (by rw [hs]), Conversation.happen, hs]
  exact {
    settings_eq := by rw [accept_settings, h.settings_eq]
    stream_eq := by rw [hsupply]; exact h.stream_eq
    tells := h.tells.accept clock ht
    waits := .inr ⟨past, _, by rw [accept_waiting, hw]; rfl, accept_processing .., rfl, hover, ht⟩
    drawn := h.drawn.accept clock rfl }

theorem submit (h : c.Keeps settings stream past) (clock : Clock) (message : String)
    (canvas : Canvas) :
    (c.happen (.submit clock message canvas)).Keeps settings stream
      (c.remember past (.submit clock message canvas)) := by
  cases hb : Text.isAllBlank message.toList with
  | true => exact h.refused (c.submit_blank clock hb canvas)
  | false =>
    rcases h.waits with ⟨hw, hp, hover⟩ | ⟨-, -, -, hp, -⟩
    · exact h.accepted hw hover (c.submit_idle clock hb hp canvas)
    · exact h.refused (c.submit_busy clock hb hp canvas)

/-- A turn that is found among those that wait is the last of the history. -/
theorem last_of_find (h : c.Keeps settings stream past) {id : Uuid} {t : Turn}
    (hf : c.waiting? id = some t) :
    t.id = id ∧ c.waiting = [t] ∧ ∃ before, past = before ++ [t.episode .waiting] ∧
      (∀ e ∈ before, e.IsOver) ∧ t.command = Intent.command? settings.ageWindow t.message := by
  have hid : t.id = id := by simpa using List.find?_some hf
  have hmem : t ∈ c.waiting := List.mem_of_find?_eq_some hf
  rcases h.waits with ⟨hw, -, -⟩ | ⟨before, only, hw, -, hpast, hover, ht⟩
  · simp [hw] at hmem
  · rw [hw, List.mem_singleton] at hmem
    subst hmem
    exact ⟨hid, hw, before, hpast, hover, ht⟩

/-- The history in which the last turn met its fate. -/
theorem map_closed {before : List Episode} (hover : ∀ e ∈ before, e.IsOver) (fate : Fate) :
    (before ++ [t.episode .waiting]).map (Episode.closed t.id fate) =
      before ++ [t.episode fate] := by
  rw [List.map_append, Episode.map_closed_of_isOver hover]
  simp [Episode.closed_episode]

theorem resume (h : c.Keeps settings stream past) (clock : Clock) (id : Uuid) :
    (c.happen (.resume clock id)).Keeps settings stream (c.remember past (.resume clock id)) := by
  cases hf : c.waiting? id with
  | none =>
    rw [c.happen_resume_of_none clock hf, c.remember_resume_of_none past clock hf]
    exact h
  | some t =>
    obtain ⟨rfl, hw, before, rfl, hover, ht⟩ := h.last_of_find hf
    obtain ⟨n, hsupply⟩ := c.complete_supply clock t
    rw [c.happen_resume clock hf, c.remember_resume _ clock hf, map_closed hover]
    exact {
      settings_eq := by rw [complete_settings, h.settings_eq]
      stream_eq := by rw [hsupply]; exact h.stream_eq
      tells := h.tells.complete clock ht
      waits := .inl ⟨(Orderly.complete_idle clock hw).1, complete_processing ..,
        forall_mem_concat hover (by simp [Episode.IsOver, Turn.episode])⟩
      drawn := h.drawn.ended hsupply }

theorem drop (h : c.Keeps settings stream past) (id : Uuid) :
    (c.happen (.drop id)).Keeps settings stream (c.remember past (.drop id)) := by
  cases hf : c.waiting? id with
  | none =>
    rw [c.happen_drop_of_none hf, c.remember_drop_of_none past hf]
    exact h
  | some t =>
    obtain ⟨rfl, hw, before, rfl, hover, -⟩ := h.last_of_find hf
    rw [c.happen_drop hf, c.remember_drop _ hf, map_closed hover]
    exact {
      settings_eq := h.settings_eq
      stream_eq := h.stream_eq
      tells := h.tells.release t.id
      waits := .inl ⟨(Orderly.release_idle hw).1, (Orderly.release_idle hw).2,
        forall_mem_concat hover (by simp [Episode.IsOver, Turn.episode])⟩
      drawn := h.drawn.ended (n := 0) rfl }

theorem happen (h : c.Keeps settings stream past) (e : Happening) :
    (c.happen e).Keeps settings stream (c.remember past e) := by
  cases e with
  | submit clock message canvas => exact h.submit clock message canvas
  | resume clock id => exact h.resume clock id
  | drop id => exact h.drop id

theorem run (h : c.Keeps settings stream past) (es : List Happening) :
    (c.run es).Keeps settings stream (c.history past es) := by
  induction es generalizing c past with
  | nil => exact h
  | cons e es ih => exact ih (h.happen e)

theorem nodup (h : c.Keeps settings stream past) (hs : c.supply.GaveDistinct) :
    (past.map Episode.turn).Nodup := by
  obtain ⟨places, hmap, hsorted, hbound⟩ := h.drawn
  have hne : places.Pairwise fun i j => c.supply.stream i ≠ c.supply.stream j := by
    refine hsorted.imp_of_mem fun {i j} hi hj hlt heq => ?_
    exact Nat.ne_of_lt hlt (hs i (hbound i hi) j (hbound j hj) heq)
  rw [hmap]
  exact List.pairwise_map.2 hne

end Keeps

end Conversation

end PersonaDialogue
