import PersonaDialogue.Proofs.Command.Reply
import PersonaDialogue.Proofs.Intent.PlainWords
import PersonaDialogue.Proofs.Session.Run

/-!
# Plain words, from the message to the canvas

A session that is not busy carries out whatever command a message asks for, on the canvas that it has, and
answers with the reply to that command (`Session.send_of_command`).  So an operand that the classifier
takes as it is goes into the canvas as it is, and comes back between quotes in the reply
(`plain_words_verbatim`).
-/

namespace PersonaDialogue

open Intent

theorem Intent.not_blank_of_command {window : UInt32} {message : String} {c : Command}
    (h : command? window message = some c) : Text.isAllBlank message.toList = false := by
  by_contra hblank
  have hstart : Text.trimStart message.toList = [] := by
    refine List.dropWhile_eq_nil_iff.2 ?_
    simpa [Text.isAllBlank] using hblank
  have htrim : Text.trim message.toList = [] := by
    rw [Text.trim, hstart]
    rfl
  rw [command?, classify, classifyBy_eq, if_pos htrim] at h
  cases h

/-- The session takes a message and answers it with a command: the report says so, its canvas is the one
that the session then has, and that is the canvas before after the command. -/
def Session.Answers (s : Session) (clock : Clock) (message : String) (c : Command) : Prop :=
  ∃ report fresh, (s.send clock message).2 = .ok report ∧ report.command = some c ∧
    report.reply.text = c.describe ∧ report.canvas = some (s.send clock message).1.canvas ∧
    (s.send clock message).1.canvas = c.apply s.conversation.settings.edits fresh s.canvas

/-- **A session that is not busy carries out the command of a message.** -/
theorem Session.send_of_command {s : Session} {message : String} {c : Command}
    (hidle : s.conversation.processing = false)
    (hc : command? s.conversation.settings.ageWindow message = some c) (clock : Clock) :
    s.Answers clock message c := by
  have hsubmit := s.conversation.submit_idle clock (not_blank_of_command hc) hidle s.canvas
  have hturn : (s.conversation.turnFor message s.canvas).command = some c := hc
  have hcanvas : (s.conversation.turnFor message s.canvas).canvas = s.canvas := rfl
  generalize s.conversation.turnFor message s.canvas = turn at hsubmit hturn hcanvas
  have hsettings := s.conversation.accept_settings clock turn
  generalize s.conversation.accept clock turn = accepted at hsubmit hsettings
  have houtcome : accepted.outcome turn =
      some (c.apply s.conversation.settings.edits accepted.supply.next s.canvas) := by
    rw [Conversation.outcome, hturn, hsettings, hcanvas, Option.map_some]
  generalize hlater : clock.after Conversation.looks = later
  have hsend : s.send clock message =
      (⟨c.apply s.conversation.settings.edits accepted.supply.next s.canvas,
        (accepted.complete later turn).1⟩, .ok (accepted.complete later turn).2) := by
    simp only [send, submit, hsubmit, hlater, answer, Conversation.complete_canvas, houtcome,
      Option.getD_some]
  refine ⟨(accepted.complete later turn).2, accepted.supply.next, ?_⟩
  rw [hsend]
  refine ⟨rfl, hturn, ?_, houtcome, rfl⟩
  rw [Conversation.complete_text, Conversation.replyText, hturn, Option.map_some, Option.getD_some]

/-- A message is read by an edit as the plain request for an effect, whatever the window is, and a session
that takes it carries the effect out and replies with the text. -/
structure CarriedOut (message : String) (e : Edit) (effect : Effect) (confidence : Confidence)
    (reply : String) : Prop where
  verdict : ∀ window, classify window message =
    some ⟨e.rule.name, some (effect.request confidence message)⟩
  turn : ∀ (s : Session) (clock : Clock), s.conversation.processing = false →
    ∃ report, (s.send clock message).2 = .ok report ∧ report.reply.text = reply ∧
      report.canvas = some (s.send clock message).1.canvas ∧
      effect.Done s.conversation.settings.edits s.canvas (s.send clock message).1.canvas

theorem carriedOut_of_classify {message : String} {e : Edit} {effect : Effect} {confidence : Confidence}
    (hsound : effect.Sound)
    (h : ∀ window, classify window message = some ⟨e.rule.name, some (effect.request confidence message)⟩) :
    CarriedOut message e effect confidence (effect.request confidence message).describe := by
  refine ⟨h, fun s clock hidle => ?_⟩
  have hc : command? s.conversation.settings.ageWindow message =
      some (effect.request confidence message) := by
    rw [command?, h]
    rfl
  obtain ⟨report, fresh, hok, -, hreply, hcanvas, happly⟩ := Session.send_of_command hidle hc clock
  refine ⟨report, hok, hreply, hcanvas, ?_⟩
  rw [happly, Command.apply_eq, Effect.effect_request]
  exact Effect.done_on hsound _ _ _

theorem Intent.IsClean.ne_empty {text : String} (h : IsClean text) : text ≠ "" := by
  rintro rfl
  exact h.ne_nil rfl

/-- **A clean operand arrives as it was typed**, in the canvas and in the reply, unless a rule about ages
takes the message. -/
theorem plain_words_verbatim {text : String} (h : IsClean text) :
    (∀ shelf, text.toList.head? ≠ some ':' → Ageless (phrase "add" shelf text) →
      CarriedOut (phrase "add" shelf text) (.add shelf) (.add shelf text) (Edit.add shelf).rule.confidence
        ("I've added the " ++ shelf.label ++ ": " ++ inQuotes text ++ ".")) ∧
    ∀ rank word trait, Trait.ofWord? word = some trait → Ageless (traitPhrase rank word text) →
      CarriedOut (traitPhrase rank word text) .trait (.rewrite rank (some trait) text) explicit
        ("I've updated the " ++ rank.label ++ " persona's " ++ trait.label ++ " to " ++ inQuotes text ++ ".") := by
  refine ⟨fun shelf hcolon hage => ?_, fun rank word trait htrait hage => ?_⟩
  · have hsound : (Effect.add shelf text).Sound := h.ne_empty
    have hout := carriedOut_of_classify hsound fun window => classify_add h shelf hcolon hage window
    cases shelf <;> exact hout
  · have hsound : (Effect.rewrite rank (some trait) text).Sound := ⟨nofun, h.ne_empty⟩
    have hout := carriedOut_of_classify hsound fun window => classify_trait h rank htrait hage window
    cases rank <;> exact hout

/-- An operand that speaks of setting a name, with quotes inside and letters of two bytes. -/
theorem plain_words_verbatim_keywords :
    let text := "to: \"set name to İna\" = ΑΣ"
    IsClean text ∧ text.toList.head? ≠ some ':' ∧ Ageless (phrase "add" .stages text) ∧
      CarriedOut (phrase "add" .stages text) (.add .stages) (.add .stages text)
        (Edit.add .stages).rule.confidence ("I've added the journey stage: " ++ inQuotes text ++ ".") ∧
      Trait.ofWord? "job" = some .occupation ∧ Ageless (traitPhrase .secondary "job" text) ∧
      CarriedOut (traitPhrase .secondary "job" text) .trait
        (.rewrite .secondary (some .occupation) text) explicit
        ("I've updated the secondary persona's occupation to " ++ inQuotes text ++ ".") := by
  intro text
  have hclean : IsClean text := ⟨by decide +kernel, by decide +kernel, by decide +kernel⟩
  have hcolon : text.toList.head? ≠ some ':' := by decide +kernel
  have hadd : Ageless (phrase "add" .stages text) := by decide +kernel
  have hset : Ageless (traitPhrase .secondary "job" text) := by decide +kernel
  have hword : Trait.ofWord? "job" = some .occupation := by decide
  obtain ⟨hadds, hsets⟩ := plain_words_verbatim hclean
  exact ⟨hclean, hcolon, hadd, hadds .stages hcolon hadd, hword, hset,
    hsets .secondary "job" .occupation hword hset⟩

end PersonaDialogue
