import PersonaDialogue.Proofs.Command.Removal
import PersonaDialogue.Proofs.Intent.Compatible
import PersonaDialogue.Proofs.Session.Replay
import PersonaDialogue.Proofs.Session.Verbatim

/-!
# Adding and removing in the same words

Whatever `add pain point ...` puts into a collection is gone after `remove pain point ...` with the same text,
and so for the other collections, provided that the two messages are read as an addition and as a removal.
What was there before is left as it is, apart from the elements that mention the text of the removal
(`added_then_removed`).  That text need not be the one that was added: of a pain point about something, only
that something is looked for (`added_then_removed_about`).
-/

namespace PersonaDialogue

open Intent

variable {s : Session} {clock : Clock} {message : String} {c : Command} {shelf : Shelf} {text : String}

namespace Session

/-- A session that has answered a message is ready for the next one. -/
theorem Answers.idle (h : s.Answers clock message c) :
    (s.send clock message).1.conversation.processing = false := by
  obtain ⟨report, -, hok, -⟩ := h
  rcases s.send_cases clock message with ⟨⟨refusal, hsend⟩, -⟩ | ⟨hsend, -⟩
  · rw [hsend] at hok
    cases hok
  · rw [hsend]
    exact Conversation.complete_processing _ _ _

theorem send_settings (s : Session) (clock : Clock) (message : String) :
    (s.send clock message).1.conversation.settings = s.conversation.settings :=
  s.talk_settings (.send clock message)

/-- After an addition there is one more element, at the end of the collection. -/
theorem Answers.elements_add (h : s.Answers clock message c) (heffect : c.effect = .add shelf text) :
    ∃ x : shelf.Element, shelf.textOf x = text ∧
      (s.send clock message).1.canvas.elements shelf = s.canvas.elements shelf ++ [x] := by
  obtain ⟨-, fresh, -, -, -, -, hcanvas⟩ := h
  rw [hcanvas, Command.apply_eq, heffect]
  exact Canvas.elements_append _ _ _

/-- After a removal those elements are left that do not mention the text. -/
theorem Answers.elements_remove (h : s.Answers clock message c) (heffect : c.effect = .remove shelf text) :
    (s.send clock message).1.canvas.elements shelf =
      (s.canvas.elements shelf).filter fun x => !Canvas.mentions text (shelf.textOf x) := by
  obtain ⟨-, fresh, -, -, -, -, hcanvas⟩ := h
  rw [hcanvas, Command.apply_eq, heffect]
  exact Canvas.elements_removeMentioning text

end Session

theorem command?_of_classify {window : UInt32} {rule : String}
    (h : classify window message = some ⟨rule, some c⟩) : command? window message = some c := by
  rw [command?, h]
  rfl

/-- **What was added is gone after a removal in the same words**, and all that does not mention the text of
the removal stays as it was. -/
theorem added_then_removed {c' : Command} (hidle : s.conversation.processing = false)
    (hadd : classify s.conversation.settings.ageWindow (phrase "add" shelf text) =
      some ⟨(Edit.add shelf).rule.name, some c⟩)
    (hremove : classify s.conversation.settings.ageWindow (phrase "remove" shelf text) =
      some ⟨(Edit.remove shelf).rule.name, some c'⟩) (clock clock' : Clock) :
    let s₁ := (s.send clock (phrase "add" shelf text)).1
    let s₂ := (s₁.send clock' (phrase "remove" shelf text)).1
    s.Answers clock (phrase "add" shelf text) c ∧ s₁.Answers clock' (phrase "remove" shelf text) c' ∧
      ∃ added removed, c.effect = .add shelf added ∧ c'.effect = .remove shelf removed ∧
        (∃ x, shelf.textOf x = added ∧ s₁.canvas.elements shelf = s.canvas.elements shelf ++ [x]) ∧
        (∀ x ∈ s₂.canvas.elements shelf, shelf.textOf x ≠ added) ∧
        s₂.canvas.elements shelf =
          (s.canvas.elements shelf).filter fun x => !Canvas.mentions removed (shelf.textOf x) := by
  intro s₁ s₂
  obtain ⟨added, removed, heffect, heffect', hmentions⟩ := removal_finds_addition hadd hremove
  have hfirst : s.Answers clock (phrase "add" shelf text) c :=
    Session.send_of_command hidle (command?_of_classify hadd) clock
  have hwindow : s₁.conversation.settings = s.conversation.settings := s.send_settings clock _
  have hsecond : s₁.Answers clock' (phrase "remove" shelf text) c' :=
    Session.send_of_command hfirst.idle (command?_of_classify (hwindow ▸ hremove)) clock'
  obtain ⟨x, hx, helements⟩ := hfirst.elements_add heffect
  have hkept := hsecond.elements_remove heffect'
  refine ⟨hfirst, hsecond, added, removed, heffect, heffect', ⟨x, hx, helements⟩, ?_, ?_⟩
  · intro y hy heq
    obtain ⟨-, hfree⟩ := List.mem_filter.1 (hkept ▸ hy)
    simp [heq, hmentions] at hfree
  · rw [hkept, helements, List.filter_append, List.filter_singleton, hx, hmentions]
    exact List.append_nil _

/-- A pain point about something in quotes, of which the removal looks for the end only.  It ends with a
capital sigma, which keeps an element where the word goes on. -/
theorem added_then_removed_about :
    let canvas : Canvas := { Canvas.default (fun n => ⟨BitVec.ofNat 128 n⟩) with
      painPoints := [⟨"p0", "ΟΔΟΣΗΜΑΝΣΗ", .low⟩, ⟨"p1", "no οδος here", .high⟩] }
    let s := Session.startWith .default (.ofStream fun n => ⟨BitVec.ofNat 128 n⟩) canvas
    let now : Instant := ⟨⟨2024, 1, 1⟩, 9, 0, 0, 0⟩
    let text := ": About  'ΟΔΟΣ'!"
    let c : Command := ⟨.add, .painPoint, none, some (.text "About  'ΟΔΟΣ"), explicit,
      "add pain point : About  'ΟΔΟΣ'!"⟩
    let c' : Command := ⟨.remove, .painPoint, none, some (.text "ΟΔΟΣ"), explicit,
      "remove pain point : About  'ΟΔΟΣ'!"⟩
    let s₁ := (s.send now (phrase "add" .painPoints text)).1
    let s₂ := (s₁.send now (phrase "remove" .painPoints text)).1
    s.conversation.processing = false ∧
      classify 5 (phrase "add" .painPoints text) = some ⟨(Edit.add .painPoints).rule.name, some c⟩ ∧
      classify 5 (phrase "remove" .painPoints text) = some ⟨(Edit.remove .painPoints).rule.name, some c'⟩ ∧
      (∃ x, Shelf.textOf .painPoints x = "About  'ΟΔΟΣ" ∧
        s₁.canvas.elements .painPoints = s.canvas.elements .painPoints ++ [x]) ∧
      s₂.canvas.elements .painPoints = [(⟨"p0", "ΟΔΟΣΗΜΑΝΣΗ", .low⟩ : PainPoint)] := by
  intro canvas s now text c c' s₁ s₂
  have hadd : classify 5 (phrase "add" .painPoints text) = some ⟨(Edit.add .painPoints).rule.name, some c⟩ := by
    decide +kernel
  have hremove : classify 5 (phrase "remove" .painPoints text) =
      some ⟨(Edit.remove .painPoints).rule.name, some c'⟩ := by decide +kernel
  obtain ⟨-, -, added, removed, heffect, heffect', hadded, -, hkept⟩ :=
    added_then_removed (s := s) rfl hadd hremove now now
  obtain rfl : "About  'ΟΔΟΣ" = added := (Effect.add.inj heffect).2
  obtain rfl : "ΟΔΟΣ" = removed := (Effect.remove.inj heffect').2
  refine ⟨rfl, hadd, hremove, hadded, hkept.trans ?_⟩
  show canvas.painPoints.filter (fun x => !Canvas.mentions "ΟΔΟΣ" x.description) = _
  decide +kernel

end PersonaDialogue
