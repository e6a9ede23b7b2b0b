import Mathlib.Logic.ExistsUnique
import PersonaDialogue.Canvas.Default
import PersonaDialogue.Proofs.Command.Reply
import PersonaDialogue.Proofs.Intent.Verdict

/-!
# What the classifier asks for

The classifier gives few of all the commands that can be written down.  A command that it gives is the
plain request for its effect, read from the trimmed message; a range is in order and within the greatest
age, a persona's trait is named, and no text is empty.  It asks for nothing only if it is vague
(`command?_isPlain`).  So of what `Command.apply` guards against, nothing ever comes from the classifier,
and what the reply to such a command says is what the command does: neither is true of all commands,
since a reply looks at other parts of a command than its effect depends on.
-/

namespace PersonaDialogue

namespace AgeRange

theorem between?_sound {a b : UInt32} {r : AgeRange} (h : between? a b = some r) :
    (Effect.setRange r).Sound := by
  obtain ⟨hmin, hmax, hle⟩ := between?_toNat h
  refine ⟨UInt32.le_iff_toNat_le.2 ?_, UInt32.le_iff_toNat_le.2 hle⟩
  rw [hmin, hmax]
  exact Nat.le_trans (Nat.min_le_left _ _) (Nat.le_max_left _ _)

theorem around?_sound {age window : UInt32} {r : AgeRange} (h : around? age window = some r) :
    (Effect.setRange r).Sound := by
  obtain ⟨hage, hmin, hmax⟩ := around?_toNat h
  have hmax : r.max.toNat = Min.min (age.toNat + window.toNat) 120 := hmax
  have hmaxAge : maxAge.toNat = 120 := rfl
  refine ⟨UInt32.le_iff_toNat_le.2 ?_, UInt32.le_iff_toNat_le.2 ?_⟩
  · rw [hmin, hmax]
    omega
  · rw [hmax, hmaxAge]
    omega

end AgeRange

namespace Intent

/-- The command is the plain request for its effect, which is sound, and is vague if it asks for
nothing. -/
structure IsPlain (c : Command) (raw : String) : Prop where
  sound : c.effect.Sound
  eq_request : c = c.effect.request c.confidence raw
  vague_of_nothing : c.effect = .nothing → c.confidence = vague

theorem isPlain_request {e : Effect} {confidence : Confidence} {raw : String} (hsound : e.Sound)
    (hvague : e = .nothing → confidence = vague) : IsPlain (e.request confidence raw) raw := by
  have heffect := e.effect_request confidence raw
  have hconfidence : (e.request confidence raw).confidence = confidence := by cases e <;> rfl
  exact ⟨by rwa [heffect], by rw [heffect, hconfidence], by rwa [heffect, hconfidence]⟩

/-! ### Builders -/

section Builders

variable {m : Match} {c : Command}

theorem setRange_plain {r : AgeRange} (h : (Effect.setRange r).Sound) :
    IsPlain (m.setRange r) (String.ofList m.message) :=
  isPlain_request (e := .setRange r) h nofun

theorem buildAgeRange_plain (h : buildAgeRange m = some c) :
    IsPlain c (String.ofList m.message) := by
  obtain ⟨a, -, h⟩ := Option.bind_eq_some_iff.1 h
  obtain ⟨b, -, h⟩ := Option.bind_eq_some_iff.1 h
  obtain ⟨range, hrange, h⟩ := Option.bind_eq_some_iff.1 h
  obtain rfl := Option.some.inj h
  exact setRange_plain (AgeRange.between?_sound hrange)

theorem buildSingleAge_plain (h : buildSingleAge m = some c) :
    IsPlain c (String.ofList m.message) := by
  obtain ⟨a, -, h⟩ := Option.bind_eq_some_iff.1 h
  obtain ⟨range, hrange, h⟩ := Option.bind_eq_some_iff.1 h
  obtain rfl := Option.some.inj h
  exact setRange_plain (AgeRange.around?_sound hrange)

theorem buildRelative_plain {d : Direction} (h : buildRelative d m = some c) :
    IsPlain c (String.ofList m.message) := by
  obtain rfl := Option.some.inj h
  exact isPlain_request (e := .shift d) trivial nofun

theorem operand?_ne_empty {index : Nat} {text : String} (h : m.operand? index = some text) :
    text ≠ "" := by
  obtain ⟨⟨start, stop⟩, -, h⟩ := Option.bind_eq_some_iff.1 h
  obtain ⟨cut, -, h⟩ := Option.bind_eq_some_iff.1 h
  obtain ⟨hne, htext⟩ := Option.ite_none_left_eq_some.1 h
  obtain rfl := Option.some.inj htext
  intro hempty
  have hnil : cleaned cut = [] := by
    rw [← String.toList_ofList (l := cleaned cut), hempty]
    rfl
  exact hne (List.isEmpty_iff.2 hnil)

theorem buildTrait_plain (h : buildTrait m = some c) : IsPlain c (String.ofList m.message) := by
  obtain ⟨word, -, h⟩ := Option.bind_eq_some_iff.1 h
  obtain ⟨trait, -, h⟩ := Option.bind_eq_some_iff.1 h
  obtain ⟨text, htext, h⟩ := Option.bind_eq_some_iff.1 h
  obtain rfl := Option.some.inj h
  exact isPlain_request (e := .rewrite _ (some trait) text) ⟨nofun, operand?_ne_empty htext⟩ nofun

theorem buildEdit_add_plain {shelf : Shelf} (h : buildEdit .add shelf m = some c) :
    IsPlain c (String.ofList m.message) := by
  obtain ⟨text, htext, h⟩ := Option.bind_eq_some_iff.1 h
  obtain rfl := Option.some.inj h
  exact isPlain_request (e := .add shelf text) (operand?_ne_empty htext) nofun

theorem buildEdit_remove_plain {shelf : Shelf} (h : buildEdit .remove shelf m = some c) :
    IsPlain c (String.ofList m.message) := by
  obtain ⟨text, htext, h⟩ := Option.bind_eq_some_iff.1 h
  obtain rfl := Option.some.inj h
  exact isPlain_request (e := .remove shelf text) (operand?_ne_empty htext) nofun

theorem embeddedRange?_sound {s : List Char} {r : AgeRange} (h : embeddedRange? s = some r) :
    (Effect.setRange r).Sound := by
  obtain ⟨trace, -, h⟩ := Option.bind_eq_some_iff.1 h
  obtain ⟨a, -, h⟩ := Option.bind_eq_some_iff.1 h
  obtain ⟨b, -, h⟩ := Option.bind_eq_some_iff.1 h
  exact AgeRange.between?_sound h

theorem buildGeneral_plain (hm : m.confidence = vague) (h : buildGeneral m = some c) :
    IsPlain c (String.ofList m.message) := by
  unfold buildGeneral at h
  split at h
  · next r hr =>
    obtain rfl := Option.some.inj h
    exact isPlain_request (e := .setRange r) (embeddedRange?_sound hr) nofun
  · obtain rfl := Option.some.inj h
    have hclamped : m.confidence.clamped = vague := by
      rw [hm]
      exact clamped_of_mem vague (by simp [confidences])
    exact isPlain_request (e := .nothing) trivial fun _ => hclamped

theorem build_plain {r : Rule} (hr : r ∈ rules) (hm : m.confidence = r.confidence)
    (h : r.build m = some c) : IsPlain c (String.ofList m.message) := by
  simp only [rules, List.mem_cons, List.not_mem_nil, or_false] at hr
  rcases hr with rfl | rfl | rfl | rfl | rfl | rfl | rfl | rfl | rfl | rfl | rfl | rfl | rfl | rfl
  · exact buildAgeRange_plain h
  · exact buildSingleAge_plain h
  · exact buildRelative_plain h
  · exact buildRelative_plain h
  · exact buildTrait_plain h
  · exact buildEdit_add_plain h
  · exact buildEdit_remove_plain h
  · exact buildEdit_add_plain h
  · exact buildEdit_remove_plain h
  · exact buildEdit_add_plain h
  · exact buildEdit_remove_plain h
  · exact buildEdit_add_plain h
  · exact buildEdit_remove_plain h
  · exact buildGeneral_plain hm h

end Builders

/-- A command of the classifier is a plain request, read from the trimmed message. -/
theorem command?_isPlain {window : UInt32} {message : String} {c : Command}
    (h : command? window message = some c) :
    IsPlain c (String.ofList (Text.trim message.toList)) := by
  obtain ⟨r, hr, m, hm, hbuild⟩ := command?_built h
  rw [← hm.message_eq]
  exact build_plain hr hm.confidence_eq hbuild

theorem unjudged_not_mem : Confidence.unjudged ∉ confidences := by decide +kernel

/-- What holds of a command that the classifier gives for a message. -/
structure Contract (message : String) (c : Command) : Prop where
  raw_eq : c.raw = String.ofList (Text.trim message.toList)
  confidence_mem : c.confidence ∈ confidences
  confidence_ne : c.confidence ≠ Confidence.unjudged
  /-- The command has exactly one of the shapes of plain requests. -/
  shape : ∃! e : Effect, e.Sound ∧ c = e.request c.confidence c.raw ∧
    (e = .nothing → c.confidence = vague)
  /-- No range is turned away. -/
  range_valid : ∀ r, c.effect = .setRange r → r.isValid = true
  /-- No persona is left as it is for want of a trait. -/
  trait_named : ∀ rank text, c.effect ≠ .rewrite rank none text
  /-- Only the vague request for a change of the primary persona asks for nothing. -/
  nothing_iff : c.effect = .nothing ↔ c = Effect.nothing.request vague c.raw

/-- **Every command of the classifier keeps the contract.** -/
theorem command?_contract {window : UInt32} {message : String} {c : Command}
    (h : command? window message = some c) : Contract message c := by
  have hplain := command?_isPlain h
  obtain ⟨hsound, heq, hvague⟩ := hplain
  have hraw : c.raw = String.ofList (Text.trim message.toList) := by
    rw [heq]
    exact Effect.request_raw _ _ _
  have hmem := command?_confidence h
  refine ⟨hraw, hmem, fun heq => unjudged_not_mem (heq ▸ hmem), ?_, ?_, ?_, ?_⟩
  · refine ⟨c.effect, ⟨hsound, by rwa [hraw], hvague⟩, ?_⟩
    rintro e ⟨-, he, -⟩
    rw [he, Effect.effect_request]
  · intro r hr
    rw [hr] at hsound
    exact Effect.isValid_of_sound hsound
  · intro rank text hrewrite
    rw [hrewrite] at hsound
    exact hsound.1 rfl
  · constructor
    · intro hnothing
      rw [hraw, ← hvague hnothing, ← hnothing]
      exact heq
    · intro hnothing
      rw [hnothing, Effect.effect_request]

/-- A trait of the secondary persona, with quotes and a full stop around the operand. -/
theorem command?_contract_secondary :
    let message := "  Please RENAME the secondary persona's job to \"Nurse, night shift\".\t"
    let c : Command := ⟨.update, .secondaryPersona, some .occupation,
      some (.text "Nurse, night shift"), explicit,
      "Please RENAME the secondary persona's job to \"Nurse, night shift\"."⟩
    command? 0 message = some c ∧ Contract message c := by
  intro message c
  have h : command? 0 message = some c := by decide +kernel
  exact ⟨h, command?_contract h⟩

/-! ### What is said is done -/

/-- The reply to a command and its effect on a canvas agree. -/
structure KeepsWord (settings : EditSettings) (fresh : Uuid) (before : Canvas) (c : Command) :
    Prop where
  /-- A command without an operand gets the general reply and changes nothing. -/
  general : c.operand = none →
    c.describe = acknowledgement ∧ c.apply settings fresh before = before
  /-- Any other gets a specific reply, which can be read in one way only. -/
  specific : c.operand ≠ none →
    c.describe ≠ acknowledgement ∧ ∃! e : Effect, c.describe = e.sentence
  /-- What a specific reply says is so. -/
  done : c.operand ≠ none → ∀ e : Effect, c.describe = e.sentence →
    e.Done settings before (c.apply settings fresh before)

/-- **Every command of the classifier does what the reply to it says.** -/
theorem command?_keepsWord {window : UInt32} {message : String} {c : Command}
    (h : command? window message = some c) (settings : EditSettings) (fresh : Uuid) (before : Canvas) :
    KeepsWord settings fresh before c := by
  obtain ⟨hsound, heq, -⟩ := command?_isPlain h
  have happly := c.apply_eq settings fresh before
  have hreply : c.describe = c.effect.sentence := by
    rw [heq, Effect.effect_request]
    exact Effect.describe_request _ _ _
  have hoperand : c.operand = none ↔ c.effect = .nothing := by
    rw [heq, Effect.effect_request]
    exact Effect.request_operand_eq_none
  have hspecific : c.operand ≠ none → c.effect.IsSpecific := fun hne =>
    Effect.isSpecific_of_sound hsound (mt hoperand.2 hne)
  have hunique : c.operand ≠ none → ∀ e : Effect, c.describe = e.sentence → e = c.effect := by
    intro hne e he
    exact (Effect.eq_of_sentence (hspecific hne) (hreply.symm.trans he)).symm
  refine ⟨fun hnone => ?_, fun hne => ?_, fun hne e he => ?_⟩
  · rw [happly, hreply, hoperand.1 hnone]
    exact ⟨String.append_empty, rfl⟩
  · rw [hreply]
    exact ⟨Effect.isSpecific_iff.1 (hspecific hne), c.effect, rfl,
      fun e he => hunique hne e (hreply.trans he)⟩
  · rw [hunique hne e he, happly]
    exact Effect.done_on hsound settings fresh before

/-- A removal in other letters than those of the element, from the default canvas. -/
theorem command?_keepsWord_removal :
    let message := "Delete the pain point about 'DISCONNECTED tools'!"
    let c : Command := ⟨.remove, .painPoint, none, some (.text "DISCONNECTED tools"), explicit, message⟩
    let before := Canvas.default fun n => ⟨BitVec.ofNat 128 n⟩
    command? 0 message = some c ∧ KeepsWord .default ⟨0⟩ before c := by
  intro message c before
  have h : command? 0 message = some c := by decide +kernel
  exact ⟨h, command?_keepsWord h _ _ _⟩

end Intent

end PersonaDialogue
