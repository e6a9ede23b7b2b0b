import PersonaDialogue.Canvas.Default
import PersonaDialogue.Proofs.Command.Slot
import PersonaDialogue.Proofs.Session.Replay

/-!
# The last writer wins

Some commands *put* something into a slot whatever it held before: a valid range with its middle as the age,
or a text as a trait.  Deeds on one slot leave all other slots alone, and a command that puts something there
covers whatever they did to it; so of any number of deeds on one slot that end with such a command, only the
last one shows (`Deed.last_writer_wins`).
-/

namespace PersonaDialogue

/-- The command puts something into a slot, whatever the slot held. -/
inductive Command.Puts (c : Command) : (slot : Slot) → slot.Content → Prop
  | range (r : AgeRange) (target : c.target = .age) (action : c.action = .set)
    (operand : c.operand = some (.ageRange r)) (valid : r.isValid = true) : Puts c .age (r.midpoint, r)
  | text (rank : Rank) (t : Trait) (s : String) (target : c.target = .ofRank rank)
    (action : c.action = .update ∨ c.action = .change ∨ c.action = .set) (trait : c.trait = some t)
    (operand : c.operand = some (.text s)) : Puts c (.trait rank t) s

namespace Command

variable {c : Command} {slot : Slot} {x : slot.Content}

theorem Puts.slot?_eq (h : c.Puts slot x) : c.slot? = some slot := by
  cases h with
  | range r target => exact slot?_eq_age_iff.2 target
  | text rank t s target action trait => exact slot?_eq_trait_iff.2 ⟨target, trait⟩

theorem Puts.revise_eq (h : c.Puts slot x) (settings : EditSettings) (fresh : Uuid) (y : slot.Content) :
    c.effect.revise settings fresh slot y = x := by
  cases h with
  | range r target action operand valid =>
    have heffect : c.effect = .setRange r := by
      rw [effect, target, action, operand]
      rfl
    rw [heffect]
    exact if_pos valid
  | text rank t s target action trait operand =>
    have heffect : c.effect = .rewrite rank (some t) s := by
      rw [effect, target, operand, ← trait]
      cases rank <;> rcases action with action | action | action <;> rw [action] <;> rfl
    rw [heffect]
    rfl

/-- What a command puts into a slot is there afterwards, and nothing else has changed. -/
theorem Puts.apply_eq (h : c.Puts slot x) (settings : EditSettings) (fresh : Uuid) (canvas : Canvas) :
    c.apply settings fresh canvas = canvas.withContent slot x := by
  rw [apply_eq_revise settings fresh canvas h.slot?_eq, h.revise_eq]

end Command

namespace Deed

variable {slot : Slot} {ds : List Deed}

/-- Deeds on one slot change nothing but what this slot holds. -/
theorem exists_replay_eq (edits : EditSettings) (h : ∀ d ∈ ds, d.command.slot? = some slot)
    (canvas : Canvas) : ∃ y, replay edits canvas ds = canvas.withContent slot y := by
  induction ds generalizing canvas with
  | nil => exact ⟨canvas.content slot, (canvas.withContent_content slot).symm⟩
  | cons d ds ih =>
    have hd : d.effect edits canvas = canvas.withContent slot _ :=
      Command.apply_eq_revise edits d.fresh canvas (h d List.mem_cons_self)
    obtain ⟨y, hy⟩ := ih (fun e he => h e (List.mem_cons_of_mem _ he)) (d.effect edits canvas)
    refine ⟨y, hy.trans ?_⟩
    rw [hd, Canvas.withContent_withContent]

/-- **Of deeds on one slot only the last one shows**, if it puts something into the slot; and to do it again
changes nothing. -/
theorem last_writer_wins {x : slot.Content} {last : Deed} (hlast : last.command.Puts slot x)
    (h : ∀ d ∈ ds, d.command.slot? = some slot) (edits : EditSettings) (canvas : Canvas) :
    replay edits canvas (ds ++ [last]) = last.effect edits canvas ∧
      last.effect edits canvas = canvas.withContent slot x ∧
      ∀ again : Deed, again.command = last.command →
        again.effect edits (last.effect edits canvas) = last.effect edits canvas := by
  have heffect : ∀ (d : Deed) (before : Canvas), d.command = last.command →
      d.effect edits before = before.withContent slot x := by
    intro d before hd
    exact (hd ▸ hlast).apply_eq edits d.fresh before
  obtain ⟨y, hy⟩ := exists_replay_eq edits h canvas
  have hcovered : replay edits canvas (ds ++ [last]) = canvas.withContent slot x :=
    calc replay edits canvas (ds ++ [last])
        = last.effect edits (replay edits canvas ds) := replay_append edits canvas ds [last]
      _ = (canvas.withContent slot y).withContent slot x := by rw [heffect last _ rfl, hy]
      _ = canvas.withContent slot x := canvas.withContent_withContent slot y x
  refine ⟨hcovered.trans (heffect last canvas rfl).symm, heffect last canvas rfl, fun again hagain => ?_⟩
  rw [heffect again _ hagain, heffect last canvas rfl, Canvas.withContent_withContent]

/-- A range that is not valid, a step beyond the greatest age and an operand of the wrong kind, before a range;
and an addition to a goal, which means nothing, before a text. -/
theorem last_writer_wins_shifted :
    let canvas := Canvas.default fun n => ⟨BitVec.ofNat 128 n⟩
    let aged (action : Action) (operand : Operand) : Deed :=
      ⟨⟨0⟩, ⟨0⟩, (Command.of action .age "").withOperand operand⟩
    let aimed (action : Action) (text : String) : Deed :=
      ⟨⟨0⟩, ⟨0⟩, ((Command.of action .secondaryPersona "").withTrait .goal).withText text⟩
    let ages := [aged .set (.ageRange ⟨90, 4294967295⟩), aged .change (.relative .increase),
      aged .update (.text "young")]
    let goals := [aimed .set "Rest", aimed .add "Ship"]
    let edits : EditSettings := ⟨4294967295, .low⟩
    (∀ d ∈ ages, d.command.slot? = some .age) ∧
      replay edits canvas (ages ++ [aged .set (.ageRange ⟨18, 31⟩)]) =
        canvas.withContent .age (25, ⟨18, 31⟩) ∧
      (∀ d ∈ goals, d.command.slot? = some (.trait .secondary .goal)) ∧
      replay edits canvas (goals ++ [aimed .change ""]) =
        canvas.withContent (.trait .secondary .goal) "" := by
  intro canvas aged aimed ages goals edits
  have hages : ∀ d ∈ ages, d.command.slot? = some .age := by decide
  have hgoals : ∀ d ∈ goals, d.command.slot? = some (.trait .secondary .goal) := by decide
  have hrange : (aged .set (.ageRange ⟨18, 31⟩)).command.Puts .age (25, ⟨18, 31⟩) :=
    .range ⟨18, 31⟩ rfl rfl rfl (by decide)
  have htext : (aimed .change "").command.Puts (.trait .secondary .goal) "" :=
    .text .secondary .goal "" rfl (.inr (.inl rfl)) rfl rfl
  obtain ⟨hage, hcontent, -⟩ := last_writer_wins hrange hages edits canvas
  obtain ⟨hgoal, hcontent', -⟩ := last_writer_wins htext hgoals edits canvas
  exact ⟨hages, hage.trans hcontent, hgoals, hgoal.trans hcontent'⟩

end Deed

end PersonaDialogue
