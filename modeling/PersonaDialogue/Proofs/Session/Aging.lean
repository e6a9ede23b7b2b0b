import PersonaDialogue.Canvas.Default
import PersonaDialogue.Proofs.Age.Shift
import PersonaDialogue.Proofs.Command.Frame
import PersonaDialogue.Proofs.Session.Replay

/-!
# Steps of age add up

Any number of relative commands in one direction moves the age of the primary persona and the bounds of its age
range just as far as one shift by all their years would (`Deed.steps_add_up`).  Each of the three values is clamped
at every step, and once it has reached an end it stays there, so that nothing is lost by clamping early.  This
takes ages that are none above the greatest: an age that is greater comes down to the greatest with the first step.
-/

namespace PersonaDialogue

/-- The age and both bounds of the age range are no greater than the greatest age. -/
structure Persona.WithinAges (p : Persona) : Prop where
  age : p.age ≤ maxAge
  min : p.demographics.ageRange.min ≤ maxAge
  max : p.demographics.ageRange.max ≤ maxAge

/-- The age and the age range of the primary persona have moved by some years, each value as far as ages go, and
nothing else has changed. -/
structure Canvas.Aged (years : Int) (before after : Canvas) : Prop where
  age : (after.primary.age.toNat : Int) = clampedAge (before.primary.age.toNat + years)
  min : (after.primary.demographics.ageRange.min.toNat : Int) =
    clampedAge (before.primary.demographics.ageRange.min.toNat + years)
  max : (after.primary.demographics.ageRange.max.toNat : Int) =
    clampedAge (before.primary.demographics.ageRange.max.toNat + years)
  outside : before.AgreeOutside .age after

theorem Canvas.aged_withPersona (canvas : Canvas) (years : Int) :
    canvas.Aged years (canvas.withPersona .primary (canvas.primary.aged years)) where
  age := shiftAge_toInt _ _
  min := shiftAge_toInt _ _
  max := shiftAge_toInt _ _
  outside := canvas.withPersona_agreeOutside_age _ _

namespace Persona

variable {p : Persona}

theorem aged_withinAges (p : Persona) (years : Int) : (p.aged years).WithinAges :=
  ⟨shiftAge_le_maxAge _ _, shiftAge_le_maxAge _ _, shiftAge_le_maxAge _ _⟩

theorem aged_zero (h : p.WithinAges) : p.aged 0 = p := by
  unfold aged AgeRange.shifted
  rw [shiftAge_zero h.age, shiftAge_zero h.min, shiftAge_zero h.max]

theorem aged_aged (h : p.WithinAges) {a b : Int} (hsame : 0 ≤ a ∧ 0 ≤ b ∨ a ≤ 0 ∧ b ≤ 0) :
    (p.aged a).aged b = p.aged (a + b) := by
  simp only [aged, AgeRange.shifted]
  rw [shiftAge_shiftAge h.age hsame, shiftAge_shiftAge h.min hsame, shiftAge_shiftAge h.max hsame]

end Persona

namespace Deed

variable {canvas : Canvas} {ds : List Deed} {d : Direction} {edits : EditSettings}

/-- Steps of age, one after the other, are one shift by all their years. -/
theorem replay_steps (hages : canvas.primary.WithinAges) (hds : ∀ x ∈ ds, x.command.Steps d) :
    replay edits canvas ds =
      canvas.withPersona .primary (canvas.primary.aged (ds.length * d.years edits.ageStep)) := by
  induction ds generalizing canvas with
  | nil =>
    have hzero : (([] : List Deed).length : Int) * d.years edits.ageStep = 0 := Int.zero_mul _
    rw [hzero, Persona.aged_zero hages]
    rfl
  | cons x ds ih =>
    have hstep : x.effect edits canvas =
        canvas.withPersona .primary (canvas.primary.aged (d.years edits.ageStep)) :=
      (hds x List.mem_cons_self).apply_eq edits x.fresh canvas
    have hlength : ((x :: ds).length : Int) * d.years edits.ageStep =
        d.years edits.ageStep + ds.length * d.years edits.ageStep := by
      rw [List.length_cons, Int.natCast_succ, Int.add_mul, Int.one_mul, Int.add_comm]
    have hlater : ∀ y ∈ ds, y.command.Steps d := fun y hy => hds y (List.mem_cons_of_mem x hy)
    have hages' : (x.effect edits canvas).primary.WithinAges := by
      rw [hstep]
      exact canvas.primary.aged_withinAges _
    calc replay edits canvas (x :: ds)
        = replay edits (x.effect edits canvas) ds := rfl
      _ = (x.effect edits canvas).withPersona .primary
            ((x.effect edits canvas).primary.aged (ds.length * d.years edits.ageStep)) := ih hages' hlater
      _ = canvas.withPersona .primary
            ((canvas.primary.aged (d.years edits.ageStep)).aged (ds.length * d.years edits.ageStep)) := by
        rw [hstep]
        rfl
      _ = _ := by
        rw [Persona.aged_aged hages (d.years_sign edits.ageStep ds.length), hlength]

/-- **Relative commands in one direction add up.** -/
theorem steps_add_up (hages : canvas.primary.WithinAges) (hds : ∀ x ∈ ds, x.command.Steps d)
    (edits : EditSettings) :
    let years := ds.length * d.years edits.ageStep
    replay edits canvas ds = canvas.withPersona .primary (canvas.primary.aged years) ∧
      canvas.Aged years (replay edits canvas ds) := by
  intro years
  have hreplay : replay edits canvas ds = canvas.withPersona .primary (canvas.primary.aged years) :=
    replay_steps hages hds
  refine ⟨hreplay, ?_⟩
  rw [hreplay]
  exact canvas.aged_withPersona years

/-- Three steps of seven years down to zero, of an age that is not in its range. -/
theorem steps_add_up_toZero :
    let range : AgeRange := ⟨19, 60⟩
    let canvas : Canvas := (Canvas.default fun n => ⟨BitVec.ofNat 128 n⟩).withPersona .primary
      { Persona.defaultPrimary with
        age := 120, demographics := { Persona.defaultPrimary.demographics with ageRange := range } }
    let younger (action : Action) : Deed :=
      ⟨⟨0⟩, ⟨0⟩, (Command.of action .age "").withOperand (.relative .decrease)⟩
    let ds := [younger .update, younger .change, younger .update]
    let after := replay ⟨7, .low⟩ canvas ds
    canvas.primary.WithinAges ∧ (∀ x ∈ ds, x.command.Steps .decrease) ∧ after.primary.age = 99 ∧
      after.primary.demographics.ageRange = ⟨0, 39⟩ ∧ canvas.AgreeOutside .age after := by
  intro range canvas younger ds after
  have hages : canvas.primary.WithinAges := ⟨by decide, by decide, by decide⟩
  have hds : ∀ x ∈ ds, x.command.Steps .decrease := by
    intro x hx
    simp only [ds, List.mem_cons, List.not_mem_nil, or_false] at hx
    rcases hx with rfl | rfl | rfl
    · exact ⟨rfl, .inl rfl, rfl⟩
    · exact ⟨rfl, .inr rfl, rfl⟩
    · exact ⟨rfl, .inl rfl, rfl⟩
  obtain ⟨hshift, haged⟩ := steps_add_up hages hds ⟨7, .low⟩
  have hafter : after = canvas.withPersona .primary (canvas.primary.aged (-21)) := hshift
  refine ⟨hages, hds, ?_, ?_, haged.outside⟩
  · rw [hafter]
    decide
  · rw [hafter]
    decide

end Deed

end PersonaDialogue
