import PersonaDialogue.Canvas.Default
import PersonaDialogue.Proofs.Command.Effect

/-!
# Ages that are moved

A relative command moves the age of the primary persona and both bounds of its age range by the same number of
years, and each of the three stops at 0 and at the greatest age on its own.  Steps in one direction add up, since
what has stopped stays where it is (`shiftAge_shiftAge`).  A range that is moved stays in order, and it keeps its
width as long as neither of its bounds has to stop (`relative_change_moves_range`).  So it gets narrower at the
upper end just as it does at zero (`width_lost_at_maxAge`).
-/

namespace PersonaDialogue

/-- A number of years, kept between 0 and the greatest age. -/
def clampedAge (years : Int) : Int := max 0 (min years 120)

theorem shiftAge_toInt (age : UInt32) (years : Int) :
    ((shiftAge age years).toNat : Int) = clampedAge (age.toNat + years) := by
  rw [shiftAge_toNat, clampedAge]
  omega

/-- What is clamped on the way from an age in one direction would also be clamped at the end. -/
theorem clampedAge_add {x a b : Int} (hx : 0 ≤ x ∧ x ≤ 120) (hsame : 0 ≤ a ∧ 0 ≤ b ∨ a ≤ 0 ∧ b ≤ 0) :
    clampedAge (clampedAge (x + a) + b) = clampedAge (x + a + b) := by
  unfold clampedAge
  omega

/-- **Two shifts in one direction are one shift.** -/
theorem shiftAge_shiftAge {age : UInt32} {a b : Int} (hage : age ≤ maxAge)
    (hsame : 0 ≤ a ∧ 0 ≤ b ∨ a ≤ 0 ∧ b ≤ 0) : shiftAge (shiftAge age a) b = shiftAge age (a + b) := by
  have hle : age.toNat ≤ 120 := UInt32.le_iff_toNat_le.1 hage
  have hnat : ((shiftAge (shiftAge age a) b).toNat : Int) = (shiftAge age (a + b)).toNat := by
    rw [shiftAge_toInt, shiftAge_toInt, shiftAge_toInt, clampedAge_add (by omega) hsame, Int.add_assoc]
  exact UInt32.toNat_inj.1 (Int.ofNat.inj hnat)

theorem shiftAge_zero {age : UInt32} (hage : age ≤ maxAge) : shiftAge age 0 = age := by
  have hle : age.toNat ≤ 120 := UInt32.le_iff_toNat_le.1 hage
  rw [← UInt32.toNat_inj, shiftAge_toNat]
  omega

/-- All steps in a direction have the same sign. -/
theorem Direction.years_sign (d : Direction) (step : UInt32) (n : Nat) :
    0 ≤ d.years step ∧ 0 ≤ n * d.years step ∨ d.years step ≤ 0 ∧ n * d.years step ≤ 0 := by
  cases d with
  | increase =>
    have hstep : 0 ≤ increase.years step := Int.natCast_nonneg _
    exact .inl ⟨hstep, Int.mul_nonneg (Int.natCast_nonneg n) hstep⟩
  | decrease =>
    have hstep : decrease.years step ≤ 0 := Int.neg_nonpos_of_nonneg (Int.natCast_nonneg _)
    exact .inr ⟨hstep, Int.mul_nonpos_of_nonneg_of_nonpos (Int.natCast_nonneg n) hstep⟩

/-! ### Relative commands -/

/-- The command asks for one step of the age in a direction. -/
structure Command.Steps (c : Command) (d : Direction) : Prop where
  target : c.target = .age
  action : c.action = .update ∨ c.action = .change
  operand : c.operand = some (.relative d)

theorem Command.Steps.apply_eq {c : Command} {d : Direction} (h : c.Steps d) (settings : EditSettings)
    (fresh : Uuid) (canvas : Canvas) :
    c.apply settings fresh canvas =
      canvas.withPersona .primary (canvas.primary.aged (d.years settings.ageStep)) := by
  have heffect : c.effect = .shift d := by
    rw [effect, h.target, h.operand]
    rcases h.action with haction | haction
    · rw [haction]
      rfl
    · rw [haction]
      rfl
  rw [Command.apply_eq, heffect]
  rfl

/-! ### Ranges that are moved -/

namespace AgeRange

def width (r : AgeRange) : Nat := r.max.toNat - r.min.toNat

theorem shifted_isValid {r : AgeRange} (h : r.isValid = true) (years : Int) :
    (r.shifted years).isValid = true :=
  isValid_iff.2 ⟨shiftAge_mono (isValid_iff.1 h).1 years, shiftAge_le_maxAge _ years⟩

/-- How a valid range comes out of a move by some years. -/
structure Moved (years : Int) (r r' : AgeRange) : Prop where
  valid : r'.isValid = true
  /-- Unless the upper bound has to stop, the width is kept or the lower bound is zero. -/
  lower : r.max.toNat + years ≤ 120 → r'.min = 0 ∨ r'.width = r.width
  /-- The width is kept if and only if no bound has to stop, or there was none. -/
  kept : r'.width = r.width ↔ 0 ≤ r.min.toNat + years ∧ r.max.toNat + years ≤ 120 ∨ r.width = 0
  /-- It never grows. -/
  narrower : r'.width ≤ r.width

theorem moved_shifted {r : AgeRange} (h : r.isValid = true) (years : Int) :
    r.Moved years (r.shifted years) := by
  obtain ⟨horder, hmax⟩ := isValid_iff.1 h
  have horder : r.min.toNat ≤ r.max.toNat := UInt32.le_iff_toNat_le.1 horder
  have hmax : r.max.toNat ≤ 120 := UInt32.le_iff_toNat_le.1 hmax
  have hlow : ((r.shifted years).min.toNat : Int) = clampedAge (r.min.toNat + years) := shiftAge_toInt _ _
  have hhigh : ((r.shifted years).max.toNat : Int) = clampedAge (r.max.toNat + years) := shiftAge_toInt _ _
  unfold clampedAge at hlow hhigh
  have hkept : (r.shifted years).width = r.width ↔
      0 ≤ r.min.toNat + years ∧ r.max.toNat + years ≤ 120 ∨ r.width = 0 := by
    unfold width
    omega
  refine ⟨shifted_isValid h years, fun hupper => ?_, hkept, ?_⟩
  · by_cases hlower : 0 ≤ r.min.toNat + years
    · exact .inr (hkept.2 (.inl ⟨hlower, hupper⟩))
    · left
      have hzero : (r.shifted years).min.toNat = 0 := by omega
      exact UInt32.toNat_inj.1 hzero
  · unfold width
    omega

end AgeRange

/-- **A relative command moves the age range**, which stays valid and keeps its width unless a bound has to
stop. -/
theorem relative_change_moves_range {r : AgeRange} (h : r.isValid = true) (d : Direction) (step : UInt32) :
    r.Moved (d.years step) (r.shifted (d.years step)) ∧
      ∀ (c : Command) (settings : EditSettings) (fresh : Uuid) (canvas : Canvas), c.Steps d →
        settings.ageStep = step → canvas.primary.demographics.ageRange = r →
        r.Moved (d.years step) (c.apply settings fresh canvas).primary.demographics.ageRange := by
  refine ⟨AgeRange.moved_shifted h _, fun c settings fresh canvas hc hstep hrange => ?_⟩
  subst hrange hstep
  rw [hc.apply_eq]
  exact AgeRange.moved_shifted h _

/-- The greatest step that the range of the default canvas takes without a loss, and the greatest step down. -/
theorem relative_change_moves_range_far :
    let canvas := Canvas.default fun n => ⟨BitVec.ofNat 128 n⟩
    let range : AgeRange := ⟨28, 38⟩
    let c := (Command.of .change .age "").withOperand (.relative .increase)
    let older := (c.apply ⟨82, .low⟩ ⟨0⟩ canvas).primary.demographics.ageRange
    range.isValid = true ∧ c.Steps .increase ∧ canvas.primary.demographics.ageRange = range ∧
      older.isValid = true ∧ older.width = range.width ∧
      range.Moved (-4294967295) (range.shifted (Direction.decrease.years 4294967295)) := by
  intro canvas range c older
  have hrange : range.isValid = true := by decide
  have hc : c.Steps .increase := ⟨rfl, .inr rfl, rfl⟩
  have hup := (relative_change_moves_range hrange .increase 82).2 c ⟨82, .low⟩ ⟨0⟩ canvas hc rfl rfl
  have hdown := (relative_change_moves_range hrange .decrease 4294967295).1
  exact ⟨hrange, hc, rfl, hup.valid, hup.kept.2 (.inl ⟨by decide, by decide⟩), hdown⟩

/-- **A range that has to stop at the upper end gets narrower**, although its lower bound is not zero. -/
theorem width_lost_at_maxAge :
    let range : AgeRange := ⟨100, 115⟩
    let canvas : Canvas := (Canvas.default fun n => ⟨BitVec.ofNat 128 n⟩).withPersona .primary
      { Persona.defaultPrimary with
        age := 108, demographics := { Persona.defaultPrimary.demographics with ageRange := range } }
    let c := (Command.of .update .age "make them older").withOperand (.relative .increase)
    range.isValid = true ∧ range.shifted (Direction.increase.years 10) = ⟨110, 120⟩ ∧
      (⟨110, 120⟩ : AgeRange).min ≠ 0 ∧ (⟨110, 120⟩ : AgeRange).width ≠ range.width ∧
      c.Steps .increase ∧ canvas.primary.demographics.ageRange = range ∧
      (c.apply ⟨10, .medium⟩ ⟨0⟩ canvas).primary.demographics.ageRange = ⟨110, 120⟩ := by
  intro range canvas c
  exact ⟨by decide, by decide, by decide, by decide, ⟨rfl, .inl rfl, rfl⟩, rfl, by decide⟩

end PersonaDialogue
