import PersonaDialogue.Proofs.Command.Effect
import PersonaDialogue.Proofs.Word.Operation

/-!
# Ages worked out in words

What commands do with ages, step by step as a machine does it: years are signed words of 64 bits, an age is
widened to one before it is moved, and what comes out is clamped before it is put back into 32 bits.  The
results are those of `shiftAge`, `midpoint` and `around?`, and no step loses anything.  For the middle of a
range this needs that the range is valid, which is looked up before (`Effect.inWords`).
-/

namespace PersonaDialogue

open Worked

/-- The age that lies some years away, worked out in signed words. -/
def shiftAgeInWords (age : UInt32) (years : Int64) : Worked UInt32 := do
  let wide ← widen age
  let moved ← shift wide years
  narrow (clamped moved)

theorem shiftAgeInWords_ensures (age : UInt32) {years : Int64} (hyears : years.toInt.natAbs < 2 ^ 32) :
    (shiftAgeInWords age years).Ensures (· = shiftAge age years.toInt) := by
  refine (ensures_widen age).bind fun wide hwide => ?_
  have hroom : wide.toInt.natAbs < 2 ^ 32 := hwide ▸ age.toNat_lt
  refine (ensures_shift hroom hyears).bind fun moved hmoved => ?_
  obtain ⟨hvalue, hsafe⟩ := ensures_narrow moved
  refine ⟨?_, hsafe⟩
  rw [← UInt32.toNat_inj, shiftAge_toNat, ← hwide, ← hmoved]
  omega

namespace Direction

/-- A number of years in a direction, as a signed word. -/
def yearsInWords (step : UInt32) : Direction → Worked Int64
  | increase => widen step
  | decrease => do
    let wide ← widen step
    negate wide

theorem yearsInWords_ensures (d : Direction) (step : UInt32) :
    (d.yearsInWords step).Ensures fun years => years.toInt = d.years step := by
  cases d with
  | increase => exact ensures_widen step
  | decrease =>
    refine (ensures_widen step).bind fun wide hwide => ?_
    have hroom : wide.toInt.natAbs < 2 ^ 32 := hwide ▸ step.toNat_lt
    rw [years, ← hwide]
    exact ensures_negate hroom

theorem natAbs_years_lt (d : Direction) (step : UInt32) : (d.years step).natAbs < 2 ^ 32 := by
  have hstep := step.toNat_lt
  cases d with
  | increase => exact hstep
  | decrease =>
    change (-(step.toNat : Int)).natAbs < 2 ^ 32
    omega

end Direction

namespace AgeRange

variable {r : AgeRange}

/-- Both bounds moved by some years, one after the other. -/
def shiftedInWords (r : AgeRange) (years : Int64) : Worked AgeRange := do
  let low ← shiftAgeInWords r.min years
  let high ← shiftAgeInWords r.max years
  return ⟨low, high⟩

theorem shiftedInWords_ensures (r : AgeRange) {years : Int64} (hyears : years.toInt.natAbs < 2 ^ 32) :
    (r.shiftedInWords years).Ensures (· = r.shifted years.toInt) := by
  refine (shiftAgeInWords_ensures r.min hyears).bind fun low hlow => ?_
  refine (shiftAgeInWords_ensures r.max hyears).bind fun high hhigh => ?_
  exact ensures_pure (by rw [hlow, hhigh, shifted])

/-- The middle of the range, by two sums and a division. -/
def midpointInWords (r : AgeRange) : Worked UInt32 := do
  let sum ← add r.min r.max
  let next ← add sum 1
  return next / 2

theorem midpointInWords_ensures (h : r.isValid = true) : r.midpointInWords.Ensures (· = r.midpoint) := by
  obtain ⟨horder, hmax⟩ := isValid_iff.1 h
  have horder : r.min.toNat ≤ r.max.toNat := UInt32.le_iff_toNat_le.1 horder
  have hmax : r.max.toNat ≤ 120 := UInt32.le_iff_toNat_le.1 hmax
  have hsum : (r.min + r.max).toNat = r.min.toNat + r.max.toNat := by
    rw [UInt32.toNat_add]
    exact Nat.mod_eq_of_lt (by omega)
  have hnext : (r.min + r.max + 1).toNat = (r.min + r.max).toNat + (1 : UInt32).toNat := by
    rw [UInt32.toNat_add, hsum]
    exact Nat.mod_eq_of_lt (show r.min.toNat + r.max.toNat + 1 < 2 ^ 32 by omega)
  have hfirst : (add r.min r.max).Ensures (· = r.min + r.max) :=
    ensures_after ⟨hsum, r, h, .inl ⟨rfl, rfl⟩⟩ rfl
  have hsecond : (add (r.min + r.max) 1).Ensures (· = r.min + r.max + 1) :=
    ensures_after ⟨hnext, r, h, .inr ⟨rfl, rfl⟩⟩ rfl
  refine hfirst.bind ?_
  rintro _ rfl
  refine hsecond.bind ?_
  rintro _ rfl
  exact ensures_pure rfl

/-- The range around an age, by a difference and a sum that stop at the ends of a word. -/
def aroundInWords? (age window : UInt32) : Worked (Option AgeRange) :=
  if age ≤ maxAge then do
    let low ← lessen age window
    let high ← raise age window
    return some ⟨low, if high ≤ maxAge then high else maxAge⟩
  else
    return none

theorem aroundInWords?_ensures (age window : UInt32) :
    (aroundInWords? age window).Ensures (· = around? age window) := by
  by_cases hage : age ≤ maxAge
  · rw [aroundInWords?, around?, if_pos hage, if_pos hage]
    refine (ensures_lessen age window).bind fun low hlow => ?_
    refine (ensures_raise age window).bind fun high hhigh => ?_
    have h120 : maxAge.toNat = 120 := rfl
    have hlow : low = UInt32.ofNat (age.toNat - window.toNat) := by
      rw [← hlow, UInt32.ofNat_toNat]
    have hhigh : (if high ≤ maxAge then high else maxAge) =
        UInt32.ofNat (Nat.min (age.toNat + window.toNat) maxAge.toNat) := by
      have hvalue : (if high ≤ maxAge then high else maxAge).toNat =
          Nat.min (age.toNat + window.toNat) maxAge.toNat := by
        change _ = Min.min (age.toNat + window.toNat) maxAge.toNat
        split
        · next hle =>
          have hle : high.toNat ≤ 120 := UInt32.le_iff_toNat_le.1 hle
          omega
        · next hgt =>
          have hgt : ¬ high.toNat ≤ 120 := fun h => hgt (UInt32.le_iff_toNat_le.2 h)
          omega
      rw [← hvalue, UInt32.ofNat_toNat]
    rw [hlow, hhigh]
    exact ensures_pure rfl
  · rw [aroundInWords?, around?, if_neg hage, if_neg hage]
    exact ensures_pure rfl

end AgeRange

namespace Persona

variable (p : Persona)

def withAgeRangeInWords (r : AgeRange) : Worked Persona := do
  let age ← r.midpointInWords
  return { p with age := age, demographics := { p.demographics with ageRange := r } }

theorem withAgeRangeInWords_ensures {r : AgeRange} (h : r.isValid = true) :
    (p.withAgeRangeInWords r).Ensures (· = p.withAgeRange r) := by
  refine (AgeRange.midpointInWords_ensures h).bind ?_
  rintro _ rfl
  exact ensures_pure rfl

def agedInWords (d : Direction) (step : UInt32) : Worked Persona := do
  let years ← d.yearsInWords step
  let age ← shiftAgeInWords p.age years
  let range ← p.demographics.ageRange.shiftedInWords years
  return { p with age := age, demographics := { p.demographics with ageRange := range } }

theorem agedInWords_ensures (d : Direction) (step : UInt32) :
    (p.agedInWords d step).Ensures (· = p.aged (d.years step)) := by
  refine (d.yearsInWords_ensures step).bind fun years hyears => ?_
  have hroom : years.toInt.natAbs < 2 ^ 32 := hyears ▸ d.natAbs_years_lt step
  rw [← hyears]
  refine (shiftAgeInWords_ensures p.age hroom).bind ?_
  rintro _ rfl
  refine (AgeRange.shiftedInWords_ensures p.demographics.ageRange hroom).bind ?_
  rintro _ rfl
  exact ensures_pure rfl

end Persona

/-- Carries out an effect in words.  Only the two effects on the age need any arithmetic. -/
def Effect.inWords (settings : EditSettings) (fresh : Uuid) : Effect → Canvas → Worked Canvas
  | setRange r, c =>
    if r.isValid then return c.withPersona .primary (← c.primary.withAgeRangeInWords r) else return c
  | shift d, c => return c.withPersona .primary (← c.primary.agedInWords d settings.ageStep)
  | e, c => return e.on settings fresh c

theorem Effect.inWords_ensures (settings : EditSettings) (fresh : Uuid) (e : Effect) (c : Canvas) :
    (e.inWords settings fresh c).Ensures (· = e.on settings fresh c) := by
  cases e with
  | setRange r =>
    by_cases h : r.isValid = true
    · rw [inWords, on, if_pos h, if_pos h]
      refine (c.primary.withAgeRangeInWords_ensures h).bind ?_
      rintro _ rfl
      exact ensures_pure rfl
    · rw [inWords, on, if_neg h, if_neg h]
      exact ensures_pure rfl
  | shift d =>
    refine (c.primary.agedInWords_ensures d settings.ageStep).bind ?_
    rintro _ rfl
    exact ensures_pure rfl
  | _ => exact ensures_pure rfl

/-- The canvas after a command, worked out in words. -/
def Command.applyInWords (settings : EditSettings) (fresh : Uuid) (c : Command) (canvas : Canvas) :
    Worked Canvas :=
  c.effect.inWords settings fresh canvas

/-- A command is applied without loss, whatever the ages on the canvas, its bounds and the step are. -/
theorem Command.applyInWords_ensures (settings : EditSettings) (fresh : Uuid) (c : Command) (canvas : Canvas) :
    (c.applyInWords settings fresh canvas).Ensures (· = c.apply settings fresh canvas) := by
  rw [Command.apply_eq]
  exact Effect.inWords_ensures settings fresh c.effect canvas

end PersonaDialogue
