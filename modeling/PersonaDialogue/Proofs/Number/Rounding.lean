import Mathlib.Algebra.Order.Field.Power
import Mathlib.Data.Rat.Cast.Order
import Mathlib.Tactic.FieldSimp
import Mathlib.Tactic.Linarith
import Mathlib.Tactic.Positivity
import Mathlib.Tactic.Ring
import Mathlib.Tactic.Set
import PersonaDialogue.Number.Binary

/-!
# Rounding to a binary format

A fraction is rounded to a whole number of places, and where the last place is follows from the size of
the fraction (`Format.Places`).  What comes out is a number of the format (`nearest_holds`); it is
finite unless the fraction is half a place or more above the greatest finite number, and off by at most
half a place (`nearest_spec`).
-/

namespace PersonaDialogue.Number

/-! ### Fractions -/

def ratio (p : Nat × Nat) : ℚ := p.1 / p.2

def dyadic (m : Nat) (e : Int) : ℚ := m * 2 ^ e

theorem two_zpow_toNat {e : Int} (h : 0 ≤ e) : (2 : ℚ) ^ e.toNat = 2 ^ e := by
  rw [← zpow_natCast, Int.toNat_of_nonneg h]

theorem scaleDown_den_pos (num : Nat) {den : Nat} (hden : 0 < den) (e : Int) : 0 < (scaleDown num den e).2 := by
  unfold scaleDown
  split
  · exact Nat.mul_pos hden (Nat.two_pow_pos _)
  · exact hden

theorem ratio_scaleDown (num den : Nat) (e : Int) :
    ratio (scaleDown num den e) = (num : ℚ) / den / 2 ^ e := by
  unfold scaleDown ratio
  split
  · next h =>
    push_cast
    rw [two_zpow_toNat h, div_mul_eq_div_div]
  · next h =>
    push_cast
    rw [two_zpow_toNat (by omega), zpow_neg]
    field_simp

theorem ratio_fraction (m : Nat) (e : Int) : ratio (Binary.fraction m e) = dyadic m e := by
  unfold Binary.fraction ratio dyadic
  split
  · next h =>
    push_cast
    rw [two_zpow_toNat h, div_one]
  · next h =>
    push_cast
    rw [two_zpow_toNat (by omega), zpow_neg]
    field_simp

theorem fraction_den_pos (m : Nat) (e : Int) : 0 < (Binary.fraction m e).2 := by
  unfold Binary.fraction
  split
  · exact Nat.one_pos
  · exact Nat.two_pow_pos _

/-! ### Whole numbers -/

/-- Rounding is off by at most a half. -/
theorem roundHalfEven_bounds (num : Nat) {den : Nat} (hden : 0 < den) :
    2 * num ≤ 2 * (roundHalfEven num den * den) + den ∧
      2 * (roundHalfEven num den * den) ≤ 2 * num + den := by
  have hdiv := Nat.div_add_mod num den
  have hmod := Nat.mod_lt num hden
  have hup : (num / den + 1) * den = den * (num / den) + den := by ring
  have hdown : num / den * den = den * (num / den) := Nat.mul_comm _ _
  unfold roundHalfEven
  simp only
  split
  · omega
  · split
    · omega
    · split <;> omega

theorem roundHalfEven_close (num : Nat) {den : Nat} (hden : 0 < den) :
    |(roundHalfEven num den : ℚ) - ratio (num, den)| ≤ 1 / 2 := by
  obtain ⟨hlow, hhigh⟩ := roundHalfEven_bounds num hden
  have hpos : (0 : ℚ) < den := by exact_mod_cast hden
  have hlow' : 2 * (num : ℚ) ≤ 2 * (roundHalfEven num den * den) + den := by exact_mod_cast hlow
  have hhigh' : 2 * ((roundHalfEven num den : ℚ) * den) ≤ 2 * num + den := by exact_mod_cast hhigh
  have hratio : ratio (num, den) * den = num := div_mul_cancel₀ _ hpos.ne'
  rw [abs_le]
  constructor
  · refine le_of_mul_le_mul_right ?_ hpos
    nlinarith
  · refine le_of_mul_le_mul_right ?_ hpos
    nlinarith

/-! ### Places -/

/-- Is `2^e` the last place in which a format writes the number `q`?  The digits before it fill the
significand, unless `e` is the least place of the format. -/
structure Format.Places (f : Format) (q : ℚ) (e : Int) : Prop where
  least : f.least ≤ e
  lt : q < 2 ^ f.bits * 2 ^ e
  full : e = f.least ∨ 2 ^ f.bits * 2 ^ e ≤ 2 * q

theorem log2_bounds {n : Nat} (hn : n ≠ 0) :
    (2 : ℚ) ^ (n.log2 : Int) ≤ n ∧ (n : ℚ) < 2 ^ (n.log2 + 1 : Int) := by
  constructor
  · exact_mod_cast Nat.log2_self_le hn
  · exact_mod_cast Nat.lt_log2_self

/-- The lengths of the two numbers give the size of a fraction up to a factor of two. -/
theorem ratio_bounds {num den : Nat} (hnum : num ≠ 0) (hden : den ≠ 0) :
    (2 : ℚ) ^ ((num.log2 : Int) - den.log2) < 2 * ratio (num, den) ∧
      ratio (num, den) < 2 ^ ((num.log2 : Int) - den.log2 + 1) := by
  obtain ⟨hnumLow, hnumHigh⟩ := log2_bounds hnum
  obtain ⟨hdenLow, hdenHigh⟩ := log2_bounds hden
  have hpos : (0 : ℚ) < den := by exact_mod_cast Nat.pos_of_ne_zero hden
  have hpow : ∀ i : Int, (0 : ℚ) < 2 ^ i := fun i => by positivity
  have hsplit : (2 : ℚ) ^ ((num.log2 : Int) - den.log2) = 2 ^ (num.log2 : Int) / 2 ^ (den.log2 : Int) :=
    zpow_sub₀ two_ne_zero _ _
  rw [zpow_add_one₀ two_ne_zero] at hnumHigh hdenHigh ⊢
  rw [hsplit]
  unfold ratio
  constructor
  · rw [← mul_div_assoc, div_lt_div_iff₀ (hpow _) hpos]
    nlinarith [hpow (num.log2 : Int), hpow (den.log2 : Int)]
  · rw [div_mul_eq_mul_div, div_lt_div_iff₀ hpos (hpow _)]
    nlinarith [hpow (num.log2 : Int), hpow (den.log2 : Int)]

theorem lt_scaleDown_iff (num : Nat) {den : Nat} (hden : den ≠ 0) (bits : Nat) (e : Int) :
    (scaleDown num den e).1 < (scaleDown num den e).2 * 2 ^ bits ↔
      ratio (num, den) < 2 ^ bits * 2 ^ e := by
  have hpos : (0 : ℚ) < (scaleDown num den e).2 :=
    Nat.cast_pos.2 (scaleDown_den_pos num (Nat.pos_of_ne_zero hden) e)
  have hratio : ratio (scaleDown num den e) = ratio (num, den) / 2 ^ e := ratio_scaleDown num den e
  rw [← div_lt_iff₀ (by positivity), ← hratio, ratio, div_lt_iff₀ hpos, mul_comm]
  exact_mod_cast Iff.rfl

section Format

variable {f : Format} {q : ℚ} {num den : Nat}

theorem Format.Places.of_full {e : Int} (hlt : q < 2 ^ f.bits * 2 ^ e)
    (hfull : 2 ^ f.bits * 2 ^ e ≤ 2 * q) : f.Places q (max f.least e) where
  least := le_max_left _ _
  lt := hlt.trans_le <| by
    gcongr
    · exact one_le_two
    · exact le_max_right _ _
  full := by
    rcases le_total e f.least with h | h
    · exact .inl (max_eq_left h)
    · rw [max_eq_right h]
      exact .inr hfull

theorem exponentOf_places (f : Format) (hnum : num ≠ 0) (hden : den ≠ 0) :
    f.Places (ratio (num, den)) (f.exponentOf num den) := by
  obtain ⟨hlow, hhigh⟩ := ratio_bounds hnum hden
  set guess : Int := (num.log2 : Int) - den.log2 - f.bits with hguess
  have hsize : (2 : ℚ) ^ ((num.log2 : Int) - den.log2) = 2 ^ f.bits * 2 ^ guess := by
    rw [hguess, ← zpow_natCast, ← zpow_add₀ two_ne_zero]
    congr 1
    omega
  rw [zpow_add_one₀ two_ne_zero, hsize] at hhigh
  rw [hsize] at hlow
  -- The guess is the place, or the one below it.
  unfold Format.exponentOf
  simp only [← hguess, lt_scaleDown_iff num hden]
  split
  · next hlt => exact .of_full hlt hlow.le
  · next hge =>
    have hnext : (2 : ℚ) ^ (guess + 1) = 2 ^ guess * 2 := zpow_add_one₀ two_ne_zero _
    refine .of_full ?_ ?_
    · rw [hnext]
      linarith
    · rw [hnext]
      linarith

/-- Is the whole number `m` nearest to `q`, counted in the last place of the format? -/
structure Format.Rounds (f : Format) (q : ℚ) (m : Nat) (e : Int) : Prop where
  places : f.Places q e
  close : |(m : ℚ) - q / 2 ^ e| ≤ 1 / 2

theorem nearest_eq_finish (f : Format) (negative : Bool) (hnum : num ≠ 0) (hden : den ≠ 0) :
    ∃ m e, f.nearest negative num den = f.finish negative m e ∧ f.Rounds (ratio (num, den)) m e := by
  have hpos := scaleDown_den_pos num (Nat.pos_of_ne_zero hden) (f.exponentOf num den)
  have hclose := roundHalfEven_close (scaleDown num den (f.exponentOf num den)).1 hpos
  refine ⟨_, _, by rw [Format.nearest, if_neg hnum], exponentOf_places f hnum hden, ?_⟩
  rwa [Prod.mk.eta, ratio_scaleDown] at hclose

namespace Format.Rounds

variable {m : Nat} {e : Int} (h : f.Rounds q m e)
include h

theorem le : m ≤ 2 ^ f.bits := by
  have hlt : q / 2 ^ e < 2 ^ f.bits := (div_lt_iff₀ (by positivity)).2 h.places.lt
  have hclose := (abs_le.1 h.close).2
  have hcast : (m : ℚ) < (2 ^ f.bits + 1 : Nat) := by
    push_cast
    linarith
  exact Nat.lt_succ_iff.1 (Nat.cast_lt.1 hcast)

theorem near : |dyadic m e - q| ≤ 2 ^ e / 2 := by
  have hpos : (0 : ℚ) < 2 ^ e := by positivity
  have hscale : dyadic m e - q = (m - q / 2 ^ e) * 2 ^ e := by
    rw [sub_mul, div_mul_cancel₀ _ hpos.ne', dyadic]
  rw [hscale, abs_mul, abs_of_pos hpos]
  nlinarith [h.close]

/-- Below the middle between the greatest finite number and the next power of two, nothing is rounded
beyond the greatest place. -/
theorem in_range (hrange : f.least < f.most) (hq : q < (2 ^ f.bits - 1 / 2) * 2 ^ f.most) :
    e ≤ f.most ∧ (m = 2 ^ f.bits → e < f.most) := by
  rcases h.places.full with rfl | hfull
  · exact ⟨hrange.le, fun _ => hrange⟩
  have hle : e ≤ f.most := by
    by_contra hlt
    have hstep : (2 : ℚ) ^ f.most * 2 ≤ 2 ^ e := by
      rw [← zpow_add_one₀ two_ne_zero]
      exact zpow_le_zpow_right₀ one_le_two (by omega)
    have hbits : (2 : ℚ) ^ f.bits * (2 ^ f.most * 2) ≤ 2 ^ f.bits * 2 ^ e :=
      mul_le_mul_of_nonneg_left hstep (by positivity)
    have hhalf : (0 : ℚ) < 1 / 2 * 2 ^ f.most := by positivity
    linarith
  refine ⟨hle, fun hm => lt_of_le_of_ne hle ?_⟩
  rintro rfl
  have hclose := (abs_le.1 h.close).2
  have hquot : q / 2 ^ f.most < 2 ^ f.bits - 1 / 2 := (div_lt_iff₀ (by positivity)).2 hq
  rw [hm] at hclose
  push_cast at hclose
  linarith

end Format.Rounds

/-! ### Numbers of a format -/

/-- Can a format hold `m · 2^e`? -/
structure Format.Fits (f : Format) (m : Nat) (e : Int) : Prop where
  significand : m < 2 ^ f.bits
  least : f.least ≤ e
  most : e ≤ f.most

/-- Is this a number of a format, or none at all? -/
def Format.Holds (f : Format) : Binary → Prop
  | .finite _ m e => f.Fits m e
  | _ => True

/-- A significand that was carried one bit too far stands for the same value in the next place. -/
theorem finish_eq (hbits : 0 < f.bits) (negative : Bool) {m : Nat} {e : Int} (hm : m ≤ 2 ^ f.bits)
    (hleast : f.least ≤ e) :
    ∃ m' e', m' < 2 ^ f.bits ∧ f.least ≤ e' ∧ dyadic m' e' = dyadic m e ∧
      (e' = e ∨ m = 2 ^ f.bits ∧ e' = e + 1) ∧
      f.finish negative m e = if f.most < e' then .infinite negative else .finite negative m' e' := by
  by_cases hcarry : m = 2 ^ f.bits
  · refine ⟨2 ^ (f.bits - 1), e + 1, Nat.pow_lt_pow_right (by omega) (by omega), by omega, ?_,
      .inr ⟨hcarry, rfl⟩, by simp [Format.finish, hcarry]⟩
    have htwice : (2 : ℚ) ^ f.bits = 2 ^ (f.bits - 1) * 2 := by
      rw [← pow_succ, Nat.sub_add_cancel hbits]
    rw [hcarry, dyadic, dyadic, zpow_add_one₀ two_ne_zero]
    push_cast
    rw [htwice]
    ring
  · exact ⟨m, e, lt_of_le_of_ne hm hcarry, hleast, rfl, .inl rfl, by simp [Format.finish, hcarry]⟩

theorem fits_zero (hrange : f.least < f.most) : f.Fits 0 f.least :=
  ⟨Nat.two_pow_pos _, le_rfl, hrange.le⟩

/-- **Rounding gives a number of the format.** -/
theorem nearest_holds (hbits : 0 < f.bits) (hrange : f.least < f.most) (negative : Bool) (num : Nat)
    {den : Nat} (hden : den ≠ 0) : f.Holds (f.nearest negative num den) := by
  by_cases hnum : num = 0
  · rw [Format.nearest, if_pos hnum]
    exact fits_zero hrange
  · obtain ⟨m, e, heq, hrounds⟩ := nearest_eq_finish f negative hnum hden
    obtain ⟨m', e', hm', hleast, -, -, hfinish⟩ :=
      finish_eq hbits negative hrounds.le hrounds.places.least
    rw [heq, hfinish]
    split
    · trivial
    · exact ⟨hm', hleast, by omega⟩

/-- **A number below the middle between the greatest finite number and the next power of two is rounded
to a finite number**, which is off by at most half a place. -/
theorem nearest_finite (hbits : 0 < f.bits) (hrange : f.least < f.most) (negative : Bool) {num den : Nat}
    (hden : den ≠ 0) (hq : ratio (num, den) < (2 ^ f.bits - 1 / 2) * 2 ^ f.most) :
    ∃ m e, f.nearest negative num den = .finite negative m e ∧ f.Fits m e ∧
      |dyadic m e - ratio (num, den)| ≤ ratio (num, den) / 2 ^ f.bits + 2 ^ f.least / 2 := by
  have hnonneg : 0 ≤ ratio (num, den) := by unfold ratio; positivity
  by_cases hnum : num = 0
  · refine ⟨0, f.least, by rw [Format.nearest, if_pos hnum], fits_zero hrange, ?_⟩
    rw [hnum, ratio, dyadic]
    simp only [Nat.cast_zero, zero_div, zero_mul, sub_self, abs_zero, zero_add]
    positivity
  · obtain ⟨m, e, heq, hrounds⟩ := nearest_eq_finish f negative hnum hden
    obtain ⟨hmost, hcarried⟩ := hrounds.in_range hrange hq
    obtain ⟨m', e', hm', hleast, hvalue, hplace, hfinish⟩ :=
      finish_eq hbits negative hrounds.le hrounds.places.least
    have hmost' : e' ≤ f.most := by
      rcases hplace with rfl | ⟨hm, rfl⟩
      · exact hmost
      · exact hcarried hm
    refine ⟨m', e', by rw [heq, hfinish, if_neg (by omega)], ⟨hm', hleast, hmost'⟩, ?_⟩
    rw [hvalue]
    refine hrounds.near.trans ?_
    have hfull : (2 : ℚ) ^ e / 2 ≤ ratio (num, den) / 2 ^ f.bits ∨ e = f.least := by
      refine hrounds.places.full.symm.imp_left fun h => ?_
      rw [div_le_div_iff₀ two_pos (by positivity), mul_comm]
      linarith
    rcases hfull with h | rfl
    · have : (0 : ℚ) < 2 ^ f.least / 2 := by positivity
      linarith
    · have : 0 ≤ ratio (num, den) / 2 ^ f.bits := by positivity
      linarith

end Format

end PersonaDialogue.Number
