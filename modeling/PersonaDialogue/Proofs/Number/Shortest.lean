import Mathlib.Algebra.Order.Floor.Semifield
import Mathlib.Data.Nat.Cast.Order.Field
import Mathlib.Data.Rat.Floor
import Mathlib.Tactic.NormNum
import PersonaDialogue.Proofs.Json.NumberText
import PersonaDialogue.Proofs.Number.Rounding

/-!
# The shortest decimal of a number exists and lies in its interval

The search goes over finer and finer grids and takes the first with a point in the interval of the
number.  On a grid finer than half a place the number itself is next to such a point
(`onGrid_isSome`), and seventeen digits are that fine for a number of 32 bits.  Whatever is found is at
most the upper end of the interval (`shortest?_spec`).
-/

namespace PersonaDialogue.Number

def Decimal.value (d : Decimal) : ℚ := d.digits * 10 ^ d.exponent

theorem ten_zpow_toNat {k : Int} (h : 0 ≤ k) : (10 : ℚ) ^ k.toNat = 10 ^ k := by
  rw [← zpow_natCast, Int.toNat_of_nonneg h]

/-! ### Comparing decimals with fractions -/

section Compare

variable {a b d : Nat} (hb : b ≠ 0)
include hb

theorem fractionLe_iff (k : Int) :
    fractionLe a b d k = true ↔ ratio (a, b) ≤ d * 10 ^ k := by
  have hpos : (0 : ℚ) < b := Nat.cast_pos.2 (Nat.pos_of_ne_zero hb)
  unfold fractionLe ratio
  split
  · next h =>
    rw [div_le_iff₀ hpos, ← ten_zpow_toNat h, decide_eq_true_iff]
    exact_mod_cast Iff.rfl
  · next h =>
    have hten : (0 : ℚ) < 10 ^ (-k).toNat := by positivity
    rw [div_le_iff₀ hpos, ← neg_neg k, zpow_neg, ← ten_zpow_toNat (by omega), neg_neg,
      decide_eq_true_iff, mul_right_comm, ← div_eq_mul_inv, le_div_iff₀ hten]
    exact_mod_cast Iff.rfl

theorem leFraction_iff (k : Int) :
    leFraction d k a b = true ↔ d * 10 ^ k ≤ ratio (a, b) := by
  have hpos : (0 : ℚ) < b := Nat.cast_pos.2 (Nat.pos_of_ne_zero hb)
  unfold leFraction ratio
  split
  · next h =>
    rw [le_div_iff₀ hpos, ← ten_zpow_toNat h, decide_eq_true_iff]
    exact_mod_cast Iff.rfl
  · next h =>
    have hten : (0 : ℚ) < 10 ^ (-k).toNat := by positivity
    rw [le_div_iff₀ hpos, ← neg_neg k, zpow_neg, ← ten_zpow_toNat (by omega), neg_neg,
      decide_eq_true_iff, mul_right_comm, ← div_eq_mul_inv, div_le_iff₀ hten]
    exact_mod_cast Iff.rfl

omit hb in
/-- The floor on a grid is that of the fraction counted in steps of the grid. -/
theorem gridFloor_eq (k : Int) : gridFloor a b k = ⌊ratio (a, b) / 10 ^ k⌋₊ := by
  unfold gridFloor ratio
  split
  · next h =>
    rw [← Nat.floor_div_eq_div (K := ℚ), div_div, ← ten_zpow_toNat h]
    push_cast
    rfl
  · next h =>
    rw [← Nat.floor_div_eq_div (K := ℚ), ← neg_neg k, zpow_neg, ← ten_zpow_toNat (by omega), neg_neg,
      div_inv_eq_mul, div_mul_eq_mul_div]
    push_cast
    rfl

end Compare

theorem gridFloor_le (a b : Nat) (k : Int) : gridFloor a b k * 10 ^ k ≤ ratio (a, b) := by
  rw [gridFloor_eq, ← le_div_iff₀ (by positivity)]
  exact Nat.floor_le (by unfold ratio; positivity)

theorem lt_gridFloor (a b : Nat) (k : Int) : ratio (a, b) < (gridFloor a b k + 1) * 10 ^ k := by
  rw [gridFloor_eq, ← div_lt_iff₀ (by positivity)]
  exact Nat.lt_floor_add_one _

/-! ### The leading digit -/

/-- The powers of two of a number of 32 bits next to the powers of ten that are guessed from them, both
made whole. -/
theorem guess_table : ∀ n : Nat, n < 280 → let guess := (((n : Int) - 152) * 30103).fdiv 100000
    0 ≤ guess + 59 ∧ 10 ^ (guess + 59).toNat * 2 ^ 152 ≤ 2 ^ n * 10 ^ 60 ∧
      2 ^ (n + 2) * 10 ^ 60 ≤ 10 ^ (guess + 62).toNat * 2 ^ 152 := by
  decide +kernel

/-- A power whose exponent was made whole. -/
theorem zpow_eq_div {x : ℚ} (hx : x ≠ 0) {i : Int} {n d : Nat} (h : i + d = n) :
    x ^ i = x ^ n / x ^ d := by
  rw [← zpow_natCast x n, ← h, zpow_add₀ hx, zpow_natCast, mul_div_cancel_right₀ _ (pow_ne_zero d hx)]

theorem guess_bounds {t : Int} (hlow : -152 ≤ t) (hhigh : t < 128) :
    (10 : ℚ) ^ ((t * 30103).fdiv 100000 - 1) ≤ 2 ^ t ∧
      (2 : ℚ) ^ (t + 2) ≤ 10 ^ ((t * 30103).fdiv 100000 + 2) := by
  obtain ⟨n, rfl⟩ : ∃ n : Nat, t = (n : Int) - 152 := ⟨(t + 152).toNat, by omega⟩
  obtain ⟨hpos, hten, htwo⟩ := guess_table n (by omega)
  set guess := (((n : Int) - 152) * 30103).fdiv 100000
  have hten' : (10 : ℚ) ^ (guess + 59).toNat * 2 ^ 152 ≤ 2 ^ n * 10 ^ 60 := by exact_mod_cast hten
  have htwo' : (2 : ℚ) ^ (n + 2) * 10 ^ 60 ≤ 10 ^ (guess + 62).toNat * 2 ^ 152 := by
    exact_mod_cast htwo
  constructor
  · rw [zpow_eq_div (n := (guess + 59).toNat) (d := 60) (by norm_num) (by omega),
      zpow_eq_div (n := n) (d := 152) two_ne_zero (by omega)]
    exact (div_le_div_iff₀ (by positivity) (by positivity)).2 hten'
  · rw [zpow_eq_div (n := n + 2) (d := 152) two_ne_zero (by omega),
      zpow_eq_div (n := (guess + 62).toNat) (d := 60) (by norm_num) (by omega)]
    exact (div_le_div_iff₀ (by positivity) (by positivity)).2 htwo'

section Leading

variable {a b : Nat} (hb : b ≠ 0) (hlow : (2 : ℚ) ^ (-150 : Int) ≤ ratio (a, b))
  (hhigh : ratio (a, b) < 2 ^ (128 : Int))
include hb hlow hhigh

/-- **The leading digit of a number** of 32 bits stands where it is said to stand. -/
theorem leadingExponent_bounds :
    (10 : ℚ) ^ leadingExponent a b ≤ ratio (a, b) ∧
      ratio (a, b) < 10 ^ (leadingExponent a b + 1) := by
  have ha : a ≠ 0 := by
    rintro rfl
    have hpos : (0 : ℚ) < 2 ^ (-150 : Int) := by positivity
    rw [ratio, Nat.cast_zero, zero_div] at hlow
    exact absurd hlow (not_le.2 hpos)
  obtain ⟨hmore, hless⟩ := ratio_bounds ha hb
  set t : Int := (a.log2 : Int) - b.log2 - 1 with ht
  have hmore' : (2 : ℚ) ^ t < ratio (a, b) := by
    rw [show (a.log2 : Int) - b.log2 = t + 1 by omega, zpow_add_one₀ two_ne_zero] at hmore
    linarith
  have hless' : ratio (a, b) < (2 : ℚ) ^ (t + 2) := by
    rwa [show t + 2 = (a.log2 : Int) - b.log2 + 1 by omega]
  have hbelow : -150 < t + 2 :=
    (zpow_lt_zpow_iff_right₀ (one_lt_two (α := ℚ))).1 (hlow.trans_lt hless')
  have habove : t < 128 := (zpow_lt_zpow_iff_right₀ (one_lt_two (α := ℚ))).1 (hmore'.trans hhigh)
  obtain ⟨hten, htwo⟩ := guess_bounds (t := t) (by omega) habove
  unfold leadingExponent
  simp only [← ht]
  set guess := (t * 30103).fdiv 100000
  split
  · next h =>
    rw [leFraction_iff hb, Nat.cast_one, one_mul] at h
    exact ⟨h, (hless'.trans_le htwo).trans_eq (by ring_nf)⟩
  · next hnext =>
    rw [leFraction_iff hb, Nat.cast_one, one_mul, not_le] at hnext
    split
    · next h =>
      rw [leFraction_iff hb, Nat.cast_one, one_mul] at h
      exact ⟨h, hnext⟩
    · next h =>
      rw [leFraction_iff hb, Nat.cast_one, one_mul, not_le] at h
      exact ⟨hten.trans hmore'.le, by rwa [sub_add_cancel]⟩

theorem leadingExponent_range : -46 ≤ leadingExponent a b ∧ leadingExponent a b ≤ 38 := by
  obtain ⟨hle, hlt⟩ := leadingExponent_bounds hb hlow hhigh
  have htenLow : (10 : ℚ) ^ (-46 : Int) < 2 ^ (-150 : Int) := by norm_num
  have htenHigh : (2 : ℚ) ^ (128 : Int) < 10 ^ (39 : Int) := by norm_num
  have hten : (1 : ℚ) < 10 := by norm_num
  have hmore := (zpow_lt_zpow_iff_right₀ hten).1 ((htenLow.trans_le hlow).trans hlt)
  have hless := (zpow_lt_zpow_iff_right₀ hten).1 ((hle.trans_lt hhigh).trans htenHigh)
  omega

end Leading

/-! ### Points of the interval -/

section Interval

variable {f : Format} {m : Nat} {e k : Int}

theorem fraction_den_ne_zero (m : Nat) (e : Int) : (Binary.fraction m e).2 ≠ 0 :=
  (fraction_den_pos m e).ne'

theorem fraction_le_iff {d : Nat} :
    fractionLe (Binary.fraction m e).1 (Binary.fraction m e).2 d k = true ↔
      dyadic m e ≤ d * 10 ^ k := by
  rw [fractionLe_iff (fraction_den_ne_zero m e), Prod.mk.eta, ratio_fraction]

theorem le_fraction_iff {d : Nat} :
    leFraction d k (Binary.fraction m e).1 (Binary.fraction m e).2 = true ↔
      d * 10 ^ k ≤ dyadic m e := by
  rw [leFraction_iff (fraction_den_ne_zero m e), Prod.mk.eta, ratio_fraction]

/-- What is admitted is at most the upper end. -/
theorem Interval.le_of_admits {i : Interval} {d : Nat} (h : i.admits e d k = true) :
    d * 10 ^ k ≤ dyadic i.high (e - 2) := by
  unfold Interval.admits at h
  cases hclosed : i.closed <;>
    simp only [hclosed, Bool.false_eq_true, if_false, if_true, Bool.and_eq_true, Bool.not_eq_true',
      ← Bool.not_eq_true, fraction_le_iff, le_fraction_iff, not_le] at h
  · exact h.2.le
  · exact h.2

/-- Everything strictly between the ends is admitted. -/
theorem Interval.admits_of_between {i : Interval} {d : Nat} (hlow : dyadic i.low (e - 2) < d * 10 ^ k)
    (hhigh : d * 10 ^ k < dyadic i.high (e - 2)) : i.admits e d k = true := by
  unfold Interval.admits
  cases hclosed : i.closed <;>
    simp only [Bool.false_eq_true, if_false, if_true, Bool.and_eq_true, Bool.not_eq_true',
      ← Bool.not_eq_true, fraction_le_iff, le_fraction_iff, not_le]
  · exact ⟨hlow, hhigh⟩
  · exact ⟨hlow.le, hhigh.le⟩

theorem interval_high (f : Format) (m : Nat) (e : Int) : (f.interval m e).high = 4 * m + 2 := rfl

theorem interval_low_lt (f : Format) (hm : m ≠ 0) (e : Int) : (f.interval m e).low < 4 * m := by
  unfold Format.interval
  simp only
  split <;> omega

theorem dyadic_quarters (m : Nat) (e : Int) : dyadic (4 * m) (e - 2) = dyadic m e := by
  unfold dyadic
  rw [zpow_sub₀ two_ne_zero]
  push_cast
  ring

theorem dyadic_lt {m n : Nat} (h : m < n) (e : Int) : dyadic m e < dyadic n e :=
  mul_lt_mul_of_pos_right (Nat.cast_lt.2 h) (by positivity)

/-- The upper end of the interval is half a place above the number. -/
theorem dyadic_high (f : Format) (m : Nat) (e : Int) :
    dyadic (f.interval m e).high (e - 2) = (m + 1 / 2) * 2 ^ e := by
  rw [interval_high, dyadic, zpow_sub₀ two_ne_zero]
  push_cast
  ring

/-! ### The search -/

theorem onGrid_spec {d : Decimal} (h : f.onGrid m e k = some d) :
    d.exponent = k ∧ (f.interval m e).admits e d.digits k = true := by
  unfold Format.onGrid at h
  simp only at h
  split at h
  · next hlow hhigh =>
    obtain rfl := Option.some.inj h
    refine ⟨rfl, ?_⟩
    dsimp only
    split
    · exact (Bool.and_eq_true_iff.1 hlow).2
    · exact hhigh
  · next hlow hhigh =>
    obtain rfl := Option.some.inj h
    exact ⟨rfl, (Bool.and_eq_true_iff.1 hlow).2⟩
  · next hlow hhigh =>
    obtain rfl := Option.some.inj h
    exact ⟨rfl, hhigh⟩
  · simp at h

/-- On a grid finer than half a place, the next point above a number is in its interval. -/
theorem onGrid_isSome (hm : m ≠ 0) (hfine : (10 : ℚ) ^ k < 2 ^ e / 2) :
    (f.onGrid m e k).isSome := by
  set d := gridFloor (Binary.fraction m e).1 (Binary.fraction m e).2 k with hd
  have hle : d * 10 ^ k ≤ dyadic m e := by
    rw [← ratio_fraction]
    exact gridFloor_le _ _ k
  have hlt : dyadic m e < (d + 1 : Nat) * 10 ^ k := by
    rw [← ratio_fraction]
    push_cast
    exact lt_gridFloor _ _ k
  have hnext : (f.interval m e).admits e (d + 1) k = true := by
    refine Interval.admits_of_between ?_ ?_
    · refine lt_trans ?_ hlt
      rw [← dyadic_quarters m e]
      exact dyadic_lt (interval_low_lt f hm e) _
    · rw [dyadic_high]
      push_cast
      unfold dyadic at hle
      linarith
  unfold Format.onGrid
  simp only [← hd, hnext]
  cases d != 0 && (f.interval m e).admits e d k <;> rfl

theorem searchGrids_spec {leading : Int} {count tries : Nat} {d : Decimal}
    (h : f.searchGrids m e leading count tries = some d) :
    ∃ i : Nat, count ≤ i ∧ i < count + tries ∧ f.onGrid m e (leading - i) = some d := by
  induction tries generalizing count with
  | zero => simp [Format.searchGrids] at h
  | succ tries ih =>
    unfold Format.searchGrids at h
    split at h
    · next hgrid =>
      obtain rfl := Option.some.inj h
      exact ⟨count, le_rfl, by omega, hgrid⟩
    · obtain ⟨i, hcount, htries, hgrid⟩ := ih h
      exact ⟨i, by omega, by omega, hgrid⟩

theorem searchGrids_isSome {leading : Int} {count tries i : Nat} (hcount : count ≤ i)
    (htries : i < count + tries) (hgrid : (f.onGrid m e (leading - i)).isSome) :
    (f.searchGrids m e leading count tries).isSome := by
  induction tries generalizing count with
  | zero => omega
  | succ tries ih =>
    unfold Format.searchGrids
    split
    · rfl
    · next hnone =>
      refine ih (Nat.lt_of_le_of_ne hcount ?_) (by omega)
      rintro rfl
      simp [hnone] at hgrid

end Interval

/-! ### Numbers of 32 bits -/

/-- What holds of the decimal that a number of 32 bits is written as: it is small enough to be read
without loss, and no more than half a place above the number. -/
structure Decimal.Writes (d : Decimal) (m : Nat) (e : Int) : Prop where
  digits : d.digits < 10 ^ 18
  least : -62 ≤ d.exponent
  most : d.exponent ≤ 56
  value : d.value ≤ (m + 1 / 2) * 2 ^ e

/-- Trimming takes away fewer zeros than there are digits, and makes a decimal no greater. -/
theorem trimmed_spec {d : Decimal} (h : d.digits ≠ 0) :
    d.trimmed.digits ≤ d.digits ∧ d.exponent ≤ d.trimmed.exponent ∧
      d.trimmed.exponent < d.exponent + (Nat.toDigits 10 d.digits).length ∧
      d.trimmed.value ≤ d.value := by
  have hzeros := Json.zeros_lt_length h
  unfold Decimal.trimmed
  set zeros := ((Nat.toDigits 10 d.digits).reverse.takeWhile (· == '0')).length
  refine ⟨Nat.div_le_self _ _, by simp, by simpa using hzeros, ?_⟩
  have hdiv : ((d.digits / 10 ^ zeros : Nat) : ℚ) ≤ d.digits / (10 ^ zeros : Nat) := Nat.cast_div_le
  calc ((d.digits / 10 ^ zeros : Nat) : ℚ) * 10 ^ (d.exponent + zeros)
      ≤ d.digits / (10 ^ zeros : Nat) * 10 ^ (d.exponent + zeros) := by gcongr
    _ = d.value := by
      rw [zpow_add₀ (by norm_num), zpow_natCast, Decimal.value]
      push_cast
      field_simp

section Single

variable {m : Nat} {e : Int} (hfits : single.Fits m e) (hm : m ≠ 0)
include hfits hm

theorem dyadic_bounds : (2 : ℚ) ^ (-150 : Int) ≤ dyadic m e ∧ dyadic m e < 2 ^ (128 : Int) := by
  have hone : (1 : ℚ) ≤ m := by exact_mod_cast Nat.pos_of_ne_zero hm
  have hless : (m : ℚ) < 2 ^ 24 := by exact_mod_cast hfits.significand
  have hlow : (2 : ℚ) ^ (-150 : Int) ≤ 2 ^ e := zpow_le_zpow_right₀ one_le_two (by
    have := hfits.least
    simp only [single] at this
    omega)
  have hhigh : (2 : ℚ) ^ e ≤ 2 ^ (104 : Int) := zpow_le_zpow_right₀ one_le_two hfits.most
  have hpos : (0 : ℚ) < 2 ^ e := by positivity
  unfold dyadic
  constructor
  · nlinarith
  · calc (m : ℚ) * 2 ^ e < 2 ^ 24 * 2 ^ e := mul_lt_mul_of_pos_right hless hpos
      _ ≤ 2 ^ 24 * 2 ^ (104 : Int) := by gcongr
      _ = 2 ^ (128 : Int) := by norm_num

omit hm in
/-- A number of 32 bits has so few places that seventeen digits are finer than half the last one. -/
theorem seventeen_digits_fine {leading : Int} (hle : (10 : ℚ) ^ leading ≤ dyadic m e) :
    (10 : ℚ) ^ (leading - (16 : Nat)) < 2 ^ e / 2 := by
  have hpos : (0 : ℚ) < 2 ^ e := by positivity
  have hless : (m : ℚ) < 2 ^ 24 := by exact_mod_cast hfits.significand
  have htop : (10 : ℚ) ^ leading < 2 ^ 24 * 2 ^ e :=
    hle.trans_lt (mul_lt_mul_of_pos_right hless hpos)
  rw [zpow_sub₀ (by norm_num), zpow_natCast, div_lt_iff₀ (by positivity)]
  linarith

omit hfits in
/-- A decimal close to a number has no more digits than the grid that it is on. -/
theorem digits_lt_of_value {d : Decimal} (hvalue : d.value ≤ (m + 1 / 2) * 2 ^ e) {leading : Int}
    (hlt : dyadic m e < 10 ^ (leading + 1)) {i : Nat} (hexponent : d.exponent = leading - i) :
    d.digits < 10 ^ (i + 2) := by
  have hone : (1 : ℚ) ≤ m := by exact_mod_cast Nat.pos_of_ne_zero hm
  have hpos : (0 : ℚ) < 2 ^ e := by positivity
  have hgrid : d.value < 10 ^ (i + 2) * 10 ^ (leading - i) := by
    calc d.value ≤ 2 * dyadic m e := by unfold dyadic; nlinarith
      _ < 10 * 10 ^ (leading + 1) := by linarith [zpow_pos (show (0 : ℚ) < 10 by norm_num) (leading + 1)]
      _ = 10 ^ (i + 2) * 10 ^ (leading - i) := by
        rw [← zpow_natCast, ← zpow_add₀ (by norm_num), ← zpow_one_add₀ (by norm_num)]
        congr 1
        push_cast
        ring
  rw [Decimal.value, hexponent] at hgrid
  have hcast : (d.digits : ℚ) < 10 ^ (i + 2) := lt_of_mul_lt_mul_right hgrid (by positivity)
  exact_mod_cast hcast

/-- **A number of 32 bits has a shortest decimal.** -/
theorem shortest?_spec : ∃ d, single.shortest? m e = some d ∧ d.Writes m e := by
  obtain ⟨hlow, hhigh⟩ := dyadic_bounds hfits hm
  have hden := fraction_den_ne_zero m e
  have hratio : ratio ((Binary.fraction m e).1, (Binary.fraction m e).2) = dyadic m e :=
    ratio_fraction m e
  rw [← hratio] at hlow hhigh
  obtain ⟨hle, hlt⟩ := leadingExponent_bounds hden hlow hhigh
  obtain ⟨hleast, hmost⟩ := leadingExponent_range hden hlow hhigh
  set leading := leadingExponent (Binary.fraction m e).1 (Binary.fraction m e).2 with hleading
  rw [hratio] at hle hlt
  have hsome : (single.searchGrids m e leading 0 17).isSome :=
    searchGrids_isSome (Nat.zero_le 16) (by omega) (onGrid_isSome hm (seventeen_digits_fine hfits hle))
  obtain ⟨d, hd⟩ := Option.isSome_iff_exists.1 hsome
  refine ⟨d.trimmed, by simp only [Format.shortest?, ← hleading, hd, Option.map_some], ?_⟩
  obtain ⟨i, -, hi, hgrid⟩ := searchGrids_spec hd
  obtain ⟨hexponent, hadmits⟩ := onGrid_spec hgrid
  have hvalue : d.value ≤ (m + 1 / 2) * 2 ^ e := by
    rw [← dyadic_high single, Decimal.value, hexponent]
    exact Interval.le_of_admits hadmits
  have hdigits : d.digits < 10 ^ 18 := lt_of_lt_of_le (digits_lt_of_value hm hvalue hlt hexponent)
    (Nat.pow_le_pow_right (by omega) (by omega))
  have hlength : (Nat.toDigits 10 d.digits).length ≤ 18 :=
    (Nat.length_toDigits_le_iff (by omega) (by omega)).2 hdigits
  obtain ⟨hless, hmore, hless', hsmaller⟩ := trimmed_spec (Json.searchGrids_digits_ne_zero hd)
  exact ⟨hless.trans_lt hdigits, by omega, by omega, hsmaller.trans hvalue⟩

end Single

end PersonaDialogue.Number
