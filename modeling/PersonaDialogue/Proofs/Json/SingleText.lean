import PersonaDialogue.Proofs.Json.Compact
import PersonaDialogue.Proofs.Json.NumeralValue
import PersonaDialogue.Proofs.Json.Parts

/-!
# A finite number of 32 bits is read back as a finite number

The text of a number is read as a number of 64 bits, in up to three roundings, and then rounded to 32
bits (`decodeSingle_finite`).  The decimal in the text is at most half a place above the number, so the
roundings of 64 bits could carry it to infinity only from the greatest number of 32 bits, and for this one
the text is known.
-/

namespace PersonaDialogue.Json

open Number (Binary Decimal Format dyadic ratio single double)

/-! ### Numbers of 64 bits -/

/-- Rounding to 64 bits, far from the ends of the range. -/
theorem nearest_double (negative : Bool) {num den : Nat} (hden : den ≠ 0)
    (hq : ratio (num, den) ≤ 2 ^ 250) :
    ∃ m e, double.nearest negative num den = .finite negative m e ∧
      |dyadic m e - ratio (num, den)| ≤ ratio (num, den) / 2 ^ 53 + 1 / 2 ^ 60 := by
  have hbelow : (2 : ℚ) ^ 250 < (2 ^ double.bits - 1 / 2) * 2 ^ double.most := by
    have hmost : (2 : ℚ) ^ 250 ≤ 2 ^ double.most := by
      rw [← zpow_natCast]
      exact zpow_le_zpow_right₀ one_le_two (by decide)
    have hbits : (1 : ℚ) < 2 ^ double.bits - 1 / 2 := by norm_num [double]
    exact hmost.trans_lt (lt_mul_of_one_lt_left (by positivity) hbits)
  have htiny : (2 : ℚ) ^ double.least / 2 ≤ 1 / 2 ^ 60 := by
    have hleast : (2 : ℚ) ^ double.least ≤ 2 ^ (-60 : Int) :=
      zpow_le_zpow_right₀ one_le_two (by decide)
    exact (div_le_div_of_nonneg_right hleast two_pos.le).trans (by norm_num)
  obtain ⟨m, e, heq, -, hclose⟩ := Number.nearest_finite (f := double) (by decide) (by decide) negative
    hden (hq.trans_lt hbelow)
  exact ⟨m, e, heq, hclose.trans (add_le_add_right htiny _)⟩

/-- A number that is not too small is rounded to 64 bits with a small relative error. -/
theorem nearest_double_of_le (negative : Bool) (num : Nat) {den : Nat} (hden : den ≠ 0)
    (hle : 1 / 4 ≤ ratio (num, den)) (hq : ratio (num, den) ≤ 2 ^ 250) :
    ∃ m e, double.nearest negative num den = .finite negative m e ∧
      ratio (num, den) / 2 ≤ dyadic m e ∧ dyadic m e ≤ ratio (num, den) * (1 + 1 / 2 ^ 52) := by
  obtain ⟨m, e, heq, hclose⟩ := nearest_double negative hden hq
  obtain ⟨hlow, hhigh⟩ := abs_le.1 hclose
  exact ⟨m, e, heq, by linarith, by linarith⟩

theorem ratio_whole (n : Nat) : ratio (n, 1) = n := by simp [ratio]

/-- A product of numbers that are not negative is rounded once. -/
theorem scaleBy_eq (f : Format) (m n : Nat) (e d : Int) :
    ∃ num den, (Binary.finite false m e).scaleBy f (.finite false n d) = f.nearest false num den ∧
      den ≠ 0 ∧ ratio (num, den) = dyadic m e * dyadic n d := by
  have hm := Number.fraction_den_ne_zero m e
  have hn := Number.fraction_den_ne_zero n d
  refine ⟨_, _, rfl, Nat.mul_ne_zero hm hn, ?_⟩
  rw [← Number.ratio_fraction m, ← Number.ratio_fraction n, ratio, ratio, ratio, div_mul_div_comm]
  push_cast
  rfl

/-- A quotient of numbers that are not negative is rounded once. -/
theorem divideBy_eq (f : Format) (m : Nat) {n : Nat} (hn : n ≠ 0) (e d : Int) :
    ∃ num den, (Binary.finite false m e).divideBy f (.finite false n d) = f.nearest false num den ∧
      den ≠ 0 ∧ ratio (num, den) = dyadic m e / dyadic n d := by
  have hden := Number.fraction_den_ne_zero m e
  have hnum : (Binary.fraction n d).1 ≠ 0 := by
    unfold Binary.fraction
    split
    · exact Nat.mul_ne_zero hn (Nat.two_pow_pos _).ne'
    · exact hn
  refine ⟨_, _, by rw [Binary.divideBy]; exact if_neg hn, Nat.mul_ne_zero hden hnum, ?_⟩
  rw [← Number.ratio_fraction m, ← Number.ratio_fraction n, ratio, ratio, ratio, div_div_div_eq]
  push_cast
  rfl

/-! ### Scaling -/

/-- A decimal up to here is read as a number of 64 bits that is rounded to a finite one of 32 bits. -/
def readable : ℚ := (2 ^ 24 - 3 / 2) * 2 ^ 104

/-- Every number below this is rounded to a finite number of 32 bits. -/
def finiteBound : ℚ := (2 ^ 24 - 1 / 2) * 2 ^ 104

theorem readable_lt : readable * (1 + 1 / 2 ^ 52) ^ 3 < finiteBound := by
  norm_num [readable, finiteBound]

theorem powerOfTen_eq {k : Nat} (hk : k ≤ 62) :
    ∃ m e, powerOfTen k = .finite false m e ∧ 1 / 2 ≤ dyadic m e ∧
      dyadic m e ≤ 10 ^ k * (1 + 1 / 2 ^ 52) := by
  have hone : (1 : ℚ) ≤ 10 ^ k := one_le_pow₀ (by norm_num)
  have hmost : (10 : ℚ) ^ k ≤ 2 ^ 250 :=
    (pow_le_pow_right₀ (by norm_num) hk).trans (by norm_num)
  have hratio : ratio (10 ^ k, 1) = 10 ^ k := by rw [ratio_whole]; push_cast; rfl
  obtain ⟨m, e, heq, hlow, hhigh⟩ := nearest_double_of_le false (10 ^ k) one_ne_zero
    (by rw [hratio]; linarith) (hratio.trans_le hmost)
  rw [hratio] at hlow hhigh
  exact ⟨m, e, heq, by linarith, hhigh⟩

section Scale

variable {S : Nat} (hpos : S ≠ 0) (hS : S < 2 ^ 64)
include hpos hS

theorem word_eq : ∃ m e, double.nearest false S 1 = .finite false m e ∧ 1 / 2 ≤ dyadic m e ∧
    dyadic m e ≤ S * (1 + 1 / 2 ^ 52) := by
  have hone : (1 : ℚ) ≤ S := by exact_mod_cast Nat.pos_of_ne_zero hpos
  have hless : (S : ℚ) < 2 ^ 64 := by exact_mod_cast hS
  obtain ⟨m, e, heq, hlow, hhigh⟩ := nearest_double_of_le false S one_ne_zero
    (by rw [ratio_whole]; linarith) ((ratio_whole S).trans_le (hless.le.trans (by norm_num)))
  rw [ratio_whole] at hlow hhigh
  exact ⟨m, e, heq, by linarith, hhigh⟩

/-- Multiplying with a power of ten. -/
theorem scaleWord_up {k : Nat} (hk : k ≤ 62) (hvalue : (S : ℚ) * 10 ^ k ≤ readable) :
    ∃ m e, scaleWord S k = some (.finite false m e) ∧ dyadic m e < finiteBound := by
  obtain ⟨mw, ew, hword, hwordLow, hwordHigh⟩ := word_eq hpos hS
  obtain ⟨mp, ep, hpower, hpowerLow, hpowerHigh⟩ := powerOfTen_eq hk
  obtain ⟨num, den, hscale, hden, hratio⟩ := scaleBy_eq double mw mp ew ep
  have hlow : 1 / 4 ≤ ratio (num, den) := by
    rw [hratio]
    nlinarith
  have hhigh : ratio (num, den) ≤ readable * (1 + 1 / 2 ^ 52) ^ 2 := by
    calc ratio (num, den) = dyadic mw ew * dyadic mp ep := hratio
      _ ≤ S * (1 + 1 / 2 ^ 52) * (10 ^ k * (1 + 1 / 2 ^ 52)) := by gcongr
      _ = S * 10 ^ k * (1 + 1 / 2 ^ 52) ^ 2 := by ring
      _ ≤ readable * (1 + 1 / 2 ^ 52) ^ 2 := by gcongr
  obtain ⟨m, e, hnearest, -, hle⟩ := nearest_double_of_le false num hden hlow
    (hhigh.trans (by norm_num [readable]))
  refine ⟨m, e, ?_, ?_⟩
  · have hx : (double.nearest false S 1).scaleBy double (powerOfTen k) = .finite false m e := by
      rw [hword, hpower, hscale, hnearest]
    rw [scaleWord, if_pos (by omega), if_pos (by omega), Int.toNat_natCast]
    simp only [hx, Binary.isFinite, if_true]
  · calc dyadic m e ≤ ratio (num, den) * (1 + 1 / 2 ^ 52) := hle
      _ ≤ readable * (1 + 1 / 2 ^ 52) ^ 2 * (1 + 1 / 2 ^ 52) := by gcongr
      _ = readable * (1 + 1 / 2 ^ 52) ^ 3 := by ring
      _ < finiteBound := readable_lt

/-- Dividing by a power of ten. -/
theorem scaleWord_down {k : Nat} (hk : 0 < k) (hk' : k ≤ 62) :
    ∃ m e, scaleWord S (-k) = some (.finite false m e) ∧ dyadic m e < finiteBound := by
  obtain ⟨mw, ew, hword, hwordLow, hwordHigh⟩ := word_eq hpos hS
  obtain ⟨mp, ep, hpower, hpowerLow, hpowerHigh⟩ := powerOfTen_eq hk'
  have hmp : mp ≠ 0 := by
    rintro rfl
    norm_num [dyadic] at hpowerLow
  obtain ⟨num, den, hdivide, hden, hratio⟩ := divideBy_eq double mw hmp ew ep
  have hless : (S : ℚ) < 2 ^ 64 := by exact_mod_cast hS
  have hhigh : ratio (num, den) ≤ 2 ^ 66 := by
    rw [hratio, div_le_iff₀ (by linarith)]
    linarith
  obtain ⟨m, e, hnearest, hclose⟩ := nearest_double false hden (hhigh.trans (by norm_num))
  refine ⟨m, e, ?_, ?_⟩
  · have hx : (double.nearest false S 1).divideBy double (powerOfTen k) = .finite false m e := by
      rw [hword, hpower, hdivide, hnearest]
    rw [scaleWord, if_neg (by omega), if_pos (by omega), neg_neg, Int.toNat_natCast, hx]
  · have hle := (abs_le.1 hclose).2
    have hfar : (2 : ℚ) ^ 68 < finiteBound := by norm_num [finiteBound]
    linarith

end Scale

/-- **A readable decimal is read as a number that is rounded to a finite one of 32 bits.** -/
theorem scaleWord_finite {S : Nat} (hpos : S ≠ 0) (hS : S < 2 ^ 64) {e : Int} (hleast : -62 ≤ e)
    (hmost : e ≤ 56) (hvalue : (S : ℚ) * 10 ^ e ≤ readable) :
    ∃ m d, scaleWord S e = some (.finite false m d) ∧ dyadic m d < finiteBound := by
  rcases le_or_gt 0 e with h | h
  · obtain ⟨k, rfl⟩ := Int.eq_ofNat_of_zero_le h
    exact scaleWord_up hpos hS (by omega) (by exact_mod_cast hvalue)
  · obtain ⟨k, rfl⟩ : ∃ k : Nat, e = -k := ⟨(-e).toNat, by omega⟩
    exact scaleWord_down hpos hS (by omega) (by omega)

/-! ### Reading back -/

/-- A number of 64 bits below the bound is rounded to a finite one of 32 bits with its sign. -/
theorem toSingle_finite (negative : Bool) {m : Nat} {e : Int} (h : dyadic m e < finiteBound) :
    ∃ m' e', (Numeric.double (.finite negative m e)).toSingle = .finite negative m' e' := by
  have hden := Number.fraction_den_ne_zero m e
  have hratio : ratio ((Binary.fraction m e).1, (Binary.fraction m e).2) = dyadic m e :=
    Number.ratio_fraction m e
  obtain ⟨m', e', heq, -⟩ := Number.nearest_finite (f := single) (by decide) (by decide) negative hden
    (hratio.trans_lt h)
  exact ⟨m', e', heq⟩

section Finite

variable {negative : Bool} {m : Nat} {e : Int}

/-- The greatest number of 32 bits, whose decimal is above it, is still read as itself. -/
theorem decodeSingle_greatest : ∀ negative, decodeSingle 0
    (Value.number (.single (.finite negative (2 ^ 24 - 1) 104))).node =
      .ok (.finite negative (2 ^ 24 - 1) 104) := by
  decide +kernel

/-- The text of zero does not tell its exponent. -/
theorem decodeSingle_zero (negative : Bool) (e : Int) :
    decodeSingle 0 (Value.number (.single (.finite negative 0 e))).node =
      .ok (.finite negative 0 single.least) := by
  have htext : (Numeric.single (.finite negative 0 e)).text =
      Numeral.chars ⟨negative, [0], [0], none⟩ := by
    rw [← chars_signed]
    rfl
  have hnode : (Value.number (.single (.finite negative 0 e))).node =
      .numeral ⟨negative, [0], [0], none⟩ :=
    numericNode_of_chars (wellFormed_zero (zeros_lt_ten 1) negative) htext
  have hread : ∀ negative, decodeSingle 0 (.numeral ⟨negative, [0], [0], none⟩) =
      .ok (.finite negative 0 single.least) := by decide +kernel
  rw [hnode, hread]

variable {negative : Bool} {m : Nat} {e : Int}

/-- Every other number of 32 bits has a decimal that is readable. -/
theorem readable_of_fits (hfits : single.Fits m e) (hless : ¬(m = 2 ^ 24 - 1 ∧ e = 104)) :
    ((m : ℚ) + 1 / 2) * 2 ^ e ≤ readable := by
  have hm : m + 1 ≤ 2 ^ 24 := hfits.significand
  have he : e ≤ 104 := hfits.most
  by_cases htop : e = 104
  · have hm' : m + 2 ≤ 2 ^ 24 := by omega
    have hcast : (m : ℚ) + 2 ≤ 2 ^ 24 := by exact_mod_cast hm'
    have hplace : (2 : ℚ) ^ (104 : Int) = 2 ^ 104 := rfl
    rw [htop, readable, hplace]
    gcongr
    linarith
  · have hcast : (m : ℚ) + 1 ≤ 2 ^ 24 := by exact_mod_cast hm
    have hpow : (2 : ℚ) ^ e ≤ 2 ^ (103 : Int) := zpow_le_zpow_right₀ one_le_two (by omega)
    calc ((m : ℚ) + 1 / 2) * 2 ^ e ≤ 2 ^ 24 * 2 ^ (103 : Int) := by
          gcongr
          linarith
      _ ≤ readable := by norm_num [readable]

/-- **A finite number of 32 bits is read back as a finite number.** -/
theorem decodeSingle_finite (hfits : single.Fits m e) :
    ∃ m' e', decodeSingle 0 (Value.number (.single (.finite negative m e))).node =
      .ok (.finite negative m' e') := by
  by_cases hm : m = 0
  · exact ⟨_, _, by rw [hm, decodeSingle_zero]⟩
  by_cases hgreatest : m = 2 ^ 24 - 1 ∧ e = 104
  · obtain ⟨rfl, rfl⟩ := hgreatest
    exact ⟨_, _, decodeSingle_greatest negative⟩
  obtain ⟨d, hd, hwrites⟩ := Number.shortest?_spec hfits hm
  obtain ⟨hk, htext⟩ := layoutText_of_shortest singleLayout hm hd negative
  have hstands := layoutNumeral_standsFor (l := singleLayout) le_rfl hwrites negative
  have hsign := layoutNumeral_negative singleLayout d negative
  set k := layoutNumeral singleLayout d negative
  have hnode : (Value.number (.single (.finite negative m e))).node = .numeral k :=
    numericNode_of_chars hk (by rw [Numeric.text, htext, Option.getD_some])
  have hpos : k.significand ≠ 0 := by
    intro hzero
    have hvalue := hstands.value
    have hdigits : (d.digits : ℚ) ≠ 0 := Nat.cast_ne_zero.2 (shortest?_digits_ne_zero hd)
    rw [hzero, Nat.cast_zero, zero_mul, Decimal.value] at hvalue
    exact mul_ne_zero hdigits (zpow_ne_zero _ (by norm_num)) hvalue.symm
  obtain ⟨m₁, e₁, hscale, hbound⟩ := scaleWord_finite hpos hstands.significand hstands.least hstands.most
    (hstands.value.trans_le (hwrites.value.trans (readable_of_fits hfits hgreatest)))
  obtain ⟨m₂, e₂, hsingle⟩ := toSingle_finite negative hbound
  have hvalue : k.value? = some (.double (.finite negative m₁ e₁)) := by
    rw [Numeral.value?_of_lt hstands.real hstands.significand hstands.limit, hscale, Option.map_some,
      Numeral.signed, hsign]
    cases negative <;> rfl
  refine ⟨m₂, e₂, ?_⟩
  rw [hnode, ← hsingle]
  simp only [decodeSingle, Numeral.read, hvalue]
  rfl

end Finite

/-! ### Numbers that were read -/

theorem wholeNumeral_ne_single (negative : Bool) (n : Nat) (x : Binary) :
    wholeNumeral negative n ≠ .single x := by
  unfold wholeNumeral
  split
  · simp
  · split <;> simp

theorem scaled_ne_single (negative : Bool) (significand : Nat) (shift : Int)
    (exponent : Option (Bool × List Nat)) (x : Binary) :
    scaled negative significand shift exponent ≠ some (.single x) := by
  unfold scaled
  simp only
  split
  · simp
  · split
    · split <;> simp
    · simp

/-- A numeral is read as a whole number or as a number of 64 bits. -/
theorem value?_ne_single (k : Numeral) (x : Binary) : k.value? ≠ some (.single x) := by
  unfold Numeral.value?
  simp only
  split
  · exact fun h => wholeNumeral_ne_single _ _ _ (Option.some.inj h)
  · exact scaled_ne_single _ _ _ _ _

theorem toSingle_holds {n : Numeric} (h : ∀ x, n ≠ .single x) : single.Holds n.toSingle := by
  have hnearest : ∀ negative num den, den ≠ 0 → single.Holds (single.nearest negative num den) :=
    fun negative num _ hden => Number.nearest_holds (by decide) (by decide) negative num hden
  cases n with
  | whole n => exact hnearest _ _ _ one_ne_zero
  | single x => exact absurd rfl (h x)
  | double x =>
    cases x with
    | nan => trivial
    | infinite s => trivial
    | finite s m e => exact hnearest _ _ _ (Number.fraction_den_ne_zero m e)

/-- **What is read as a number of 32 bits is one.** -/
theorem decodeSingle_holds {depth : Nat} {v : Node} {x : Binary} (h : decodeSingle depth v = .ok x) :
    single.Holds x := by
  cases v with
  | numeral k =>
    obtain ⟨n, hread, hx⟩ := bind_eq_ok h
    obtain rfl := Except.ok.inj hx
    refine toSingle_holds fun x hn => ?_
    unfold Numeral.read at hread
    split at hread
    · next hvalue =>
      obtain rfl := Except.ok.inj hread
      exact value?_ne_single k x (hvalue.trans (congrArg some hn))
    · cases hread
  | null => exact absurd h (mismatch_ne_ok "f32" .null x)
  | boolean b => exact absurd h (mismatch_ne_ok "f32" (.boolean b) x)
  | text l => exact absurd h (mismatch_ne_ok "f32" (.text l) x)
  | array items ending => exact absurd h (mismatch_ne_ok "f32" (.array items ending) x)
  | object members ending => exact absurd h (mismatch_ne_ok "f32" (.object members ending) x)
  | broken attempt f => exact absurd h (mismatch_ne_ok "f32" (.broken attempt f) x)

end PersonaDialogue.Json
