import PersonaDialogue.Proofs.Number.Shortest

/-!
# The value of a numeral that a number is written as

A numeral with a point or an exponent stands for all its digits as one whole number, scaled by the power
of ten of its last digit (`value?_of_lt`), as long as that whole number fits 64 bits.  The numeral of a
decimal stands for the decimal, whichever layout it is written in (`layoutNumeral_standsFor`).
-/

namespace PersonaDialogue.Json

open Number (Binary Decimal Layout)

/-! ### Digits -/

theorem digitsValue_zeros (n : Nat) : digitsValue (List.replicate n 0) = 0 := by
  induction n with
  | zero => rfl
  | succ n ih => rw [List.replicate_succ', digitsValue_append, ih]; rfl

theorem decimals_length_le_iff (n : Nat) {k : Nat} (hk : 0 < k) :
    (decimals n).length ≤ k ↔ n < 10 ^ k := by
  rw [← Nat.length_toDigits_le_iff (by omega) hk, toDigits_eq, digitChars, List.length_map]

/-! ### Numerals -/

namespace Numeral

/-- All digits of a numeral as one whole number. -/
def significand (k : Numeral) : Nat := digitsValue (k.whole ++ k.fraction)

/-- The power of ten of the last digit of a numeral. -/
def lastPlace (k : Numeral) : Int :=
  (match k.exponent with
    | none => 0
    | some (down, ds) => if down then -(digitsValue ds : Int) else digitsValue ds) -
  k.fraction.length

def signed (k : Numeral) (x : Binary) : Numeric := .double (if k.negative then x.negate else x)

theorem takeDigits_parts {ds es : List Nat} (h : digitsValue (ds ++ es) < 2 ^ 64) :
    takeDigits 0 ds = (digitsValue ds, []) ∧
      takeDigits (digitsValue ds) es = (digitsValue (ds ++ es), []) := by
  have hfold : digitsValue (ds ++ es) = es.foldl (fun n d => n * 10 + d) (digitsValue ds) := by
    rw [digitsValue_append, foldl_digits]
  have hle : digitsValue ds ≤ digitsValue (ds ++ es) := by
    rw [digitsValue_append]
    exact Nat.le_add_right_of_le (Nat.le_mul_of_pos_right _ (Nat.pow_pos (by omega)))
  rw [hfold]
  exact ⟨takeDigits_of_lt (hle.trans_lt h), takeDigits_of_lt (hfold ▸ h)⟩

/-- **A numeral with a point or an exponent stands for its digits**, scaled. -/
theorem value?_of_lt {k : Numeral} (hreal : k.fraction ≠ [] ∨ k.exponent ≠ none)
    (hlt : k.significand < 2 ^ 64)
    (hlimit : ∀ down ds, k.exponent = some (down, ds) → digitsValue ds < exponentLimit) :
    k.value? = (scaleWord k.significand k.lastPlace).map k.signed := by
  obtain ⟨negative, whole, fraction, e⟩ := k
  obtain ⟨hwhole, hall⟩ := takeDigits_parts hlt
  have hscaled : value? ⟨negative, whole, fraction, e⟩ =
      scaled negative (digitsValue (whole ++ fraction)) (-fraction.length) e := by
    unfold value?
    simp only [hwhole]
    split
    · simp_all
    · simp [hall]
  rw [hscaled]
  cases e with
  | none =>
    have hplace : lastPlace ⟨negative, whole, fraction, none⟩ = -fraction.length := by simp [lastPlace]
    rw [hplace]
    rfl
  | some e =>
    obtain ⟨down, ds⟩ := e
    have hplace : lastPlace ⟨negative, whole, fraction, some (down, ds)⟩ =
        if down then -(fraction.length : Int) - digitsValue ds
        else -(fraction.length : Int) + digitsValue ds := by
      simp only [lastPlace]
      split <;> omega
    rw [hplace, scaled, if_neg (Nat.not_le.2 (hlimit down ds rfl))]
    rfl

end Numeral

/-! ### Decimals -/

/-- A numeral stands for a decimal if its digits make up the decimal, and if they can be read without
loss and scaled in one step. -/
structure Numeral.StandsFor (k : Numeral) (d : Decimal) : Prop where
  real : k.fraction ≠ [] ∨ k.exponent ≠ none
  limit : ∀ down ds, k.exponent = some (down, ds) → digitsValue ds < exponentLimit
  value : (k.significand : ℚ) * 10 ^ k.lastPlace = d.value
  significand : k.significand < 2 ^ 64
  least : -62 ≤ k.lastPlace
  most : k.lastPlace ≤ 56

namespace Numeral

variable {k : Numeral} {d : Decimal} {m : Nat} {e : Int}

theorem standsFor_of_digits (h : d.Writes m e) (hreal : k.fraction ≠ [] ∨ k.exponent ≠ none)
    (hlimit : ∀ down ds, k.exponent = some (down, ds) → digitsValue ds < exponentLimit)
    (hdigits : k.significand = d.digits) (hplace : k.lastPlace = d.exponent) : k.StandsFor d where
  real := hreal
  limit := hlimit
  value := by rw [hdigits, hplace, Decimal.value]
  significand := hdigits ▸ h.digits.trans (by decide)
  least := hplace ▸ h.least
  most := hplace ▸ h.most

end Numeral

/-- Zeros fill the places up to the point, and one stands behind it. -/
theorem filledNumeral_standsFor {d : Decimal} {z : Nat} (hexponent : d.exponent = z)
    (hshort : (decimals d.digits).length + z ≤ 13) (negative : Bool) :
    Numeral.StandsFor ⟨negative, decimals d.digits ++ List.replicate z 0, [0], none⟩ d := by
  have hsignificand : Numeral.significand
      ⟨negative, decimals d.digits ++ List.replicate z 0, [0], none⟩ = d.digits * 10 ^ (z + 1) := by
    rw [Numeral.significand, digitsValue_append, digitsValue_append, digitsValue_zeros,
      digitsValue_decimals, List.length_replicate, Nat.pow_succ]
    simp [digitsValue, Nat.mul_assoc]
  have hvalue : ((d.digits * 10 ^ (z + 1) : Nat) : ℚ) * 10 ^ (-1 : Int) = d.value := by
    rw [Decimal.value, hexponent, zpow_natCast, pow_succ]
    push_cast
    rw [zpow_neg_one]
    field_simp
  have hlt : d.digits < 10 ^ (decimals d.digits).length :=
    (decimals_length_le_iff _ (List.length_pos_of_ne_nil (decimals_ne_nil _))).1 le_rfl
  refine ⟨.inl (by simp), by simp, ?_, ?_, by simp [Numeral.lastPlace], by simp [Numeral.lastPlace]⟩
  · rw [hsignificand]
    exact hvalue
  · calc Numeral.significand _ = d.digits * 10 ^ (z + 1) := hsignificand
      _ < 10 ^ (decimals d.digits).length * 10 ^ (z + 1) :=
        Nat.mul_lt_mul_of_pos_right hlt (Nat.pow_pos (by omega))
      _ = 10 ^ ((decimals d.digits).length + (z + 1)) := (Nat.pow_add _ _ _).symm
      _ ≤ 10 ^ 14 := Nat.pow_le_pow_right (by omega) (by omega)
      _ < 2 ^ 64 := by decide

section Layouts

variable {d : Decimal} {m : Nat} {e : Int} (h : d.Writes m e) {leading : Int}
  (hleading : leading = d.exponent + (decimals d.digits).length - 1)
include h hleading

theorem exponentNumeral_standsFor (negative : Bool) :
    (exponentNumeral (decimals d.digits) leading negative).StandsFor d := by
  have hlength : (decimals d.digits).length ≤ 18 := (decimals_length_le_iff _ (by omega)).2 h.digits
  have hpos : 0 < (decimals d.digits).length := List.length_pos_of_ne_nil (decimals_ne_nil _)
  have hleast := h.least
  have hmost := h.most
  refine Numeral.standsFor_of_digits h (.inr (by simp [exponentNumeral])) ?_ ?_ ?_
  · rintro down ds ⟨⟩
    rw [digitsValue_decimals, exponentLimit]
    omega
  · rw [Numeral.significand, exponentNumeral, List.take_append_drop, digitsValue_decimals]
  · simp only [Numeral.lastPlace, exponentNumeral, digitsValue_decimals, List.length_drop,
      decide_eq_true_iff]
    split <;> omega

theorem placedNumeral_standsFor (hshort : leading ≤ 12) (negative : Bool) :
    (placedNumeral (decimals d.digits) leading negative).StandsFor d := by
  have hpos : 0 < (decimals d.digits).length := List.length_pos_of_ne_nil (decimals_ne_nil _)
  have hleast := h.least
  unfold placedNumeral
  split
  · refine Numeral.standsFor_of_digits h (.inl (by simp [decimals_ne_nil])) (by simp) ?_ ?_
    · change digitsValue ([0] ++ (List.replicate _ 0 ++ decimals d.digits)) = d.digits
      rw [digitsValue_append, digitsValue_append, digitsValue_zeros, digitsValue_decimals]
      simp [digitsValue]
    · simp only [Numeral.lastPlace, List.length_append, List.length_replicate]
      omega
  · split
    · refine filledNumeral_standsFor ?_ ?_ negative
      · omega
      · omega
    · refine Numeral.standsFor_of_digits h (.inl ?_) (by simp) ?_ ?_
      · simp only [ne_eq, List.drop_eq_nil_iff]
        omega
      · rw [Numeral.significand, List.take_append_drop, digitsValue_decimals]
      · simp only [Numeral.lastPlace, List.length_drop]
        omega

end Layouts

/-- **The numeral of a decimal stands for the decimal**, in a layout that does not write out numbers of
very many places. -/
theorem layoutNumeral_standsFor {l : Layout} (hl : l.most ≤ 12) {d : Decimal} {m : Nat} {e : Int}
    (h : d.Writes m e) (negative : Bool) : (layoutNumeral l d negative).StandsFor d := by
  unfold layoutNumeral
  simp only
  split
  · next hplaced => exact placedNumeral_standsFor h rfl (hplaced.2.trans hl) negative
  · exact exponentNumeral_standsFor h rfl negative

end PersonaDialogue.Json
