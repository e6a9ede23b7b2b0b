import Mathlib.Data.List.TakeWhile
import Mathlib.Tactic.Set
import PersonaDialogue.Json.Value
import PersonaDialogue.Proofs.Json.Numeral

/-!
# The text of every number is a numeral

Whatever a number is and however it is laid out, its text is that of a well-formed numeral, except that
what has no JSON form is written `null`.  The digits of a shortest decimal do not begin with a zero,
and that is all that the two layouts need.
-/

namespace PersonaDialogue.Json

open Number (Binary Decimal Format Layout)

/-- Digits as a number may begin with. -/
structure Leads (ds : List Nat) : Prop where
  digits : ∀ d ∈ ds, d < 10
  nonempty : ds ≠ []
  head : ds.head? ≠ some 0

theorem leads_decimals {n : Nat} (h : n ≠ 0) : Leads (decimals n) :=
  ⟨decimals_lt n, decimals_ne_nil n, head?_decimals h⟩

namespace Leads

variable {ds es : List Nat}

theorem append (h : Leads ds) (hes : ∀ d ∈ es, d < 10) : Leads (ds ++ es) where
  digits d hd := (List.mem_append.1 hd).elim (h.digits d) (hes d)
  nonempty := by simp [h.nonempty]
  head := by
    obtain ⟨d, rest, rfl⟩ := List.exists_cons_of_ne_nil h.nonempty
    exact h.head

theorem take (h : Leads ds) (n : Nat) : Leads (ds.take (n + 1)) where
  digits d hd := h.digits d (List.mem_of_mem_take hd)
  nonempty := by simp [h.nonempty]
  head := by
    obtain ⟨d, rest, rfl⟩ := List.exists_cons_of_ne_nil h.nonempty
    exact h.head

/-- Digits that lead make the whole part of a numeral. -/
theorem wellFormed (h : Leads ds) (hes : ∀ d ∈ es, d < 10) {e : Option (Bool × List Nat)}
    (he : ∀ down fs, e = some (down, fs) → fs ≠ [] ∧ ∀ d ∈ fs, d < 10) (negative : Bool) :
    Numeral.WellFormed ⟨negative, ds, es, e⟩ where
  whole_digits := h.digits
  whole_nonempty := h.nonempty
  no_leading_zero hzero := absurd hzero h.head
  fraction_digits := hes
  exponent_digits := he

end Leads

theorem wellFormed_zero {ds : List Nat} (hds : ∀ d ∈ ds, d < 10) (negative : Bool) :
    Numeral.WellFormed ⟨negative, [0], ds, none⟩ where
  whole_digits := by simp
  whole_nonempty := by simp
  no_leading_zero := by simp
  fraction_digits := hds
  exponent_digits := by simp

theorem digitChars_append (ds es : List Nat) :
    digitChars (ds ++ es) = digitChars ds ++ digitChars es := by
  simp [digitChars]

theorem digitChars_replicate (n : Nat) : digitChars (List.replicate n 0) = List.replicate n '0' := by
  simp [digitChars]

theorem zeros_lt_ten (n : Nat) : ∀ d ∈ List.replicate n 0, d < 10 := by
  intro d hd
  rw [List.eq_of_mem_replicate hd]
  omega

/-! ### The two layouts -/

/-- The numeral of digits that are written out in places. -/
def placedNumeral (ds : List Nat) (leading : Int) (negative : Bool) : Numeral :=
  if leading < 0 then
    ⟨negative, [0], List.replicate ((-leading).toNat - 1) 0 ++ ds, none⟩
  else if ds.length ≤ leading.toNat + 1 then
    ⟨negative, ds ++ List.replicate (leading.toNat + 1 - ds.length) 0, [0], none⟩
  else ⟨negative, ds.take (leading.toNat + 1), ds.drop (leading.toNat + 1), none⟩

/-- The numeral of digits that are written with an exponent. -/
def exponentNumeral (ds : List Nat) (leading : Int) (negative : Bool) : Numeral :=
  ⟨negative, ds.take 1, ds.drop 1, some (decide (leading < 0), decimals leading.natAbs)⟩

section Layouts

variable {ds : List Nat}

theorem placed_eq (h : Leads ds) (leading : Int) (negative : Bool) :
    (placedNumeral ds leading negative).WellFormed ∧
      Number.placed (digitChars ds) leading = (placedNumeral ds leading negative).magnitudeChars := by
  have hlen : (digitChars ds).length = ds.length := by simp [digitChars]
  have hnone : ∀ down fs, (none : Option (Bool × List Nat)) = some (down, fs) →
      fs ≠ [] ∧ ∀ d ∈ fs, d < 10 := by simp
  unfold Number.placed placedNumeral
  split
  · -- All digits stand behind the point, after some zeros.
    have hfraction : ∀ d ∈ List.replicate ((-leading).toNat - 1) 0 ++ ds, d < 10 := fun d hd =>
      (List.mem_append.1 hd).elim (zeros_lt_ten _ d) (h.digits d)
    refine ⟨wellFormed_zero hfraction negative, ?_⟩
    simp [Numeral.magnitudeChars, Numeral.fractionChars, Numeral.exponentChars, h.nonempty,
      digitChars_append, digitChars_replicate]
    rfl
  · rw [hlen]
    simp only
    split
    · -- All digits stand before the point, and zeros after them.
      refine ⟨(h.append (zeros_lt_ten (leading.toNat + 1 - ds.length))).wellFormed
        (zeros_lt_ten 1) hnone negative, ?_⟩
      simp [Numeral.magnitudeChars, Numeral.fractionChars, Numeral.exponentChars,
        digitChars_append, digitChars_replicate]
      rfl
    · have hrest : ds.drop (leading.toNat + 1) ≠ [] := by
        simp only [ne_eq, List.drop_eq_nil_iff]
        omega
      have hfraction : ∀ d ∈ ds.drop (leading.toNat + 1), d < 10 := fun d hd =>
        h.digits d (List.mem_of_mem_drop hd)
      refine ⟨(h.take leading.toNat).wellFormed hfraction hnone negative, ?_⟩
      simp [Numeral.magnitudeChars, Numeral.fractionChars, Numeral.exponentChars, hrest, digitChars]

theorem withExponent_eq (h : Leads ds) (leading : Int) (negative : Bool) :
    (exponentNumeral ds leading negative).WellFormed ∧
      Number.withExponent (digitChars ds) leading =
        (exponentNumeral ds leading negative).magnitudeChars := by
  obtain ⟨d, rest, rfl⟩ := List.exists_cons_of_ne_nil h.nonempty
  have hrest : ∀ e ∈ rest, e < 10 := fun e he => h.digits e (List.mem_cons_of_mem _ he)
  have hexponent : ∀ down fs, some (decide (leading < 0), decimals leading.natAbs) = some (down, fs) →
      fs ≠ [] ∧ ∀ d ∈ fs, d < 10 := by
    rintro down fs ⟨⟩
    exact ⟨decimals_ne_nil _, decimals_lt _⟩
  have hsign : (if leading < 0 then '-' else '+') =
      if decide (leading < 0) = true then '-' else '+' := by simp
  refine ⟨(h.take 0).wellFormed hrest hexponent negative, ?_⟩
  unfold Number.withExponent exponentNumeral
  rw [hsign, toDigits_eq]
  cases rest <;>
    simp [Numeral.magnitudeChars, Numeral.fractionChars, Numeral.exponentChars, digitChars]

end Layouts

/-! ### The digits of a shortest decimal -/

theorem onGrid_digits_ne_zero {f : Format} {m : Nat} {e k : Int} {d : Decimal}
    (h : f.onGrid m e k = some d) : d.digits ≠ 0 := by
  unfold Format.onGrid at h
  simp only at h
  split at h
  · next hlow hhigh =>
    obtain ⟨hne, -⟩ : _ ≠ 0 ∧ _ := by simpa using hlow
    obtain rfl := Option.some.inj h
    simp only
    split <;> omega
  · next hlow hhigh =>
    obtain ⟨hne, -⟩ : _ ≠ 0 ∧ _ := by simpa using hlow
    obtain rfl := Option.some.inj h
    exact hne
  · obtain rfl := Option.some.inj h
    exact Nat.succ_ne_zero _
  · simp at h

theorem searchGrids_digits_ne_zero {f : Format} {m : Nat} {e leading : Int} {count tries : Nat}
    {d : Decimal} (h : f.searchGrids m e leading count tries = some d) : d.digits ≠ 0 := by
  induction tries generalizing count with
  | zero => simp [Format.searchGrids] at h
  | succ tries ih =>
    unfold Format.searchGrids at h
    split at h
    · next hgrid => exact onGrid_digits_ne_zero (h ▸ hgrid)
    · exact ih h

theorem zeros_lt_length {n : Nat} (hn : n ≠ 0) :
    ((Nat.toDigits 10 n).reverse.takeWhile (· == '0')).length < (Nat.toDigits 10 n).length := by
  obtain ⟨d, ds, hd⟩ := List.exists_cons_of_ne_nil (decimals_ne_nil n)
  have hlead := (leads_decimals hn)
  rw [hd] at hlead
  have hd0 : d ≠ 0 := fun h0 => hlead.head (by rw [h0]; rfl)
  have hchar : d.digitChar ≠ '0' := by
    have hall : ∀ d < 10, d ≠ 0 → d.digitChar ≠ '0' := by decide
    exact hall d (hlead.digits d (by simp)) hd0
  have hle := (List.takeWhile_sublist (p := (· == '0')) (l := (Nat.toDigits 10 n).reverse)).length_le
  rw [List.length_reverse] at hle
  refine Nat.lt_of_le_of_ne hle fun heq => hchar ?_
  have hall : (Nat.toDigits 10 n).reverse.takeWhile (· == '0') = (Nat.toDigits 10 n).reverse :=
    (List.takeWhile_sublist _).eq_of_length (by rw [heq, List.length_reverse])
  have hmem : d.digitChar ∈ (Nat.toDigits 10 n).reverse := by simp [toDigits_eq, hd, digitChars]
  simpa using List.takeWhile_eq_self_iff.1 hall _ hmem

theorem trimmed_digits_ne_zero {d : Decimal} (h : d.digits ≠ 0) : d.trimmed.digits ≠ 0 := by
  have hzeros := zeros_lt_length h
  set zeros := ((Nat.toDigits 10 d.digits).reverse.takeWhile (· == '0')).length with hz
  have hpow : 10 ^ zeros ≤ d.digits := by
    rcases Nat.eq_zero_or_pos zeros with h0 | hpos
    · rw [h0]
      omega
    · have hlong : ¬ (Nat.toDigits 10 d.digits).length ≤ zeros := Nat.not_le.2 hzeros
      rw [Nat.length_toDigits_le_iff (by omega) hpos] at hlong
      exact Nat.not_lt.1 hlong
  exact Nat.ne_of_gt (Nat.div_pos hpow (Nat.pow_pos (by omega)))

theorem shortest?_digits_ne_zero {f : Format} {m : Nat} {e : Int} {d : Decimal}
    (h : f.shortest? m e = some d) : d.digits ≠ 0 := by
  obtain ⟨d, hd, rfl⟩ := Option.map_eq_some_iff.1 h
  exact trimmed_digits_ne_zero (searchGrids_digits_ne_zero hd)

/-! ### Numbers -/

def layoutNumeral (l : Layout) (d : Decimal) (negative : Bool) : Numeral :=
  let ds := decimals d.digits
  let leading := d.exponent + ds.length - 1
  if l.least ≤ leading ∧ leading ≤ l.most then placedNumeral ds leading negative
  else exponentNumeral ds leading negative

theorem layoutNumeral_negative (l : Layout) (d : Decimal) (negative : Bool) :
    (layoutNumeral l d negative).negative = negative := by
  unfold layoutNumeral placedNumeral exponentNumeral
  simp only
  split_ifs <;> rfl

theorem layoutDecimal_eq (l : Layout) {d : Decimal} (h : d.digits ≠ 0) (negative : Bool) :
    (layoutNumeral l d negative).WellFormed ∧
      l.decimal d = (layoutNumeral l d negative).magnitudeChars := by
  have hlen : (digitChars (decimals d.digits)).length = (decimals d.digits).length := by
    simp [digitChars]
  unfold Layout.decimal layoutNumeral
  simp only [toDigits_eq, hlen]
  split
  · exact placed_eq (leads_decimals h) _ negative
  · exact withExponent_eq (leads_decimals h) _ negative

/-- What is written for a number: the characters of a well-formed numeral. -/
def IsNumeral (s : List Char) : Prop := ∃ k : Numeral, k.WellFormed ∧ k.chars = s

theorem chars_signed (k : Numeral) :
    (if k.negative then ['-'] else []) ++ k.magnitudeChars = k.chars := by
  rw [Numeral.chars]
  cases k.negative <;> rfl

/-- The text of a number that is not zero, whose shortest decimal is known. -/
theorem layoutText_of_shortest (l : Layout) {f : Format} {m : Nat} (hm : m ≠ 0) {e : Int} {d : Decimal}
    (h : f.shortest? m e = some d) (negative : Bool) :
    (layoutNumeral l d negative).WellFormed ∧
      l.text? f (.finite negative m e) = some (layoutNumeral l d negative).chars := by
  obtain ⟨hk, hchars⟩ := layoutDecimal_eq l (shortest?_digits_ne_zero h) negative
  refine ⟨hk, ?_⟩
  rw [← chars_signed, layoutNumeral_negative, ← hchars]
  simp [Layout.text?, hm, h]

theorem layoutText_isNumeral (l : Layout) (f : Format) {x : Binary} {s : List Char}
    (h : l.text? f x = some s) : IsNumeral s := by
  cases x with
  | nan => simp [Layout.text?] at h
  | infinite negative => simp [Layout.text?] at h
  | finite negative m e =>
    by_cases hm : m = 0
    · simp only [Layout.text?, if_pos hm, Option.some.injEq] at h
      exact ⟨_, wellFormed_zero (zeros_lt_ten 1) negative, (chars_signed _).symm.trans h⟩
    · have hshortest : ∃ d, f.shortest? m e = some d := by
        simp only [Layout.text?, if_neg hm, Option.map_eq_some_iff] at h
        exact ⟨_, h.choose_spec.1⟩
      obtain ⟨d, hd⟩ := hshortest
      obtain ⟨hk, htext⟩ := layoutText_of_shortest l hm hd negative
      exact ⟨_, hk, Option.some.inj (htext.symm.trans h)⟩

theorem wholeText_isNumeral (n : Int) : IsNumeral (wholeText n) := by
  have hwell := Numeral.ofNat_wellFormed n.natAbs
  have hchars := Numeral.chars_ofNat n.natAbs
  unfold wholeText
  split
  · refine ⟨{ Numeral.ofNat n.natAbs with negative := true }, ⟨hwell.1, hwell.2, hwell.3, hwell.4,
      hwell.5⟩, ?_⟩
    rw [← hchars]
    rfl
  · exact ⟨_, hwell, hchars⟩

/-- **The text of a number is a numeral or `null`.** -/
theorem numericText_cases (n : Numeric) : n.text = "null".toList ∨ IsNumeral n.text := by
  cases n with
  | whole n => exact .inr (wholeText_isNumeral n)
  | single x =>
    cases h : singleLayout.text? Number.single x with
    | none => exact .inl (by simp [Numeric.text, h])
    | some s => exact .inr (by simpa [Numeric.text, h] using layoutText_isNumeral _ _ h)
  | double x =>
    cases h : doubleLayout.text? Number.double x with
    | none => exact .inl (by simp [Numeric.text, h])
    | some s => exact .inr (by simpa [Numeric.text, h] using layoutText_isNumeral _ _ h)

end PersonaDialogue.Json
