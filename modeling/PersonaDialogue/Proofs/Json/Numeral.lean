import PersonaDialogue.Json.Decode

/-!
# Numerals that were written are read back

A numeral is *well formed* when its digits are digits, its whole part has no leading zero, and nothing
that is written is empty.  The characters of a well-formed numeral are read as this numeral, whatever
follows that cannot belong to a number.  Natural numbers are written in their decimal digits
(`decimals`), which have the number as their value.
-/

namespace PersonaDialogue.Json

-- Powers are the built-in ones, also where others are in scope.
attribute [local instance (20000)] instPowNat

def digitChars (ds : List Nat) : List Char := ds.map Nat.digitChar

/-- Can nothing of `s` belong to a number that stands before it? -/
def Stops (s : List Char) : Prop :=
  ∀ c ∈ s.head?, Text.digitValue? c = none ∧ c ≠ '.' ∧ c ≠ 'e' ∧ c ≠ 'E'

theorem stops_nil : Stops [] := by simp [Stops]

/-! ### Digits -/

theorem digitValue?_digitChar : ∀ d < 10, Text.digitValue? d.digitChar = some d := by decide

theorem digits_of_none {s : List Char} (h : ∀ c ∈ s.head?, Text.digitValue? c = none) :
    digits s = ([], s) := by
  cases s with
  | nil => rfl
  | cons c s => simp [digits, h c rfl]

theorem digits_append {ds : List Nat} (hds : ∀ d ∈ ds, d < 10) {s : List Char}
    (hs : ∀ c ∈ s.head?, Text.digitValue? c = none) : digits (digitChars ds ++ s) = (ds, s) := by
  induction ds with
  | nil => exact digits_of_none hs
  | cons d ds ih =>
    have hd := digitValue?_digitChar d (hds d (by simp))
    have ih := ih fun x hx => hds x (List.mem_cons_of_mem _ hx)
    simp only [digitChars] at ih
    simp [digitChars, digits, hd, ih]

/-! ### Well-formed numerals -/

namespace Numeral

def fractionChars (ds : List Nat) : List Char := if ds = [] then [] else '.' :: digitChars ds

def exponentChars : Option (Bool × List Nat) → List Char
  | none => []
  | some (down, ds) => 'e' :: (if down then '-' else '+') :: digitChars ds

def magnitudeChars (k : Numeral) : List Char :=
  digitChars k.whole ++ (fractionChars k.fraction ++ exponentChars k.exponent)

def chars (k : Numeral) : List Char :=
  if k.negative then '-' :: k.magnitudeChars else k.magnitudeChars

/-- Its digits are digits, its whole part has no leading zero, and nothing that is written is empty. -/
structure WellFormed (k : Numeral) : Prop where
  whole_digits : ∀ d ∈ k.whole, d < 10
  whole_nonempty : k.whole ≠ []
  no_leading_zero : k.whole.head? = some 0 → k.whole = [0]
  fraction_digits : ∀ d ∈ k.fraction, d < 10
  exponent_digits : ∀ down ds, k.exponent = some (down, ds) → ds ≠ [] ∧ ∀ d ∈ ds, d < 10

theorem fractionChars_head {ds : List Nat} {e : Option (Bool × List Nat)} {s : List Char}
    (hs : Stops s) :
    ∀ c ∈ (fractionChars ds ++ (exponentChars e ++ s)).head?, Text.digitValue? c = none := by
  unfold fractionChars
  split
  · cases e with
    | none => exact fun c hc => (hs c hc).1
    | some e =>
      rintro c ⟨⟩
      rfl
  · rintro c ⟨⟩
    rfl

theorem exponentChars_head {e : Option (Bool × List Nat)} {s : List Char} (hs : Stops s) :
    ∀ c ∈ (exponentChars e ++ s).head?, Text.digitValue? c = none ∧ c ≠ '.' := by
  cases e with
  | none => exact fun c hc => ⟨(hs c hc).1, (hs c hc).2.1⟩
  | some e =>
    rintro c ⟨⟩
    decide

theorem numeralExponent_chars {negative : Bool} {whole fraction : List Nat}
    {e : Option (Bool × List Nat)} (he : ∀ down ds, e = some (down, ds) → ds ≠ [] ∧ ∀ d ∈ ds, d < 10)
    {s : List Char} (hs : Stops s) :
    numeralExponent negative whole fraction (exponentChars e ++ s) =
      (.numeral ⟨negative, whole, fraction, e⟩, some s) := by
  cases e with
  | none =>
    cases s with
    | nil => rfl
    | cons c s =>
      obtain ⟨-, -, he, hE⟩ := hs c rfl
      simp [exponentChars, numeralExponent, he, hE]
  | some e =>
    obtain ⟨down, ds⟩ := e
    obtain ⟨hne, hds⟩ := he down ds rfl
    have hread := digits_append hds fun c hc => (hs c hc).1
    obtain ⟨d, ds, rfl⟩ := List.exists_cons_of_ne_nil hne
    cases down <;> simp [exponentChars, numeralExponent, hread]

theorem unsignedNumeral_plain {negative : Bool} {s rest : List Char} {whole : List Nat}
    (hread : digits s = (whole, rest)) (hne : whole ≠ []) (hzero : whole.head? = some 0 → whole = [0])
    (hpoint : ∀ c ∈ rest.head?, c ≠ '.') :
    unsignedNumeral negative s = numeralExponent negative whole [] rest := by
  unfold unsignedNumeral
  rw [hread]
  split <;> simp_all

theorem unsignedNumeral_point {negative : Bool} {s t rest : List Char} {whole fraction : List Nat}
    (hread : digits s = (whole, '.' :: t)) (hne : whole ≠ [])
    (hzero : whole.head? = some 0 → whole = [0]) (hfraction : digits t = (fraction, rest))
    (hf : fraction ≠ []) :
    unsignedNumeral negative s = numeralExponent negative whole fraction rest := by
  unfold unsignedNumeral
  rw [hread]
  split
  · simp_all
  · simp_all
  · simp_all
  · next hdot heq =>
    exact absurd (Prod.mk.inj heq).2.symm (hdot t)

theorem unsignedNumeral_chars {k : Numeral} (hk : k.WellFormed) {s : List Char} (hs : Stops s) :
    unsignedNumeral k.negative (k.magnitudeChars ++ s) = (.numeral k, some s) := by
  obtain ⟨negative, whole, fraction, e⟩ := k
  obtain ⟨hwhole, hne, hzero, hfraction, he⟩ := hk
  have hread : digits (magnitudeChars ⟨negative, whole, fraction, e⟩ ++ s) =
      (whole, fractionChars fraction ++ (exponentChars e ++ s)) := by
    simp only [magnitudeChars, List.append_assoc]
    exact digits_append hwhole (fractionChars_head hs)
  have hafter := exponentChars_head (e := e) hs
  by_cases hf : fraction = []
  · subst hf
    rw [unsignedNumeral_plain hread hne hzero fun c hc => (hafter c hc).2]
    exact numeralExponent_chars he hs
  · rw [fractionChars, if_neg hf] at hread
    rw [unsignedNumeral_point hread hne hzero
      (digits_append hfraction fun c hc => (hafter c hc).1) hf]
    exact numeralExponent_chars he hs

end Numeral

/-! ### Natural numbers -/

/-- The decimal digits of a number, the highest first. -/
def decimals (n : Nat) : List Nat := if n < 10 then [n] else decimals (n / 10) ++ [n % 10]

theorem decimals_of_lt {n : Nat} (h : n < 10) : decimals n = [n] := by
  rw [decimals, if_pos h]

theorem decimals_of_ge {n : Nat} (h : 10 ≤ n) : decimals n = decimals (n / 10) ++ [n % 10] := by
  rw [decimals, if_neg (by omega)]

theorem toDigits_eq (n : Nat) : Nat.toDigits 10 n = digitChars (decimals n) := by
  induction n using Nat.strongRecOn with
  | _ n ih =>
    by_cases h : n < 10
    · rw [Nat.toDigits_of_lt_base h, decimals_of_lt h]
      rfl
    · rw [Nat.toDigits_of_base_le (by omega) (by omega), decimals_of_ge (by omega),
        ih (n / 10) (by omega)]
      simp [digitChars]

theorem decimals_lt (n : Nat) : ∀ d ∈ decimals n, d < 10 := by
  induction n using Nat.strongRecOn with
  | _ n ih =>
    by_cases h : n < 10
    · simp [decimals_of_lt h, h]
    · intro d hd
      rw [decimals_of_ge (by omega), List.mem_append, List.mem_singleton] at hd
      rcases hd with hd | rfl
      · exact ih (n / 10) (by omega) d hd
      · omega

theorem decimals_ne_nil (n : Nat) : decimals n ≠ [] := by
  by_cases h : n < 10
  · simp [decimals_of_lt h]
  · simp [decimals_of_ge (Nat.not_lt.1 h)]

theorem head?_decimals {n : Nat} (hn : n ≠ 0) : (decimals n).head? ≠ some 0 := by
  induction n using Nat.strongRecOn with
  | _ n ih =>
    by_cases h : n < 10
    · simpa [decimals_of_lt h] using hn
    · have ih := ih (n / 10) (by omega) (by omega)
      obtain ⟨d, ds, hd⟩ := List.exists_cons_of_ne_nil (decimals_ne_nil (n / 10))
      rw [decimals_of_ge (by omega), hd]
      rw [hd] at ih
      exact ih

theorem decimals_no_leading_zero (n : Nat) (h : (decimals n).head? = some 0) : decimals n = [0] := by
  by_cases hn : n = 0
  · rw [hn, decimals_of_lt (by omega)]
  · exact absurd h (head?_decimals hn)

/-- Digits are added to a number that was read before. -/
theorem foldl_digits (ds : List Nat) (a : Nat) :
    ds.foldl (fun n d => n * 10 + d) a = a * 10 ^ ds.length + digitsValue ds := by
  induction ds generalizing a with
  | nil => simp [digitsValue]
  | cons d ds ih =>
    rw [digitsValue, List.foldl_cons, List.foldl_cons, ih, ih (0 * 10 + d), List.length_cons,
      Nat.pow_succ]
    grind

theorem digitsValue_append (ds es : List Nat) :
    digitsValue (ds ++ es) = digitsValue ds * 10 ^ es.length + digitsValue es := by
  rw [← foldl_digits, digitsValue, List.foldl_append, digitsValue]

theorem digitsValue_singleton (d : Nat) : digitsValue [d] = d := by simp [digitsValue]

theorem digitsValue_decimals (n : Nat) : digitsValue (decimals n) = n := by
  induction n using Nat.strongRecOn with
  | _ n ih =>
    by_cases h : n < 10
    · rw [decimals_of_lt h, digitsValue_singleton]
    · rw [decimals_of_ge (by omega), digitsValue_append, digitsValue_singleton, ih (n / 10) (by omega)]
      simp only [List.length_singleton]
      omega

/-- All digits are taken if the number that they make fits 64 bits. -/
theorem takeDigits_of_lt {ds : List Nat} {a : Nat}
    (h : ds.foldl (fun n d => n * 10 + d) a < UInt64.size) :
    takeDigits a ds = (ds.foldl (fun n d => n * 10 + d) a, []) := by
  induction ds generalizing a with
  | nil => rfl
  | cons d ds ih =>
    have hgrow : a * 10 + d ≤ ds.foldl (fun n d => n * 10 + d) (a * 10 + d) := by
      rw [foldl_digits]
      exact Nat.le_add_right_of_le (Nat.le_mul_of_pos_right _ (Nat.pow_pos (by omega)))
    rw [takeDigits, if_pos (Nat.lt_of_le_of_lt hgrow h)]
    exact ih h

namespace Numeral

def ofNat (n : Nat) : Numeral := ⟨false, decimals n, [], none⟩

theorem ofNat_wellFormed (n : Nat) : (ofNat n).WellFormed where
  whole_digits := decimals_lt n
  whole_nonempty := decimals_ne_nil n
  no_leading_zero := decimals_no_leading_zero n
  fraction_digits := by simp [ofNat]
  exponent_digits := by simp [ofNat]

theorem chars_ofNat (n : Nat) : (ofNat n).chars = Nat.toDigits 10 n := by
  simp [chars, magnitudeChars, ofNat, fractionChars, exponentChars, toDigits_eq]

theorem value?_ofNat {n : Nat} (h : n < UInt64.size) : (ofNat n).value? = some (.whole n) := by
  have hvalue := digitsValue_decimals n
  unfold digitsValue at hvalue
  have htake : takeDigits 0 (decimals n) = (n, []) := by
    rw [takeDigits_of_lt (by rwa [hvalue]), hvalue]
  simp [value?, ofNat, htake, wholeNumeral]

theorem read_ofNat_toNat (n : UInt32) : (ofNat n.toNat).read = .ok (.whole n.toNat) := by
  have hlt : n.toNat < UInt64.size := Nat.lt_trans n.toNat_lt (by decide)
  rw [read, value?_ofNat hlt]

end Numeral

end PersonaDialogue.Json
