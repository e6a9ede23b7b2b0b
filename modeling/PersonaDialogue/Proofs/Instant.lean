import PersonaDialogue.Instant
import PersonaDialogue.Proofs.Json.NumberText

/-!
# Instants that were written are read back

The reader of instants is lenient, about the width of numbers above all, so it is the writer that has to
leave no doubt: a number is written in as many digits as the reader takes, or what follows it is no
digit.  An instant of the calendar and the clock (`Instant.Proper`) is read back as it was, an inserted
second included.
-/

namespace PersonaDialogue

open Text (digitValue? numberFrom?)

/-! ### Digits -/

/-- Is `ds` made of digits, and `n` the number that they stand for? -/
structure Text.Digits (ds : List Char) (n : Nat) : Prop where
  digit : ∀ c ∈ ds, (digitValue? c).isSome = true
  value : Text.number? ds = some n

namespace Text

theorem numberFrom?_digitChars (soFar : Nat) {ds : List Nat} (h : ∀ d ∈ ds, d < 10) :
    numberFrom? soFar (Json.digitChars ds) = some (ds.foldl (fun n d => n * 10 + d) soFar) := by
  induction ds generalizing soFar with
  | nil => rfl
  | cons d ds ih =>
    have hd := Json.digitValue?_digitChar d (h d (by simp))
    have hrest := ih (soFar * 10 + d) fun e he => h e (List.mem_cons_of_mem _ he)
    rw [Json.digitChars, List.map_cons, numberFrom?, hd]
    exact hrest

theorem digits_digitChars {ds : List Nat} (hne : ds ≠ []) (h : ∀ d ∈ ds, d < 10) :
    Digits (Json.digitChars ds) (Json.digitsValue ds) where
  digit := by
    intro c hc
    obtain ⟨d, hd, rfl⟩ := List.mem_map.1 hc
    rw [Json.digitValue?_digitChar d (h d hd), Option.isSome_some]
  value := by
    rw [number?, if_neg (by simpa [Json.digitChars] using hne), numberFrom?_digitChars 0 h]
    rfl

namespace Digits

variable {ds : List Char} {n : Nat}

theorem ne_nil (h : Digits ds n) : ds ≠ [] := by
  rintro rfl
  exact absurd h.value (by simp [number?])

theorem isBlank_head (h : Digits ds n) {c : Char} (hc : c ∈ ds) : isBlank c = false := by
  have hdigit := h.digit c hc
  simp only [digitValue?] at hdigit
  split at hdigit
  · next hrange =>
    simp only [isBlank]
    simp
    omega
  · cases hdigit

theorem trimStart_append (h : Digits ds n) (t : List Char) : trimStart (ds ++ t) = ds ++ t := by
  cases hds : ds with
  | nil => exact absurd hds h.ne_nil
  | cons c s =>
    have hc : isBlank c = false := h.isBlank_head (hds ▸ List.mem_cons_self)
    simp [trimStart, hc]

/-- Digits are read as their number if no more are asked for, or no more follow. -/
theorem read_append (h : Digits ds n) {most : Nat} {t : List Char}
    (hmost : ds.length = most ∨ ds.length ≤ most ∧ ∀ c ∈ t.head?, digitValue? c = none) :
    Instant.number? most (ds ++ t) = some (n, t) := by
  have htaken : ((ds ++ t).take most).takeWhile (fun c => (digitValue? c).isSome) = ds := by
    rcases hmost with rfl | ⟨hle, hstop⟩
    · rw [List.take_left]
      exact List.takeWhile_eq_self_iff.2 h.digit
    · rw [List.take_append, List.take_of_length_le hle, List.takeWhile_append_of_pos h.digit]
      have hrest : (t.take (most - ds.length)).takeWhile (fun c => (digitValue? c).isSome) = [] := by
        cases t with
        | nil => simp
        | cons c t =>
          cases most - ds.length with
          | zero => rfl
          | succ k => simp [hstop c rfl]
      rw [hrest, List.append_nil]
  rw [Instant.number?]
  simp only [htaken, h.value, Option.map_some, List.drop_left]

end Digits

end Text

namespace Instant

-- Powers are the built-in ones, also where others are in scope.
attribute [local instance (20000)] instPowNat

open Text (Digits)

/-! ### Numbers of a fixed width -/

def lowDigits : Nat → Nat → List Nat
  | 0, _ => []
  | width + 1, n => lowDigits width (n / 10) ++ [n % 10]

theorem digitChar_eq : ∀ d < 10, d.digitChar = Char.ofNat (48 + d) := by decide

theorem padded_eq (width n : Nat) : padded width n = Json.digitChars (lowDigits width n) := by
  induction width generalizing n with
  | zero => rfl
  | succ width ih =>
    rw [padded, lowDigits, Json.digitChars_append, ih, Json.digitChars, Json.digitChars, List.map_singleton,
      digitChar_eq _ (by omega)]

theorem lowDigits_lt (width n : Nat) : ∀ d ∈ lowDigits width n, d < 10 := by
  induction width generalizing n with
  | zero => simp [lowDigits]
  | succ width ih =>
    intro d hd
    rcases List.mem_append.1 hd with hd | hd
    · exact ih _ d hd
    · rw [List.mem_singleton.1 hd]
      omega

theorem digitsValue_lowDigits {width n : Nat} (h : n < 10 ^ width) :
    Json.digitsValue (lowDigits width n) = n := by
  induction width generalizing n with
  | zero =>
    have hn : n = 0 := by omega
    simp [lowDigits, Json.digitsValue, hn]
  | succ width ih =>
    rw [lowDigits, Json.digitsValue_append, Json.digitsValue_singleton, ih (by omega)]
    simp only [List.length_singleton]
    omega

theorem length_padded (width n : Nat) : (padded width n).length = width := by
  induction width generalizing n with
  | zero => rfl
  | succ width ih => simp [padded, ih]

theorem digits_padded {width n : Nat} (hwidth : width ≠ 0) (h : n < 10 ^ width) :
    Digits (padded width n) n := by
  have hne : lowDigits width n ≠ [] := by
    cases width with
    | zero => exact absurd rfl hwidth
    | succ width => simp [lowDigits]
  have hdigits := Text.digits_digitChars hne (lowDigits_lt width n)
  rwa [← padded_eq, digitsValue_lowDigits h] at hdigits

theorem field?_padded {limit n : Nat} (h : n ≤ limit) (hlimit : limit < 100) (t : List Char) :
    field? limit (padded 2 n ++ t) = some (n, t) := by
  have hdigits : Digits (padded 2 n) n := digits_padded (by omega) (by omega)
  have hread : number? 2 (padded 2 n ++ t) = some (n, t) := hdigits.read_append (.inl (length_padded 2 n))
  simp [field?, hdigits.trimStart_append, hread, h]

theorem sign?_cons {c : Char} (h : Text.isBlank c = false) (t : List Char) : sign? c (c :: t) = some t := by
  simp [sign?, Text.trimStart, h]

/-! ### Years -/

theorem digits_longYear (n : Nat) :
    Digits (List.replicate (4 - (Nat.toDigits 10 n).length) '0' ++ Nat.toDigits 10 n) n := by
  generalize 4 - (Nat.toDigits 10 n).length = zeros
  have hzeros : ∀ k, (List.replicate k 0).foldl (fun n d => n * 10 + d) 0 = 0 := by
    intro k
    induction k with
    | zero => rfl
    | succ k ih => rw [List.replicate_succ, List.foldl_cons, ih]
  have hvalue : Json.digitsValue (List.replicate zeros 0 ++ Json.decimals n) = n := by
    have hn := Json.digitsValue_decimals n
    unfold Json.digitsValue at hn ⊢
    rw [List.foldl_append, hzeros, hn]
  have hlt : ∀ d ∈ List.replicate zeros 0 ++ Json.decimals n, d < 10 := by
    intro d hd
    rcases List.mem_append.1 hd with hd | hd
    · exact Json.zeros_lt_ten zeros d hd
    · exact Json.decimals_lt n d hd
  have hne : List.replicate zeros 0 ++ Json.decimals n ≠ [] := by
    simp [Json.decimals_ne_nil]
  have hdigits := Text.digits_digitChars hne hlt
  rwa [hvalue, Json.digitChars_append, Json.digitChars_replicate, ← Json.toDigits_eq] at hdigits

theorem year?_digits {ds : List Char} {n : Nat} (h : Digits ds n) (hlength : ds.length = 4) (t : List Char) :
    year? (ds ++ t) = some ((n : Int), t) := by
  have hread : number? 4 (ds ++ t) = some (n, t) := h.read_append (.inl hlength)
  obtain ⟨c, s, rfl⟩ := List.exists_cons_of_ne_nil h.ne_nil
  have hsign : ∀ d, digitValue? d = none → c ≠ d := by
    rintro d hd rfl
    have hc := h.digit c List.mem_cons_self
    rw [hd] at hc
    cases hc
  have hminus := hsign '-' (by decide)
  have hplus := hsign '+' (by decide)
  rw [year?, h.trimStart_append]
  rw [List.cons_append] at hread ⊢
  split
  · next heq => exact absurd (List.cons.inj heq).1 hminus
  · next heq => exact absurd (List.cons.inj heq).1 hplus
  · rw [hread, Option.map_some]

theorem year?_signed {ds : List Char} {n : Nat} (h : Digits ds n) {t : List Char}
    (hstop : ∀ c ∈ t.head?, digitValue? c = none) :
    year? ('-' :: (ds ++ t)) = some (-(n : Int), t) ∧ year? ('+' :: (ds ++ t)) = some ((n : Int), t) := by
  have hread : number? (ds ++ t).length (ds ++ t) = some (n, t) :=
    h.read_append (.inr ⟨by simp, hstop⟩)
  have hminus : Text.trimStart ('-' :: (ds ++ t)) = '-' :: (ds ++ t) := rfl
  have hplus : Text.trimStart ('+' :: (ds ++ t)) = '+' :: (ds ++ t) := rfl
  constructor
  · rw [year?, hminus]
    simp only [hread, Option.map_some]
  · rw [year?, hplus]
    simp only [hread, Option.map_some]

/-- Any year is read back before the hyphen that follows it. -/
theorem year?_yearText (year : Int) (t : List Char) :
    year? (yearText year ++ '-' :: t) = some (year, '-' :: t) := by
  have hstop : ∀ c ∈ ('-' :: t).head?, digitValue? c = none := by
    intro c hc
    obtain rfl : '-' = c := Option.some.inj hc
    decide
  unfold yearText
  split
  · next hshort =>
    have hdigits : Digits (padded 4 year.toNat) year.toNat := digits_padded (by omega) (by omega)
    rw [year?_digits hdigits (length_padded 4 _), Int.toNat_of_nonneg hshort.1]
  · next hlong =>
    obtain ⟨hminus, hplus⟩ := year?_signed (digits_longYear year.natAbs) hstop
    by_cases hneg : year < 0
    · have habs : -(year.natAbs : Int) = year := by omega
      rw [habs] at hminus
      simpa [hneg] using hminus
    · have habs : (year.natAbs : Int) = year := by omega
      rw [habs] at hplus
      simpa [hneg] using hplus

/-! ### Fractions of a second -/

theorem fraction?_padded {width n : Nat} (hwidth : width ≠ 0) (hle : width ≤ 9) (h : n < 10 ^ width) :
    fraction? ('.' :: (padded width n ++ ['Z'])) = some (n * 10 ^ (9 - width), ['Z']) := by
  have hdigits := digits_padded hwidth h
  have htaken : (padded width n ++ ['Z']).takeWhile (fun c => (digitValue? c).isSome) = padded width n := by
    rw [List.takeWhile_append_of_pos hdigits.digit]
    have hstop : digitValue? 'Z' = none := by decide
    simp [hstop]
  have hkept : (padded width n).take 9 = padded width n :=
    List.take_of_length_le (by rw [length_padded]; exact hle)
  simp [fraction?, htaken, hkept, hdigits.value, length_padded]

theorem fraction?_fractionText {nano : Nat} (h : nano < 1000000000) :
    fraction? (fractionText nano ++ ['Z']) = some (nano, ['Z']) := by
  unfold fractionText
  split
  · next hzero => simp [fraction?, hzero]
  split
  · next hmilli =>
    have hvalue : nano / 1000000 * 10 ^ (9 - 3) = nano := by omega
    rw [List.cons_append, fraction?_padded (by omega) (by omega) (by omega), hvalue]
  split
  · next hmicro =>
    have hvalue : nano / 1000 * 10 ^ (9 - 6) = nano := by omega
    rw [List.cons_append, fraction?_padded (by omega) (by omega) (by omega), hvalue]
  · rw [List.cons_append, fraction?_padded (by omega) (by omega) h, Nat.sub_self, Nat.pow_zero, Nat.mul_one]

/-! ### Instants -/

/-- A day of the calendar and a time of the clock.  A second is inserted at the end of a minute only. -/
structure Proper (t : Instant) : Prop where
  date : t.date.isValid = true
  hour : t.hour < 24
  minute : t.minute < 60
  second : t.second < 60
  nano : t.nano < 1000000000 ∨ t.second = 59 ∧ t.nano < 2000000000

theorem date?_text {date : Date} (h : date.isValid = true) (t : List Char) :
    date? (yearText date.year ++ '-' :: (padded 2 date.month ++ '-' :: (padded 2 date.day ++ t))) =
      some (date, t) := by
  have hvalid := h
  simp only [Date.isValid, Bool.and_eq_true, decide_eq_true_eq] at hvalid
  have hday : date.day ≤ 31 := by
    have hlength : Date.monthLength date.year date.month ≤ 31 := by
      unfold Date.monthLength
      split <;> split <;> omega
    omega
  have hmonth : ∀ s, field? 12 (padded 2 date.month ++ s) = some (date.month, s) :=
    field?_padded hvalid.1.1.2 (by omega)
  have hday : ∀ s, field? 31 (padded 2 date.day ++ s) = some (date.day, s) := field?_padded hday (by omega)
  have hsign : ∀ s, sign? '-' ('-' :: s) = some s := sign?_cons (by decide)
  simp [date?, year?_yearText, hsign, hmonth, hday, h]

/-- Without an offset the clock stays where it is. -/
theorem setBack_zero {t : Instant} (h : t.Proper) : t.setBack 0 = t := by
  have hhour := h.hour
  have hminute := h.minute
  have hearly : ¬ (60 * (t.hour : Int) + t.minute - 0 < 0) := by omega
  have hlate : ¬ (1440 ≤ 60 * (t.hour : Int) + t.minute - 0) := by omega
  have hhours : (60 * (t.hour : Int) + t.minute - 0).toNat / 60 = t.hour := by omega
  have hminutes : (60 * (t.hour : Int) + t.minute - 0).toNat % 60 = t.minute := by omega
  simp only [setBack, if_neg hearly, if_neg hlate, hhours, hminutes]

theorem text_toList (t : Instant) :
    t.text.toList = yearText t.date.year ++ '-' :: (padded 2 t.date.month ++ '-' :: (padded 2 t.date.day ++
      'T' :: (padded 2 t.hour ++ ':' :: (padded 2 t.minute ++ ':' :: (padded 2 t.writtenSecond ++
        (fractionText (t.nano % 1000000000) ++ ['Z'])))))) := by
  simp [text]

/-- **The text of a proper instant is read as the instant.** -/
theorem ofChars?_text {t : Instant} (h : t.Proper) : ofChars? t.text.toList = some t := by
  have hsecond := h.second
  have hnano := h.nano
  have hwritten : t.writtenSecond ≤ 60 := by
    unfold writtenSecond
    split <;> omega
  have hhours : ∀ s, field? 23 (padded 2 t.hour ++ s) = some (t.hour, s) :=
    field?_padded (Nat.le_of_lt_succ h.hour) (by omega)
  have hminutes : ∀ s, field? 59 (padded 2 t.minute ++ s) = some (t.minute, s) :=
    field?_padded (Nat.le_of_lt_succ h.minute) (by omega)
  have hseconds : ∀ s, field? 60 (padded 2 t.writtenSecond ++ s) = some (t.writtenSecond, s) :=
    field?_padded hwritten (by omega)
  have hcolon : ∀ s, sign? ':' (':' :: s) = some s := sign?_cons (by decide)
  have hfraction := fraction?_fractionText (show t.nano % 1000000000 < 1000000000 by omega)
  have hoffset : offset? (Text.trimStart ['Z']) = some (0, []) := rfl
  -- The 60th second is read as an inserted one, and only an inserted one is written so.
  have hclock : (⟨t.date, t.hour, t.minute, if t.writtenSecond = 60 then 59 else t.writtenSecond,
      if t.writtenSecond = 60 then t.nano % 1000000000 + 1000000000
      else t.nano % 1000000000⟩ : Instant) = t := by
    unfold writtenSecond
    by_cases hinserted : 1000000000 ≤ t.nano
    · have hlast : t.second = 59 := by omega
      have hrest : t.nano % 1000000000 + 1000000000 = t.nano := by omega
      simp only [hinserted, hlast, hrest, if_true]
      rw [← hlast]
    · have hwhole : t.nano % 1000000000 = t.nano := by omega
      have hne : t.second ≠ 60 := by omega
      simp [hinserted, hwhole, hne]
  rw [text_toList]
  simp [ofChars?, date?_text h.date, separator?, hhours, hminutes, hseconds, hcolon, hfraction, hoffset,
    hclock, setBack_zero h, h.date]
  rfl

end Instant

end PersonaDialogue
