import Mathlib.Data.List.Chain
import Mathlib.Data.Nat.Digits.Defs
import PersonaDialogue.Proofs.Text.Case
import PersonaDialogue.Text.Digit
import PersonaDialogue.Text.Word

/-!
# Digits and complete numbers

A *complete number* of a text is a run of digits that no further digit precedes or follows (`DigitRun`);
the digits may be those of any script.  Digits belong to words, white space has none, and the case of a
letter does not make it a digit, so the complete numbers of a text are those of the text in lower case
(`DigitRun.exists_written`).  A text of ASCII digits has the value of its decimal notation
(`number?_eq_some_iff`).
-/

namespace PersonaDialogue.Text

/-! ### Sets of code points -/

namespace CodeSet

variable {s s' : CodeSet} {n : Nat}

theorem exists_of_has (h : s.has n = true) : ∃ r ∈ s, r.1 ≤ n ∧ n ≤ r.2 := by
  induction s with
  | nil => cases h
  | cons r s ih =>
    rw [has] at h
    split at h
    · cases h
    · next hfirst =>
      split at h
      · next hlast => exact ⟨r, List.mem_cons_self, by omega, hlast⟩
      · obtain ⟨r', hr', hn⟩ := ih h
        exact ⟨r', List.mem_cons_of_mem r hr', hn⟩

/-- The walk stops too early for no interval, if they are in order. -/
theorem has_of_mem (hsorted : s.Pairwise fun r r' => r.1 ≤ r'.1) {r : Nat × Nat} (hr : r ∈ s)
    (hfirst : r.1 ≤ n) (hlast : n ≤ r.2) : s.has n = true := by
  induction s with
  | nil => cases hr
  | cons r' s ih =>
    obtain ⟨hhead, htail⟩ := List.pairwise_cons.1 hsorted
    have hle : r'.1 ≤ n := by
      rcases List.mem_cons.1 hr with rfl | hmem
      · exact hfirst
      · exact (hhead r hmem).trans hfirst
    rw [has, if_neg (by omega)]
    split
    · rfl
    · next hnot =>
      rcases List.mem_cons.1 hr with rfl | hmem
      · exact absurd hlast hnot
      · exact ih htail hmem

/-- A set whose intervals lie in those of another is a part of it. -/
theorem has_of_covered (hsorted : s'.Pairwise fun r r' => r.1 ≤ r'.1)
    (hcovered : ∀ r ∈ s, ∃ r' ∈ s', r'.1 ≤ r.1 ∧ r.2 ≤ r'.2) (h : s.has n = true) :
    s'.has n = true := by
  obtain ⟨r, hr, hfirst, hlast⟩ := exists_of_has h
  obtain ⟨r', hr', hleft, hright⟩ := hcovered r hr
  exact has_of_mem hsorted hr' (hleft.trans hfirst) (hlast.trans hright)

end CodeSet

/-! ### One digit -/

variable {c : Char}

theorem furtherWords_sorted : furtherWords.Pairwise fun r r' => r.1 ≤ r'.1 := by
  have hchain : (furtherWords.map Prod.fst).IsChain (· ≤ ·) := by decide +kernel
  exact List.pairwise_map.1 (List.isChain_iff_pairwise.1 hchain)

theorem furtherDigits_covered :
    ∀ r ∈ furtherDigits, ∃ r' ∈ furtherWords, r'.1 ≤ r.1 ∧ r.2 ≤ r'.2 := by
  have hall : (furtherDigits.all fun r => furtherWords.any fun r' =>
      Nat.ble r'.1 r.1 && Nat.ble r.2 r'.2) = true := by decide +kernel
  simpa only [List.all_eq_true, List.any_eq_true, Bool.and_eq_true, Nat.ble_eq] using hall

/-- A digit belongs to a word. -/
theorem isWord_of_isDigit (h : isDigit c = true) : isWord c = true := by
  unfold isDigit at h
  unfold isWord
  simp only at h ⊢
  split
  · next hascii =>
    rw [if_pos hascii] at h
    rw [h]
    rfl
  · next hfurther =>
    rw [if_neg hfurther] at h
    exact CodeSet.has_of_covered furtherWords_sorted furtherDigits_covered h

def furtherBlanks : List Nat :=
  [0x85, 0xA0, 0x1680, 0x2000, 0x2001, 0x2002, 0x2003, 0x2004, 0x2005, 0x2006, 0x2007, 0x2008, 0x2009,
    0x200A, 0x2028, 0x2029, 0x202F, 0x205F, 0x3000]

theorem furtherBlanks_apart : ∀ n ∈ furtherBlanks, furtherDigits.has n = false := by decide +kernel

theorem isDigit_of_isBlank (h : isBlank c = true) : isDigit c = false := by
  simp only [isBlank, Bool.or_eq_true, Bool.and_eq_true, decide_eq_true_eq, beq_iff_eq] at h
  unfold isDigit
  simp only
  split
  · simp only [Bool.and_eq_false_iff, decide_eq_false_iff_not]
    omega
  · refine furtherBlanks_apart _ ?_
    simp only [furtherBlanks, List.mem_cons, List.not_mem_nil, or_false]
    omega

theorem isDigit_toLower (c : Char) : isDigit c.toLower = isDigit c := by
  refine apply_toLower (fun c h => ?_) c
  unfold isDigit
  simp only
  rw [if_pos (by omega)]
  simp only [Bool.and_eq_false_iff, decide_eq_false_iff_not]
  omega

/-- A digit is written alike in lower case. -/
theorem toLower_of_isDigit (h : isDigit c = true) : c.toLower = c := by
  rcases toLower_cases c with hc | ⟨hrange, -⟩
  · exact hc
  · unfold isDigit at h
    simp only at h
    rw [if_pos (by omega)] at h
    simp only [Bool.and_eq_true, decide_eq_true_eq] at h
    omega

/-! ### The value of a number -/

/-- The characters `0` to `9`. -/
def IsAscii (s : List Char) : Prop := ∀ c ∈ s, 48 ≤ c.toNat ∧ c.toNat ≤ 57

/-- The number that a text of ASCII digits stands for in decimal notation. -/
def decimalValue (s : List Char) : Nat := Nat.ofDigits 10 (s.reverse.map fun c => c.toNat - 48)

theorem decimalValue_cons (c : Char) (s : List Char) :
    decimalValue (c :: s) = (c.toNat - 48) * 10 ^ s.length + decimalValue s := by
  rw [decimalValue, decimalValue, List.reverse_cons, List.map_append, Nat.ofDigits_append, List.length_map,
    List.length_reverse, List.map_singleton, Nat.ofDigits_singleton, Nat.add_comm, Nat.mul_comm]

theorem numberFrom?_eq_some_iff {soFar n : Nat} {s : List Char} :
    numberFrom? soFar s = some n ↔ IsAscii s ∧ n = soFar * 10 ^ s.length + decimalValue s := by
  induction s generalizing soFar with
  | nil => simp [numberFrom?, IsAscii, decimalValue, eq_comm]
  | cons c s ih =>
    rw [decimalValue_cons, numberFrom?, digitValue?]
    simp only [IsAscii, List.forall_mem_cons] at ih ⊢
    split
    · next hc =>
      have hsum : (soFar * 10 + (c.toNat - 48)) * 10 ^ s.length + decimalValue s =
          soFar * 10 ^ (c :: s).length + ((c.toNat - 48) * 10 ^ s.length + decimalValue s) := by
        rw [List.length_cons, Nat.pow_succ, Nat.add_mul, Nat.add_assoc, Nat.mul_assoc, Nat.mul_comm 10]
      rw [Option.bind_some, ih, hsum]
      simp [hc]
    · next hc => simp [hc]

theorem number?_eq_some_iff {s : List Char} {n : Nat} :
    number? s = some n ↔ s ≠ [] ∧ IsAscii s ∧ n = decimalValue s := by
  cases s with
  | nil => simp [number?]
  | cons c s =>
    rw [number?, List.isEmpty_cons, if_neg Bool.false_ne_true, numberFrom?_eq_some_iff, Nat.zero_mul, Nat.zero_add]
    simp

/-! ### Complete numbers -/

/-- No digit stands there. -/
def NoDigit (o : Option Char) : Prop := ∀ c ∈ o, isDigit c = false

theorem noDigit_of_map {o : Option Char} (h : NoDigit (o.map Char.toLower)) : NoDigit o := by
  rintro c rfl
  rw [← isDigit_toLower]
  exact h _ rfl

/-- A complete number of a text: digits, as far as they go on either side. -/
structure DigitRun (s : List Char) where
  before : List Char
  digits : List Char
  after : List Char
  split : before ++ (digits ++ after) = s
  ne_nil : digits ≠ []
  all_digits : ∀ c ∈ digits, isDigit c = true
  starts : NoDigit before.getLast?
  ends : NoDigit after.head?

namespace DigitRun

variable {s : List Char}

/-- The number ends before the other begins. -/
def Precedes (r r' : DigitRun s) : Prop := r.before.length + r.digits.length < r'.before.length

/-- The number is an age, in one to three ASCII digits. -/
structure IsAge (r : DigitRun s) (n : Nat) : Prop where
  length_le : r.digits.length ≤ 3
  ascii : IsAscii r.digits
  value_eq : decimalValue r.digits = n
  le_maxAge : n ≤ 120

/-- The complete numbers of a text in lower case stand in the text as it was written. -/
theorem exists_written (r : DigitRun (lowerAscii s)) :
    ∃ r' : DigitRun s, r'.digits = r.digits ∧ r'.before.length = r.before.length := by
  obtain ⟨before, digits, after, hsplit, hne, hdigits, hstarts, hends⟩ := r
  obtain ⟨before, rest, rfl, rfl, hrest⟩ := List.map_eq_append_iff.1 hsplit.symm
  obtain ⟨written, after, rfl, rfl, rfl⟩ := List.map_eq_append_iff.1 hrest
  have hall : ∀ c ∈ written, isDigit c = true := by
    intro c hc
    rw [← isDigit_toLower]
    exact hdigits _ (List.mem_map_of_mem hc)
  have hwritten : written.map Char.toLower = written :=
    (List.map_congr_left fun c hc => toLower_of_isDigit (hall c hc)).trans (List.map_id written)
  rw [List.getLast?_map] at hstarts
  rw [List.head?_map] at hends
  refine ⟨⟨before, written, after, rfl, ?_, hall, noDigit_of_map hstarts, noDigit_of_map hends⟩,
    hwritten.symm, ?_⟩
  · exact fun hnil => hne (by rw [hnil, List.map_nil])
  · exact (List.length_map _).symm

end DigitRun

end PersonaDialogue.Text
