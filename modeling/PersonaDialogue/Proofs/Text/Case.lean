import Mathlib.Data.List.TakeWhile
import PersonaDialogue.Intent.Cleaning
import PersonaDialogue.Text.Fold
import PersonaDialogue.Text.Utf8

/-!
# Case and white space do not interfere

Lower case for the letters `A` to `Z` keeps every character where it is: the number of bytes, white
space, sentence marks and quotes stay what they are.  So cutting a text at byte offsets, trimming it and
cleaning it may be done before or after it is lower-cased (`cut_lowerAscii`, `trim_lowerAscii`,
`cleaned_lowerAscii`).  White space around a text goes when the text is trimmed (`trim_padded`).
-/

namespace PersonaDialogue

namespace Text

/-! ### One character -/

/-- Lower case leaves a character as it is, or moves one of the letters `A` to `Z` by 32. -/
theorem toLower_cases (c : Char) :
    c.toLower = c ∨ (65 ≤ c.toNat ∧ c.toNat ≤ 90) ∧ c.toLower.toNat = c.toNat + 32 := by
  unfold Char.toLower
  split
  · next h =>
    obtain ⟨hfirst, hlast⟩ := h
    have hfirst : 65 ≤ c.toNat := UInt32.le_iff_toNat_le.1 hfirst
    have hlast : c.toNat ≤ 90 := UInt32.le_iff_toNat_le.1 hlast
    refine .inr ⟨⟨hfirst, hlast⟩, ?_⟩
    have hsum : (c.val + 32).toNat = (c.toNat + 32) % 2 ^ 32 := UInt32.toNat_add _ _
    exact hsum.trans (Nat.mod_eq_of_lt (by omega))
  · exact .inl rfl

/-- A property that no letter has does not see the case of a letter. -/
theorem apply_toLower {p : Char → Bool}
    (h : ∀ c : Char, 65 ≤ c.toNat ∧ c.toNat ≤ 90 ∨ 97 ≤ c.toNat ∧ c.toNat ≤ 122 → p c = false)
    (c : Char) : p c.toLower = p c := by
  rcases toLower_cases c with hc | ⟨hrange, hc⟩
  · rw [hc]
  · rw [h c (.inl hrange), h c.toLower (.inr (by omega))]

/-- Only a character itself becomes that character, unless it is a letter. -/
theorem eq_of_toLower_eq {c d : Char}
    (hd : ¬ (65 ≤ d.toNat ∧ d.toNat ≤ 90 ∨ 97 ≤ d.toNat ∧ d.toNat ≤ 122)) (h : c.toLower = d) : c = d := by
  rcases toLower_cases c with hc | ⟨hrange, hc⟩
  · rw [← hc, h]
  · rw [h] at hc
    omega

theorem isBlank_toLower (c : Char) : isBlank c.toLower = isBlank c := by
  refine apply_toLower (fun c h => ?_) c
  simp only [isBlank, Bool.or_eq_false_iff, Bool.and_eq_false_iff, decide_eq_false_iff_not, beq_eq_false_iff_ne]
  omega

theorem utf8Size_toLower (c : Char) : c.toLower.utf8Size = c.utf8Size := by
  rcases toLower_cases c with hc | ⟨hrange, hc⟩
  · rw [hc]
  · have hsmall : ∀ d : Char, d.toNat ≤ 127 → d.utf8Size = 1 := fun d hd =>
      Char.utf8Size_eq_one_iff.2 (UInt32.le_iff_toNat_le.2 hd)
    rw [hsmall c (by omega), hsmall c.toLower (by omega)]

/-! ### Cutting -/

theorem dropBytes_lowerAscii (s : List Char) (n : Nat) :
    dropBytes (lowerAscii s) n = (dropBytes s n).map lowerAscii := by
  induction s generalizing n with
  | nil => cases n <;> rfl
  | cons c s ih =>
    cases n with
    | zero => rfl
    | succ n =>
      simp only [lowerAscii, List.map_cons, dropBytes, utf8Size_toLower]
      split
      · exact ih _
      · rfl

theorem takeBytes_lowerAscii (s : List Char) (n : Nat) :
    takeBytes (lowerAscii s) n = (takeBytes s n).map lowerAscii := by
  induction s generalizing n with
  | nil => cases n <;> rfl
  | cons c s ih =>
    cases n with
    | zero => rfl
    | succ n =>
      simp only [lowerAscii, List.map_cons, takeBytes, utf8Size_toLower]
      split
      · have hrest := ih (n + 1 - c.utf8Size)
        rw [lowerAscii] at hrest
        rw [hrest, Option.map_map, Option.map_map]
        rfl
      · rfl

/-- **A text may be cut before or after it is lower-cased.** -/
theorem cut_lowerAscii (s : List Char) (start stop : Nat) :
    cut (lowerAscii s) start stop = (cut s start stop).map lowerAscii := by
  unfold cut
  rw [dropBytes_lowerAscii]
  cases dropBytes s start with
  | none => rfl
  | some rest => exact takeBytes_lowerAscii rest _

/-! ### Trimming -/

section Trimming

variable {drop : Char → Bool}

theorem dropWhile_lowerAscii (h : ∀ c, drop c.toLower = drop c) (s : List Char) :
    (lowerAscii s).dropWhile drop = lowerAscii (s.dropWhile drop) := by
  have hsame : drop ∘ Char.toLower = drop := funext h
  rw [lowerAscii, List.dropWhile_map, hsame, lowerAscii]

theorem trimEndWhile_lowerAscii (h : ∀ c, drop c.toLower = drop c) (s : List Char) :
    trimEndWhile drop (lowerAscii s) = lowerAscii (trimEndWhile drop s) := by
  have hreverse : (lowerAscii s).reverse = lowerAscii s.reverse := List.map_reverse.symm
  rw [trimEndWhile, hreverse, dropWhile_lowerAscii h, lowerAscii, ← List.map_reverse]
  rfl

theorem trimEndWhile_append_all {t : List Char} (h : ∀ c ∈ t, drop c = true) (s : List Char) :
    trimEndWhile drop (s ++ t) = trimEndWhile drop s := by
  have hreverse : ∀ c ∈ t.reverse, drop c = true := fun c hc => h c (List.mem_reverse.1 hc)
  rw [trimEndWhile, List.reverse_append, List.dropWhile_append_of_pos hreverse, trimEndWhile]

end Trimming

theorem trim_lowerAscii (s : List Char) : trim (lowerAscii s) = lowerAscii (trim s) := by
  rw [trim, trimStart, dropWhile_lowerAscii isBlank_toLower, trimEndWhile_lowerAscii isBlank_toLower]
  rfl

theorem trimStart_blank_append {before : List Char} (h : ∀ c ∈ before, isBlank c = true) (s : List Char) :
    trimStart (before ++ s) = trimStart s := List.dropWhile_append_of_pos h

/-- **White space on either side of a text is trimmed off.** -/
theorem trim_padded {before after : List Char} (hbefore : isAllBlank before = true)
    (hafter : isAllBlank after = true) (s : List Char) : trim (before ++ s ++ after) = trim s := by
  have hbefore : ∀ c ∈ before, isBlank c = true := List.all_eq_true.1 hbefore
  have hafter : ∀ c ∈ after, isBlank c = true := List.all_eq_true.1 hafter
  rw [trim, trimStart, List.append_assoc, List.dropWhile_append_of_pos hbefore, List.dropWhile_append]
  split
  · next hempty =>
    have hs : s.dropWhile isBlank = [] := List.isEmpty_iff.1 hempty
    rw [List.dropWhile_eq_nil_iff.2 hafter, trim, trimStart, hs]
  · rw [trimEndWhile_append_all hafter, trim, trimStart]

end Text

/-! ### Cleaning -/

namespace Intent

open Text

theorem isSentenceMark_toLower (c : Char) : isSentenceMark c.toLower = isSentenceMark c := by
  refine apply_toLower (fun c h => ?_) c
  simp only [isSentenceMark, Bool.or_eq_false_iff, beq_eq_false_iff_ne]
  refine ⟨⟨⟨?_, ?_⟩, ?_⟩, ?_⟩ <;> rintro rfl <;> exact absurd h (by decide)

theorem isQuote_toLower (c : Char) : isQuote c.toLower = isQuote c := by
  refine apply_toLower (fun c h => ?_) c
  simp only [isQuote, Bool.or_eq_false_iff, beq_eq_false_iff_ne]
  refine ⟨?_, ?_⟩ <;> rintro rfl <;> exact absurd h (by decide)

/-- **An operand may be cleaned before or after it is lower-cased.** -/
theorem cleaned_lowerAscii (s : List Char) : cleaned (lowerAscii s) = lowerAscii (cleaned s) := by
  simp only [cleaned, stripQuotes, trim_lowerAscii, trimEndWhile_lowerAscii isSentenceMark_toLower,
    dropWhile_lowerAscii isQuote_toLower, trimEndWhile_lowerAscii isQuote_toLower]

end Intent

end PersonaDialogue
