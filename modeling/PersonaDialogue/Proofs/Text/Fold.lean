import Mathlib.Data.List.Infix
import Mathlib.Data.List.TakeWhile
import PersonaDialogue.Proofs.Text.Digit
import PersonaDialogue.Text.Fold

/-!
# Lower case of a text and of its blocks

The lower-case form of a text is put together from those of its characters, and only the capital sigma
looks at its neighbours.  So a block of a text has the lower-case form in it that it has by itself, if each
capital sigma of the block finds within the block what it looks for (`foldWithin_settled`): a letter that
goes on with its word, or else a character that counts on either side.  At the end of a text it is enough
that no letter is met before the block (`fold_isSuffix`).  A text that does not hold the lower-case form of
another is free of every such block with that lower-case form (`freeOf_of_occursIn`).
-/

namespace PersonaDialogue.Text

variable {before after s u v x y needle text : List Char} {c : Char}

/-- A search for a text finds its blocks. -/
theorem occursIn_iff : occursIn needle s = true ↔ needle <:+: s := by
  induction s with
  | nil => rw [occursIn, List.isEmpty_iff, List.infix_nil]
  | cons c s ih => rw [occursIn, Bool.or_eq_true, ih, List.isPrefixOf_iff_prefix, List.infix_cons_iff]

/-! ### Neighbours of a sigma -/

/-- Some character of the text counts when a word is looked for. -/
def counts (s : List Char) : Bool := s.any fun c => !isCaseIgnorable c

theorem counts_iff : counts s = true ↔ s.dropWhile isCaseIgnorable ≠ [] := by
  rw [ne_eq, List.dropWhile_eq_nil_iff, counts, List.any_eq_true]
  simp

theorem counts_of_meetsCased (h : meetsCased s = true) : counts s = true := by
  refine counts_iff.2 fun hnil => ?_
  rw [meetsCased, hnil] at h
  cases h

/-- What comes after the first character that counts does not matter. -/
theorem meetsCased_append (h : counts s = true) (y : List Char) :
    meetsCased (s ++ y) = meetsCased s := by
  obtain ⟨c, rest, hrest⟩ := List.exists_cons_of_ne_nil (counts_iff.1 h)
  have happend : (s ++ y).dropWhile isCaseIgnorable = c :: (rest ++ y) := by
    rw [List.dropWhile_append, hrest]
    rfl
  rw [meetsCased, meetsCased, hrest, happend]

/-- A capital sigma between the two texts has the same form whatever surrounds them. -/
def decided (before after : List Char) : Bool := meetsCased after || counts before && counts after

theorem endsWord_append (h : decided before after = true) (x y : List Char) :
    endsWord (before ++ x) (after ++ y) = endsWord before after := by
  rcases Bool.or_eq_true_iff.1 h with hcased | hcounts
  · have hcased' := meetsCased_append (counts_of_meetsCased hcased) y
    rw [endsWord, endsWord, hcased', hcased, Bool.not_true, Bool.and_false, Bool.and_false]
  · obtain ⟨hbefore, hafter⟩ := Bool.and_eq_true_iff.1 hcounts
    rw [endsWord, endsWord, meetsCased_append hbefore, meetsCased_append hafter]

/-! ### Blocks -/

/-- The lower-case form of a block between a text, reversed, and another one. -/
def foldWithin (before : List Char) : List Char → List Char → List Char
  | [], _ => []
  | c :: s, after => lowerWithin before c (s ++ after) ++ foldWithin (c :: before) s after

theorem foldAfter_append (before u v : List Char) :
    foldAfter before (u ++ v) = foldWithin before u v ++ foldAfter (u.reverse ++ before) v := by
  induction u generalizing before with
  | nil => rfl
  | cons c u ih =>
    rw [List.cons_append, foldAfter, ih, foldWithin, List.append_assoc, List.reverse_cons,
      List.append_assoc, List.singleton_append]

theorem fold_eq (s : List Char) : fold s = foldWithin [] s [] := by
  have happend := foldAfter_append [] s []
  rw [List.append_nil, foldAfter, List.append_nil] at happend
  exact happend

/-- The lower-case form of a block is a block of that of the text. -/
theorem foldWithin_isInfix (x u y : List Char) : foldWithin x.reverse u y <:+: fold (x ++ u ++ y) := by
  rw [fold, List.append_assoc, foldAfter_append, foldAfter_append, List.append_nil]
  exact ⟨_, _, List.append_assoc _ _ _⟩

/-- All capital sigmas of a text, of which `before` precedes it, reversed, find within it what decides
their form. -/
def settledAfter (before : List Char) : List Char → Bool
  | [] => true
  | c :: s => (c != 'Σ' || decided before s) && settledAfter (c :: before) s

/-- All capital sigmas of a text find within it what decides their form. -/
def settled (s : List Char) : Bool := settledAfter [] s

theorem foldWithin_append (h : settledAfter before u = true) (x y : List Char) :
    foldWithin (before ++ x) u y = foldWithin before u [] := by
  induction u generalizing before with
  | nil => rfl
  | cons c u ih =>
    obtain ⟨hsigma, hrest⟩ := Bool.and_eq_true_iff.1 h
    have hlower : lowerWithin (before ++ x) c (u ++ y) = lowerWithin before c (u ++ []) := by
      unfold lowerWithin
      by_cases hc : c = 'Σ'
      · subst hc
        rw [if_pos rfl, if_pos rfl, List.append_nil, endsWord_append (by simpa using hsigma)]
      · rw [if_neg hc, if_neg hc]
    rw [foldWithin, foldWithin, hlower]
    exact congrArg _ (ih hrest)

/-- **A block whose sigmas are settled has the lower-case form that it has by itself.** -/
theorem foldWithin_settled (h : settled u = true) (before after : List Char) :
    foldWithin before u after = fold u := by
  rw [fold_eq]
  exact foldWithin_append h before after

/-! ### Behind white space -/

/-- White space is passed over by no search for a neighbour, and is no letter. -/
theorem furtherBlanks_neutral :
    ∀ n ∈ furtherBlanks, furtherIgnorable.has n = false ∧ furtherCased.has n = false := by
  decide +kernel

theorem neutral_of_isBlank (h : isBlank c = true) : isCaseIgnorable c = false ∧ isCased c = false := by
  simp only [isBlank, Bool.or_eq_true, Bool.and_eq_true, decide_eq_true_eq, beq_iff_eq] at h
  unfold isCaseIgnorable isCased
  simp only
  split
  · simp only [Bool.or_eq_false_iff, Bool.and_eq_false_iff, beq_eq_false_iff_ne, decide_eq_false_iff_not]
    omega
  · refine furtherBlanks_neutral _ ?_
    simp only [furtherBlanks, List.mem_cons, List.not_mem_nil, or_false]
    omega

theorem meetsCased_cons_blank (h : isBlank c = true) (s : List Char) : meetsCased (c :: s) = false := by
  obtain ⟨hignorable, hcased⟩ := neutral_of_isBlank h
  rw [meetsCased, List.dropWhile_cons_of_neg (by simp [hignorable])]
  exact hcased

/-- Where no letter is met, none is met from further on if no letter stands between. -/
theorem meetsCased_append_of_uncased (hu : ∀ c ∈ u, isCased c = false) (hx : meetsCased x = false) :
    meetsCased (u ++ x) = false := by
  induction u with
  | nil => exact hx
  | cons c u ih =>
    obtain ⟨hc, hu⟩ := List.forall_mem_cons.1 hu
    by_cases hignorable : isCaseIgnorable c = true
    · rw [List.cons_append, meetsCased, List.dropWhile_cons_of_pos hignorable]
      exact ih hu
    · rw [List.cons_append, meetsCased, List.dropWhile_cons_of_neg hignorable]
      exact hc

/-- What meets no letter might as well not be there. -/
theorem meetsCased_append_of_not (h : meetsCased x = false) (u : List Char) :
    meetsCased (u ++ x) = meetsCased u := by
  by_cases hcounts : counts u = true
  · exact meetsCased_append hcounts x
  · have hall : u.dropWhile isCaseIgnorable = [] := by simpa [counts_iff] using hcounts
    have hnone : meetsCased u = false := by rw [meetsCased, hall]
    rw [hnone, ← h, meetsCased, meetsCased, List.dropWhile_append, hall]
    rfl

theorem foldAfter_append_of_not (h : meetsCased x = false) (before s : List Char) :
    foldAfter (before ++ x) s = foldAfter before s := by
  induction s generalizing before with
  | nil => rfl
  | cons c s ih =>
    have hrest := ih (c :: before)
    rw [List.cons_append] at hrest
    rw [foldAfter, foldAfter, hrest, lowerWithin, lowerWithin, endsWord, endsWord,
      meetsCased_append_of_not h]

/-- **A text has its own lower-case form at the end of a longer one**, if no letter is met before it. -/
theorem fold_isSuffix (h : meetsCased u.reverse = false) (s : List Char) : fold s <:+ fold (u ++ s) := by
  have hown := foldAfter_append_of_not h [] s
  rw [fold, fold, foldAfter_append, List.append_nil, ← hown]
  exact List.suffix_append _ _

/-! ### Character by character -/

/-- The lower-case forms of the characters, each for itself. -/
def lowerEach (s : List Char) : List Char := s.flatMap lowerChar

/-- No capital sigma ends a word: a letter follows each of them. -/
def goesOn : List Char → Bool
  | [] => true
  | c :: s => (c != 'Σ' || meetsCased s) && goesOn s

theorem settledAfter_of_goesOn (h : goesOn u = true) (before : List Char) :
    settledAfter before u = true := by
  induction u generalizing before with
  | nil => rfl
  | cons c u ih =>
    obtain ⟨hsigma, hrest⟩ := Bool.and_eq_true_iff.1 h
    refine Bool.and_eq_true_iff.2 ⟨?_, ih hrest _⟩
    rcases Bool.or_eq_true_iff.1 hsigma with hc | hcased
    · exact Bool.or_eq_true_iff.2 (.inl hc)
    · exact Bool.or_eq_true_iff.2 (.inr (Bool.or_eq_true_iff.2 (.inl hcased)))

theorem lowerChar_sigma : lowerChar 'Σ' = ['σ'] := by decide +kernel

theorem foldAfter_of_goesOn (h : goesOn u = true) (before : List Char) :
    foldAfter before u = lowerEach u := by
  induction u generalizing before with
  | nil => rfl
  | cons c u ih =>
    obtain ⟨hsigma, hrest⟩ := Bool.and_eq_true_iff.1 h
    have hlower : lowerWithin before c u = lowerChar c := by
      unfold lowerWithin
      by_cases hc : c = 'Σ'
      · subst hc
        have hcased : meetsCased u = true := by simpa using hsigma
        rw [if_pos rfl, endsWord, hcased, Bool.not_true, Bool.and_false, lowerChar_sigma]
        rfl
      · rw [if_neg hc]
    rw [foldAfter, hlower, ih hrest, lowerEach, lowerEach, List.flatMap_cons]

/-! ### Free of a text -/

/-- No block of the text is the other text, apart from the case of letters. -/
structure FreeOf (needle text : List Char) : Prop where
  verbatim : settled needle = true → ¬ needle <:+: text
  /-- No block has the same lower-case form. -/
  sameCase : ∀ block, block <:+: text → settled block = true → fold block ≠ fold needle
  /-- No block has the same letters, each taken for itself. -/
  sameLetters : ∀ block, block <:+: text → goesOn block = true → goesOn needle = true →
    lowerEach block ≠ lowerEach needle

/-- **A text that does not hold the lower-case form of another is free of it.** -/
theorem freeOf_of_occursIn (h : occursIn (fold needle) (fold text) = false) : FreeOf needle text := by
  have hcase : ∀ block, block <:+: text → settled block = true → fold block ≠ fold needle := by
    rintro block ⟨x, y, rfl⟩ hsettled heq
    have hinfix := foldWithin_isInfix x block y
    rw [foldWithin_settled hsettled, heq] at hinfix
    rw [occursIn_iff.2 hinfix] at h
    cases h
  refine ⟨fun hsettled hblock => hcase needle hblock hsettled rfl, hcase, fun block hblock hgoes hgoes' heq => ?_⟩
  refine hcase block hblock (settledAfter_of_goesOn hgoes []) ?_
  rw [fold, fold, foldAfter_of_goesOn hgoes, foldAfter_of_goesOn hgoes', heq]

end PersonaDialogue.Text
