import PersonaDialogue.Intent.Pattern
import PersonaDialogue.Proofs.Pattern.Pieces

/-!
# The first words of a message

A pattern may leave open how much of a gap it reads and whether a word that may be absent is there.
The text itself does not: its first word goes up to the first white space, and what follows the gap
after it begins with another character.  `firstWord`, `afterWord` and `passOver` compute this from the
text alone, and the lemmas say that a pattern of words and gaps reads the text in just this way
(`firstWord_of_reads`, `passOver_of_reads`).  So two patterns that read the same text agree on its words.
-/

namespace PersonaDialogue

namespace Text

/-- The characters up to the first white space. -/
def firstWord (s : List Char) : List Char := s.takeWhile fun c => !isBlank c

/-- What follows the first word and the gap after it. -/
def afterWord (s : List Char) : List Char := (s.dropWhile fun c => !isBlank c).dropWhile isBlank

/-- The text without its first word if that is one of `words`. -/
def passOver (words : List String) (s : List Char) : List Char :=
  if firstWord s ∈ words.map String.toList then afterWord s else s

variable {w g r cs : List Char}

/-- A word holds no white space. -/
def IsSolid (w : List Char) : Prop := ∀ c ∈ w, isBlank c = false

instance (w : List Char) : Decidable (IsSolid w) := List.decidableBAll _ w

/-- The text begins with one of the characters `cs`, and not with white space. -/
def BeginsIn (cs s : List Char) : Prop := ∃ c ∈ cs, s.head? = some c ∧ isBlank c = false

instance (cs s : List Char) : Decidable (BeginsIn cs s) := List.decidableBEx _ cs

theorem BeginsIn.append {cs s : List Char} (h : BeginsIn cs s) (t : List Char) :
    BeginsIn cs (s ++ t) := by
  obtain ⟨c, hc, hhead, hblank⟩ := h
  exact ⟨c, hc, by rw [List.head?_append, hhead, Option.some_or], hblank⟩

theorem BeginsIn.mono {cs ds s : List Char} (h : BeginsIn cs s) (hsub : cs ⊆ ds) : BeginsIn ds s := by
  obtain ⟨c, hc, hstart⟩ := h
  exact ⟨c, hsub hc, hstart⟩

theorem IsGap.exists_cons (hg : IsGap g) : ∃ c g', g = c :: g' ∧ isBlank c = true := by
  obtain ⟨c, g', rfl⟩ := List.exists_cons_of_ne_nil hg.1
  exact ⟨c, g', rfl, hg.2 c List.mem_cons_self⟩

theorem firstWord_append (hw : IsSolid w) (hg : IsGap g) : firstWord (w ++ (g ++ r)) = w := by
  obtain ⟨c, g', rfl, hc⟩ := hg.exists_cons
  have hin : ∀ d ∈ w, (!isBlank d) = true := fun d hd => by rw [hw d hd]; rfl
  unfold firstWord
  rw [List.takeWhile_append_of_pos hin, List.cons_append, List.takeWhile_cons_of_neg (by simp [hc]),
    List.append_nil]

theorem afterWord_append (hw : IsSolid w) (hg : IsGap g) (hr : BeginsIn cs r) :
    afterWord (w ++ (g ++ r)) = r := by
  obtain ⟨c, -, hr, hc⟩ := hr
  obtain ⟨b, g', rfl, hb⟩ := hg.exists_cons
  obtain ⟨r', rfl⟩ := List.head?_eq_some_iff.1 hr
  have hin : ∀ d ∈ w, (!isBlank d) = true := fun d hd => by rw [hw d hd]; rfl
  unfold afterWord
  rw [List.dropWhile_append_of_pos hin, List.cons_append, List.dropWhile_cons_of_neg (by simp [hb]),
    ← List.cons_append, List.dropWhile_append_of_pos hg.2, List.dropWhile_cons_of_neg (by simp [hc])]

theorem BeginsIn.firstWord (hr : BeginsIn cs r) : BeginsIn cs (firstWord r) := by
  obtain ⟨c, hmem, hr, hc⟩ := hr
  obtain ⟨r', rfl⟩ := List.head?_eq_some_iff.1 hr
  exact ⟨c, hmem, by simp [Text.firstWord, hc], hc⟩

variable {words : List String}

theorem passOver_word {word : String} (hword : word ∈ words) (hsolid : IsSolid word.toList)
    (hg : IsGap g) (hr : BeginsIn cs r) : passOver words (word.toList ++ (g ++ r)) = r := by
  unfold passOver
  rw [firstWord_append hsolid hg, if_pos (List.mem_map_of_mem hword), afterWord_append hsolid hg hr]

theorem passOver_other (hr : BeginsIn cs r) (hother : ∀ word ∈ words, ¬ BeginsIn cs word.toList) :
    passOver words r = r := by
  refine if_neg fun hmem => ?_
  obtain ⟨word, hword, heq⟩ := List.mem_map.1 hmem
  exact hother word hword (heq ▸ hr.firstWord)

end Text

namespace Pattern

open Place (past)
open Text (firstWord afterWord passOver IsSolid BeginsIn)

variable {p q r : Pattern} {before : Option Char} {u after : List Char} {t : Trace}
  {words : List String} {cs : List Char}

/-- Brackets in a sequence do not matter. -/
theorem reads_assoc_iff :
    (p ++ q ++ r).Reads before u after t ↔ (p ++ (q ++ r)).Reads before u after t := by
  constructor
  · intro h
    obtain ⟨v, w, t₁, t₂, rfl, rfl, hpq, hr⟩ := reads_append_iff.1 h
    obtain ⟨v₁, v₂, t₃, t₄, rfl, rfl, hp, hq⟩ := reads_append_iff.1 hpq
    rw [List.append_assoc, List.append_assoc]
    refine .seq (by rwa [List.append_assoc]) (.seq hq ?_)
    rwa [← Place.past_append]
  · intro h
    obtain ⟨v, w, t₁, t₂, rfl, rfl, hp, hqr⟩ := reads_append_iff.1 h
    obtain ⟨v₁, v₂, t₃, t₄, rfl, rfl, hq, hr⟩ := reads_append_iff.1 hqr
    rw [← List.append_assoc, ← List.append_assoc]
    refine .seq (.seq (by rwa [List.append_assoc] at hp) hq) ?_
    rwa [Place.past_append]

/-- Whatever the pattern reads begins with one of the characters `cs`. -/
def Begins (p : Pattern) (cs : List Char) : Prop :=
  ∀ ⦃before u after t⦄, p.Reads before u after t → BeginsIn cs u

/-- Whatever the pattern reads is one of `words`. -/
def Speaks (p : Pattern) (words : List String) : Prop :=
  ∀ ⦃before u after t⦄, p.Reads before u after t → ∃ word ∈ words, u = word.toList

theorem Speaks.begins (hp : p.Speaks words) (cs : List Char)
    (hwords : ∀ word ∈ words, BeginsIn cs word.toList) : (p ++ q).Begins cs := by
  intro before u after t h
  obtain ⟨v, w, t₁, t₂, rfl, -, hread, -⟩ := reads_append_iff.1 h
  obtain ⟨word, hword, rfl⟩ := hp hread
  exact (hwords word hword).append w

theorem Begins.append (hp : p.Begins cs) : (p ++ q).Begins cs := by
  intro before u after t h
  obtain ⟨v, w, t₁, t₂, rfl, -, hread, -⟩ := reads_append_iff.1 h
  exact (hp hread).append w

theorem Begins.optional {ds : List Char} (hp : p.Begins cs) (hq : q.Begins ds) :
    (optional p ++ q).Begins (cs ++ ds) := by
  intro before u after t h
  obtain ⟨v, w, t₁, t₂, rfl, -, hopt, hread⟩ := reads_append_iff.1 h
  rcases reads_optional_iff.1 hopt with hv | ⟨rfl, -⟩
  · exact ((hp hv).append w).mono (List.subset_append_left cs ds)
  · exact (hq hread).mono (List.subset_append_right cs ds)

/-- A word and a gap: the word is the first word of the text, and the rest follows it. -/
theorem firstWord_of_reads (hp : p.Speaks words) (hsolid : ∀ word ∈ words, IsSolid word.toList)
    (h : (p ++ (gap ++ q)).Reads before u after t) :
    ∃ word ∈ words, firstWord (u ++ after) = word.toList ∧ ∃ g v before' t', Text.IsGap g ∧
      u = word.toList ++ (g ++ v) ∧ q.Reads before' v after t' := by
  obtain ⟨v, w, t₁, t₂, rfl, -, hword, hrest⟩ := reads_append_iff.1 h
  obtain ⟨g, x, t₃, t₄, rfl, -, hgap, hq⟩ := reads_append_iff.1 hrest
  obtain ⟨word, hmem, rfl⟩ := hp hword
  have hg := (reads_gap_iff.1 hgap).1
  refine ⟨word, hmem, ?_, g, x, _, t₄, hg, rfl, hq⟩
  rw [List.append_assoc, List.append_assoc]
  exact Text.firstWord_append (hsolid word hmem) hg

/-- A word that may be absent: passing over it leaves what the rest of the pattern reads. -/
theorem passOver_of_reads (hp : p.Speaks words) (hq : q.Begins cs)
    (hsolid : ∀ word ∈ words, IsSolid word.toList)
    (hother : ∀ word ∈ words, ¬ BeginsIn cs word.toList)
    (h : (optional (p ++ gap) ++ q).Reads before u after t) :
    ∃ v before' t', q.Reads before' v after t' ∧ passOver words (u ++ after) = v ++ after := by
  obtain ⟨w, v, t₁, t₂, rfl, -, hopt, hread⟩ := reads_append_iff.1 h
  have hrest := (hq hread).append after
  refine ⟨v, _, t₂, hread, ?_⟩
  rcases reads_optional_iff.1 hopt with hpg | ⟨rfl, -⟩
  · obtain ⟨x, g, t₃, t₄, rfl, -, hword, hgap⟩ := reads_append_iff.1 hpg
    obtain ⟨word, hmem, rfl⟩ := hp hword
    rw [List.append_assoc, List.append_assoc]
    exact Text.passOver_word hmem (hsolid word hmem) (reads_gap_iff.1 hgap).1 hrest
  · exact Text.passOver_other hrest hother

end Pattern

end PersonaDialogue
