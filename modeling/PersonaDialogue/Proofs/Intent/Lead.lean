import PersonaDialogue.Proofs.Intent.Phrase
import PersonaDialogue.Proofs.Text.Fold

/-!
# Operands behind other words

A *lead* is some words before an operand.  Cleaned together with the operand they keep its end: the operand
that is cleaned by itself is the end of the longer text, and between it and the lead there is nothing but
white space and quotes (`cleaned_behind`).  Since a lead ends with white space, the lower-case form of the
operand, too, is found at the end of that of the longer text (`IsLead.fold_isSuffix`).
-/

namespace PersonaDialogue.Intent

variable {front lead s t u : List Char} {drop : Char → Bool}

/-- Words before an operand: they begin with neither white space nor a quote nor a colon, and end with
white space. -/
structure IsLead (u : List Char) : Prop where
  begins : ∃ c, u.head? = some c ∧ Text.isBlank c = false ∧ isQuote c = false ∧ c ≠ ':'
  ends : ∃ c, u.getLast? = some c ∧ Text.isBlank c = true

theorem IsLead.trimStart_append (h : IsLead u) (s : List Char) : Text.trimStart (u ++ s) = u ++ s := by
  obtain ⟨c, hc, hblank, -, -⟩ := h.begins
  exact Text.BeginsIn.trimStart_append ⟨c, List.mem_singleton_self c, hc, hblank⟩ s

theorem isLead_of_lowerAscii (h : IsLead (Text.lowerAscii u)) : IsLead u := by
  obtain ⟨⟨c', hc, hblank, hquote, hcolon⟩, d', hd, hend⟩ := h
  rw [Text.lowerAscii, List.head?_map] at hc
  rw [Text.lowerAscii, List.getLast?_map] at hd
  obtain ⟨c, hfirst, rfl⟩ := Option.map_eq_some_iff.1 hc
  obtain ⟨d, hlast, rfl⟩ := Option.map_eq_some_iff.1 hd
  rw [Text.isBlank_toLower] at hblank hend
  rw [isQuote_toLower] at hquote
  refine ⟨⟨c, hfirst, hblank, hquote, ?_⟩, d, hlast, hend⟩
  rintro rfl
  exact hcolon rfl

/-! ### Cleaning behind a lead -/

/-- The text is another one behind the front, with nothing but white space and quotes between them. -/
def Behind (front s t : List Char) : Prop :=
  ∃ between, (∀ c ∈ between, Text.isBlank c = true ∨ isQuote c = true) ∧ t = front ++ (between ++ s)

theorem Behind.dropWhile (h : Behind front s t) (hfront : ∃ c, front.head? = some c ∧ drop c = false)
    (hdrop : ∀ c, drop c = true → Text.isBlank c = true ∨ isQuote c = true) :
    Behind front (s.dropWhile drop) (t.dropWhile drop) := by
  obtain ⟨between, hbetween, rfl⟩ := h
  obtain ⟨c, hc, hkeep⟩ := hfront
  obtain ⟨front, rfl⟩ := List.head?_eq_some_iff.1 hc
  refine ⟨between ++ s.takeWhile drop, fun d hd => ?_, ?_⟩
  · rcases List.mem_append.1 hd with hd | hd
    · exact hbetween d hd
    · exact hdrop d (List.mem_takeWhile_imp hd)
  · rw [List.cons_append, List.dropWhile_cons_of_neg (by simp [hkeep]), List.append_assoc between,
      List.takeWhile_append_dropWhile, List.cons_append]

theorem Behind.trimEndWhile (h : Behind front s t) (hs : Text.trimEndWhile drop s ≠ []) :
    Behind front (Text.trimEndWhile drop s) (Text.trimEndWhile drop t) := by
  obtain ⟨between, hbetween, rfl⟩ := h
  refine ⟨between, hbetween, ?_⟩
  rw [← List.append_assoc, Text.trimEndWhile_append hs, List.append_assoc]

theorem Behind.trim (h : Behind front s t) (hfront : ∃ c, front.head? = some c ∧ Text.isBlank c = false)
    (hs : Text.trim s ≠ []) : Behind front (Text.trim s) (Text.trim t) :=
  (h.dropWhile hfront fun _ => .inl).trimEndWhile hs

theorem Behind.stripQuotes (h : Behind front s t) (hfront : ∃ c, front.head? = some c ∧ isQuote c = false)
    (hs : stripQuotes s ≠ []) : Behind front (stripQuotes s) (stripQuotes t) :=
  (h.dropWhile hfront fun _ => .inr).trimEndWhile hs

/-- **Cleaning takes from an operand behind a lead no more than it takes from the operand by itself**, but
for the white space and the quotes before it. -/
theorem cleaned_behind
    (hlead : ∃ c, lead.head? = some c ∧ Text.isBlank c = false ∧ isQuote c = false) (hs : cleaned s ≠ []) :
    Behind lead (cleaned s) (cleaned (lead ++ s)) := by
  obtain ⟨c, hc, hblank, hquote⟩ := hlead
  have hquotes : stripQuotes (Text.trim (Text.trimEndWhile isSentenceMark (Text.trim s))) ≠ [] := by
    intro hnil
    exact hs (by rw [cleaned, hnil]; rfl)
  have hinner : Text.trim (Text.trimEndWhile isSentenceMark (Text.trim s)) ≠ [] := by
    intro hnil
    exact hquotes (by rw [hnil]; rfl)
  have hmarks : Text.trimEndWhile isSentenceMark (Text.trim s) ≠ [] := by
    intro hnil
    exact hinner (by rw [hnil]; rfl)
  have houter : Text.trim s ≠ [] := by
    intro hnil
    exact hmarks (by rw [hnil]; rfl)
  have hstart : Behind lead s (lead ++ s) := ⟨[], by simp, rfl⟩
  exact ((((hstart.trim ⟨c, hc, hblank⟩ houter).trimEndWhile hmarks).trim ⟨c, hc, hblank⟩ hinner).stripQuotes
    ⟨c, hc, hquote⟩ hquotes).trim ⟨c, hc, hblank⟩ hs

/-- The lower-case form of an operand is found behind a lead. -/
theorem IsLead.fold_isSuffix (h : IsLead lead) (hs : cleaned s ≠ []) :
    Text.fold (cleaned s) <:+ Text.fold (cleaned (lead ++ s)) := by
  obtain ⟨c, hc, hblank, hquote, -⟩ := h.begins
  obtain ⟨between, hbetween, hcleaned⟩ := cleaned_behind ⟨c, hc, hblank, hquote⟩ hs
  obtain ⟨d, hd, hend⟩ := h.ends
  obtain ⟨v, rfl⟩ := List.getLast?_eq_some_iff.1 hd
  have huncased : ∀ c ∈ between.reverse, Text.isCased c = false := by
    intro c hc
    rcases hbetween c (List.mem_reverse.1 hc) with hblank | hquote
    · exact (Text.neutral_of_isBlank hblank).2
    · rcases (by simpa [isQuote] using hquote : c = '"' ∨ c = '\'') with rfl | rfl <;> decide
  rw [hcleaned, ← List.append_assoc]
  refine Text.fold_isSuffix ?_ (cleaned s)
  rw [List.reverse_append, List.reverse_append]
  exact Text.meetsCased_append_of_uncased huncased (Text.meetsCased_cons_blank hend _)

end PersonaDialogue.Intent
