import PersonaDialogue.Proofs.Intent.Lead
import PersonaDialogue.Proofs.Intent.Named
import PersonaDialogue.Proofs.Intent.Operand

/-!
# What follows the name of a collection

After the name both additions and removals skip white space and a colon, and what is left is the same text for
both (`afterSeparator`).  The removal of a pain point may then skip a lead as well: an `about` or the like.
The operand is all the rest, and a colon that can be skipped always is (`ending_reads`).
-/

namespace PersonaDialogue.Intent

open Pattern

variable {before : Option Char} {s u after rest : List Char} {t : Trace}

/-! ### Leads -/

/-- The words that may introduce the text of a removed pain point. -/
def leadWords : List String := ["about", "containing", "matching"]

theorem isLead_of_reads {w : String} (hw : w ∈ leadWords) (h : (word w ++ gap).Reads before u after t) :
    t = [] ∧ IsLead u := by
  have hbegins : ∀ w ∈ leadWords, Text.BeginsIn ['a', 'c', 'm'] w.toList := by decide
  have hletters : ∀ c ∈ ['a', 'c', 'm'], isQuote c = false ∧ c ≠ ':' := by simp [isQuote]
  obtain ⟨x, g, t₁, t₂, rfl, rfl, hword, hgap⟩ := reads_append_iff.1 h
  obtain ⟨rfl, rfl⟩ := reads_word_iff.1 hword
  obtain ⟨hg, rfl⟩ := reads_gap_iff.1 hgap
  obtain ⟨c, hmem, hc, hblank⟩ := hbegins w hw
  refine ⟨rfl, ⟨c, by rw [List.head?_append, hc]; rfl, hblank, hletters c hmem⟩, g.getLast hg.1, ?_, ?_⟩
  · rw [List.getLast?_append_of_ne_nil _ hg.1, List.getLast?_eq_some_getLast hg.1]
  · exact hg.2 _ (List.getLast_mem hg.1)

/-- What the pattern passes over before an operand is nothing, or words of a lead. -/
structure IsIntroduction (lead : Pattern) : Prop where
  absent : ∀ before after, lead.Reads before [] after []
  words : ∀ ⦃before u after t⦄, lead.Reads before u after t → t = [] ∧ (u = [] ∨ IsLead u)

theorem nothing_isIntroduction : IsIntroduction .nothing := by
  refine ⟨fun _ _ => .nothing, fun before u after t h => ?_⟩
  obtain ⟨rfl, rfl⟩ := reads_nothing_iff.1 h
  exact ⟨rfl, .inl rfl⟩

theorem removalLead_isIntroduction (shelf : Shelf) : IsIntroduction (removalLead shelf) := by
  cases shelf with
  | painPoints =>
    refine ⟨fun _ _ => optional_reads_nil _, fun before u after t h => ?_⟩
    rcases reads_optional_iff.1 h with hwords | ⟨rfl, rfl⟩
    · obtain ⟨p, hp, hread⟩ := (reads_oneOf_iff (by simp)).1 hwords
      obtain ⟨w, hw, rfl⟩ := List.mem_map.1 (show p ∈ leadWords.map fun w => word w ++ gap from hp)
      obtain ⟨ht, hlead⟩ := isLead_of_reads hw hread
      exact ⟨ht, .inr hlead⟩
    · exact ⟨rfl, .inl rfl⟩
  | jobs => exact nothing_isIntroduction
  | behaviors => exact nothing_isIntroduction
  | stages => exact nothing_isIntroduction

/-! ### Separators -/

/-- A text without the white space and the colon that it begins with, and the white space after it.  A colon
with nothing after it stays. -/
def afterSeparator (s : List Char) : List Char :=
  match Text.trimStart s with
  | ':' :: c :: rest => Text.trimStart (c :: rest)
  | other => other

theorem afterSeparator_of_colon (h : Text.trimStart s = ':' :: rest) (hne : rest ≠ []) :
    afterSeparator s = Text.trimStart rest := by
  obtain ⟨c, rest, rfl⟩ := List.exists_cons_of_ne_nil hne
  simp only [afterSeparator, h]

theorem afterSeparator_of_gap (h : ∀ rest, Text.trimStart s = ':' :: rest → rest = []) :
    afterSeparator s = Text.trimStart s := by
  unfold afterSeparator
  split
  · next c rest heq => cases h _ heq
  · rfl

/-- What a lead and the operand after it read. -/
theorem reads_operand {lead : Pattern} (hlead : IsIntroduction lead)
    (h : (lead ++ remainder 1).Reads before s after t) :
    ∃ u r, s = u ++ r ∧ after = [] ∧ lead.Reads before u r [] ∧ r ≠ [] ∧ '\n' ∉ r ∧
      t = [.enter 1 r, .leave 1 []] := by
  obtain ⟨u, r, t₁, t₂, rfl, rfl, hfirst, hrest⟩ := reads_append_iff.1 h
  obtain ⟨⟨hne, hline⟩, rfl, rfl⟩ := Edit.reads_remainder_iff.1 hrest
  obtain ⟨rfl, -⟩ := hlead.words hfirst
  exact ⟨u, r, rfl, rfl, by simpa using hfirst, hne, hline, rfl⟩

/-- White space and a colon is a separator wherever one line follows it. -/
theorem colon_found {lead : Pattern} (hlead : IsIntroduction lead) (h : Text.trimStart s = ':' :: rest)
    (hne : rest ≠ []) (hline : '\n' ∉ rest) (before : Option Char) :
    (((space ++ word ":" ++ space) ++ (lead ++ remainder 1)).goOn (fun _ => some []) ⟨before, s⟩).isSome := by
  have hsplit : s = s.takeWhile Text.isBlank ++ (":".toList ++ ([] ++ ([] ++ rest))) := by
    conv => lhs; rw [← List.takeWhile_append_dropWhile (p := Text.isBlank) (l := s)]
    rw [← Text.trimStart, h]
    rfl
  have hblank : ∀ b after, space.Reads b (s.takeWhile Text.isBlank) after [] := fun b after =>
    reads_many_iff.2 ⟨fun c hc => List.mem_takeWhile_imp hc, rfl⟩
  have hnone : ∀ b after, space.Reads b [] after [] := fun b after => reads_many_iff.2 ⟨by simp, rfl⟩
  obtain ⟨t, hrest⟩ := remainder_reads (some ':') hne hline 1
  have hread : (space ++ (word ":" ++ (space ++ (lead ++ remainder 1)))).Reads before
      (s.takeWhile Text.isBlank ++ (":".toList ++ ([] ++ ([] ++ rest)))) [] _ :=
    .seq (hblank _ _) (.seq (word_reads ":") (.seq (hnone _ _) (.seq (hlead.absent _ _) hrest)))
  rw [← hsplit] at hread
  have hfound := goOn_isSome (k := fun _ => some []) hread rfl
  rwa [List.append_nil] at hfound

theorem IsIntroduction.newline_not_mem {lead : Pattern} (hlead : IsIntroduction lead) {r : List Char}
    (hfirst : lead.Reads before u after t) (hline : '\n' ∉ r)
    (hcolon : Text.trimStart (u ++ r) = ':' :: rest) : '\n' ∉ rest := by
  rcases (hlead.words hfirst).2 with rfl | hwords
  · intro hmem
    have hsuffix : ':' :: rest <:+ r := hcolon ▸ List.dropWhile_suffix Text.isBlank
    exact hline (hsuffix.mem (List.mem_cons_of_mem _ hmem))
  · obtain ⟨c, hc, -, -, hmark⟩ := hwords.begins
    have hhead : (u ++ r).head? = some c := by rw [List.head?_append, hc]; rfl
    rw [← hwords.trimStart_append, hcolon] at hhead
    exact absurd (Option.some.inj hhead).symm hmark

/-- **What an edit of a collection reads after the name, and which part of it is the operand.** -/
theorem ending_reads {lead : Pattern} (hlead : IsIntroduction lead)
    (h : (ending lead).goOn (fun _ => some []) ⟨before, s⟩ = some t) :
    ∃ u r, u ++ r <:+ s ∧ (∃ b, lead.Reads b u r []) ∧ Text.trimStart (u ++ r) = afterSeparator s ∧
      t = [.enter 1 r, .leave 1 []] := by
  rcases goOn_either_append h with hcolon | ⟨hnone, hgap⟩
  · obtain ⟨x, y, t₁, t₂, rfl, hread, hdone, rfl⟩ := goOn_reads hcolon
    obtain rfl : [] = t₂ := Option.some.inj hdone
    simp only [reads_assoc_iff] at hread
    obtain ⟨b, v, _, _, rfl, rfl, hspace, hword⟩ := reads_append_iff.1 hread
    obtain ⟨v, rfl, hafter⟩ := reads_word_append_iff.1 hword
    obtain ⟨b', w, _, _, rfl, rfl, hspace', hend⟩ := reads_append_iff.1 hafter
    obtain ⟨hb, rfl⟩ := reads_many_iff.1 hspace
    obtain ⟨hb', rfl⟩ := reads_many_iff.1 hspace'
    obtain ⟨u, r, rfl, rfl, hfirst, hne, -, rfl⟩ := reads_operand hlead hend
    rw [List.append_nil]
    have hstart : Text.trimStart (b ++ (":".toList ++ (b' ++ (u ++ r)))) = ':' :: (b' ++ (u ++ r)) :=
      Text.trimStart_blank_append hb _
    refine ⟨u, r, ⟨b ++ (":".toList ++ b'), by simp⟩, ⟨_, hfirst⟩, ?_, by simp⟩
    rw [afterSeparator_of_colon hstart (by simp [hne]), Text.trimStart_blank_append hb']
  · obtain ⟨x, y, t₁, t₂, rfl, hread, hdone, rfl⟩ := goOn_reads hgap
    obtain rfl : [] = t₂ := Option.some.inj hdone
    obtain ⟨b, w, _, _, rfl, rfl, hblank, hend⟩ := reads_append_iff.1 hread
    obtain ⟨⟨-, hb⟩, rfl⟩ := reads_gap_iff.1 hblank
    obtain ⟨u, r, rfl, rfl, hfirst, -, hline, rfl⟩ := reads_operand hlead hend
    rw [List.append_nil] at hnone ⊢
    have hstart : Text.trimStart (b ++ (u ++ r)) = Text.trimStart (u ++ r) := Text.trimStart_blank_append hb _
    have hcolon : ∀ rest, Text.trimStart (b ++ (u ++ r)) = ':' :: rest → rest = [] := by
      -- a colon would have been preferred
      intro rest hcolon
      by_contra hne
      have hline := hlead.newline_not_mem hfirst hline (hstart ▸ hcolon)
      simpa [hnone] using colon_found hlead hcolon hne hline before
    exact ⟨u, r, ⟨b, rfl⟩, ⟨_, hfirst⟩, by rw [afterSeparator_of_gap hcolon, hstart], by simp⟩

end PersonaDialogue.Intent
