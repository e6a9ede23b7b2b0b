import Mathlib.Data.List.DropRight
import PersonaDialogue.Proofs.Intent.Operand
import PersonaDialogue.Proofs.Text.Layers

/-!
# How far operands are cleaned

A text is *stripped* if neither white space nor a quote stands at either end and no sentence mark at its end.
Cleaning leaves exactly the stripped texts as they are (`cleaned_eq_self_iff`), but what it leaves of a text
need not be stripped, because each of its passes runs once.  It is stripped if and only if the text is a
stripped one in one *wrapping*: before it white space, quotes and white space, behind it white space, quotes,
white space, sentence marks and white space, any of which may be missing (`isStripped_cleaned_iff`).
White space is trimmed off in any case.
-/

namespace PersonaDialogue

namespace Text

theorem trim_trim (s : List Char) : trim (trim s) = trim s := by
  have hend : trimEndWhile isBlank (trimEndWhile isBlank s) = trimEndWhile isBlank s := by
    rw [trimEndWhile, trimEndWhile, List.reverse_reverse, List.dropWhile_idempotent]
  simp only [trim, trimStart, trimEndWhile_dropWhile, List.dropWhile_idempotent, hend]

end Text

namespace Intent

open Text (isBlank peel Layers trimEndWhile trimEndWhile_dropWhile)

/-- Neither white space nor quotes stand at the ends, nor a sentence mark at the end. -/
structure IsStripped (s : List Char) : Prop where
  begins : ∀ c ∈ s.head?, isBlank c = false ∧ isQuote c = false
  ends : ∀ c ∈ s.getLast?, isBlank c = false ∧ isQuote c = false ∧ isSentenceMark c = false

-- by `Option.all`, so that no instance has to go through all characters
instance (s : List Char) : Decidable (IsStripped s) :=
  decidable_of_iff (s.head?.all (fun c => !isBlank c && !isQuote c) = true ∧
      s.getLast?.all (fun c => !isBlank c && (!isQuote c && !isSentenceMark c)) = true) <| by
    simp only [Option.all_eq_true, Bool.and_eq_true, Bool.not_eq_true']
    exact ⟨fun ⟨begins, ends⟩ => ⟨begins, ends⟩, fun ⟨begins, ends⟩ => ⟨begins, ends⟩⟩

def wrappingBefore : List (Char → Bool) := [isBlank, isQuote, isBlank]

/-- What a wrapping has behind a text, from the outside to the inside. -/
def wrappingBehind : List (Char → Bool) := [isBlank, isSentenceMark, isBlank, isQuote, isBlank]

/-- The text `s` is the text `body` in one wrapping. -/
def IsWrapped (s body : List Char) : Prop :=
  ∃ before behind, s = before ++ (body ++ behind) ∧ Layers wrappingBefore before ∧
    Layers wrappingBehind behind.reverse

variable {s body : List Char}

theorem begins_iff : (∀ kind ∈ wrappingBefore, ∀ c ∈ s.head?, kind c = false) ↔
    ∀ c ∈ s.head?, isBlank c = false ∧ isQuote c = false := by
  simp only [wrappingBefore, List.forall_mem_cons, List.not_mem_nil, false_implies, implies_true, and_true]
  refine ⟨fun ⟨hblank, hquote, _⟩ c hc => ⟨hblank c hc, hquote c hc⟩, fun h => ?_⟩
  exact ⟨fun c hc => (h c hc).1, fun c hc => (h c hc).2, fun c hc => (h c hc).1⟩

theorem ends_iff : (∀ kind ∈ wrappingBehind, ∀ c ∈ s.getLast?, kind c = false) ↔
    ∀ c ∈ s.getLast?, isBlank c = false ∧ isQuote c = false ∧ isSentenceMark c = false := by
  simp only [wrappingBehind, List.forall_mem_cons, List.not_mem_nil, false_implies, implies_true, and_true]
  refine ⟨fun ⟨hblank, hmark, _, hquote, _⟩ c hc => ⟨hblank c hc, hquote c hc, hmark c hc⟩, fun h => ?_⟩
  exact ⟨fun c hc => (h c hc).1, fun c hc => (h c hc).2.2, fun c hc => (h c hc).1, fun c hc => (h c hc).2.1,
    fun c hc => (h c hc).1⟩

/-! ### Cleaning peels both ends -/

/-- What is left when the end of a text has been peeled. -/
def endPeeled (s : List Char) : List Char := (peel wrappingBehind s.reverse).reverse

/-- **To clean a text is to peel its end and then its start.** -/
theorem cleaned_eq_peel (s : List Char) : cleaned s = peel wrappingBefore (endPeeled s) := by
  have hend : endPeeled s = trimEndWhile isBlank (trimEndWhile isQuote (trimEndWhile isBlank
      (trimEndWhile isSentenceMark (trimEndWhile isBlank s)))) := by
    simp only [trimEndWhile, List.reverse_reverse]
    rfl
  simp only [cleaned, stripQuotes, Text.trim, Text.trimStart, trimEndWhile_dropWhile, ← hend,
    List.dropWhile_idempotent]
  rfl

theorem endPeeled_isPrefix (s : List Char) : endPeeled s <+: s := by
  have hsuffix := Text.peel_isSuffix wrappingBehind s.reverse
  rw [← List.reverse_prefix, List.reverse_reverse] at hsuffix
  exact hsuffix

/-- Whatever is cleaned is what is left of it in one wrapping. -/
theorem isWrapped_cleaned (s : List Char) : IsWrapped s (cleaned s) := by
  obtain ⟨behind, hbehind, hs⟩ := Text.exists_layers wrappingBehind s.reverse
  obtain ⟨before, hbefore, hpeeled⟩ := Text.exists_layers wrappingBefore (endPeeled s)
  refine ⟨before, behind.reverse, ?_, hbefore, by rwa [List.reverse_reverse]⟩
  calc s
    _ = (behind ++ peel wrappingBehind s.reverse).reverse := by rw [← hs, List.reverse_reverse]
    _ = endPeeled s ++ behind.reverse := List.reverse_append
    _ = before ++ cleaned s ++ behind.reverse := by rw [cleaned_eq_peel, ← hpeeled]
    _ = before ++ (cleaned s ++ behind.reverse) := List.append_assoc _ _ _

/-- **A stripped text is all that cleaning leaves of it in a wrapping.** -/
theorem IsWrapped.cleaned_eq (h : IsWrapped s body) (hbody : IsStripped body) : cleaned s = body := by
  obtain ⟨before, behind, rfl, hbefore, hbehind⟩ := h
  have hreverse : (before ++ (body ++ behind)).reverse = behind.reverse ++ (body.reverse ++ before.reverse) := by
    simp
  rw [cleaned_eq_peel]
  by_cases hnil : body = []
  · -- Nothing keeps the passes over the end from going on into what stands before the text.
    subst hnil
    have hsuffix : peel wrappingBehind (before ++ ([] ++ behind)).reverse <:+ before.reverse :=
      hbehind.peel_isSuffix (by rw [hreverse]; exact List.suffix_refl _)
    have hprefix : endPeeled (before ++ ([] ++ behind)) <+: before := by
      rw [← List.reverse_prefix, List.reverse_reverse] at hsuffix
      exact hsuffix
    have hpeeled := Text.peel_isPrefix wrappingBefore hprefix
    rw [hbefore.peel_eq_nil] at hpeeled
    exact List.prefix_nil.1 hpeeled
  · have hlast : ∀ kind ∈ wrappingBehind, ∀ c ∈ (body.reverse ++ before.reverse).head?, kind c = false := by
      rw [List.head?_append_of_ne_nil _ (by simpa using hnil), List.head?_reverse]
      exact ends_iff.2 hbody.ends
    have hpeeled : endPeeled (before ++ (body ++ behind)) = before ++ body := by
      rw [endPeeled, hreverse, hbehind.peel_append hlast, List.reverse_append, List.reverse_reverse,
        List.reverse_reverse]
    rw [hpeeled, hbefore.peel_append (begins_iff.2 hbody.begins)]

theorem isWrapped_self (s : List Char) : IsWrapped s s :=
  ⟨[], [], by simp, Text.layers_empty _, Text.layers_empty _⟩

/-- **Stripped texts are those that cleaning leaves as they are.** -/
theorem cleaned_eq_self_iff : cleaned s = s ↔ IsStripped s := by
  refine ⟨fun h => ?_, (isWrapped_self s).cleaned_eq⟩
  have hend : endPeeled s = s := by
    refine (endPeeled_isPrefix s).eq_of_length_le ?_
    calc s.length
      _ = (peel wrappingBefore (endPeeled s)).length := by rw [← cleaned_eq_peel, h]
      _ ≤ (endPeeled s).length := (Text.peel_isSuffix _ _).length_le
  have hstart : peel wrappingBefore s = s := by rwa [cleaned_eq_peel, hend] at h
  have hreverse : peel wrappingBehind s.reverse = s.reverse := by
    rw [← List.reverse_inj, List.reverse_reverse]
    exact hend
  refine ⟨begins_iff.1 (Text.peel_eq_self_iff.1 hstart), ends_iff.1 ?_⟩
  rw [← List.head?_reverse]
  exact Text.peel_eq_self_iff.1 hreverse

/-- **What cleaning leaves is stripped exactly if there was one wrapping.** -/
theorem isStripped_cleaned_iff : IsStripped (cleaned s) ↔ ∃ body, IsWrapped s body ∧ IsStripped body := by
  refine ⟨fun h => ⟨_, isWrapped_cleaned s, h⟩, ?_⟩
  rintro ⟨body, hwrapped, hbody⟩
  rwa [hwrapped.cleaned_eq hbody]

/-! ### What is left of an operand -/

/-- The text `text` is what one cleaning leaves of `s`. -/
structure Cleans (s text : List Char) : Prop where
  /-- There is no white space at its ends. -/
  trimmed : Text.trim text = text
  /-- To clean it again changes nothing exactly if it is stripped. -/
  again : cleaned text = text ↔ IsStripped text
  /-- It is stripped exactly if there was a stripped text in one wrapping. -/
  stripped : IsStripped text ↔ ∃ body, IsWrapped s body ∧ IsStripped body
  /-- And then it is this text. -/
  unwrapped : ∀ body, IsWrapped s body → IsStripped body → text = body

theorem cleans_cleaned (s : List Char) : Cleans s (cleaned s) where
  trimmed := Text.trim_trim _
  again := cleaned_eq_self_iff
  stripped := isStripped_cleaned_iff
  unwrapped _ hwrapped hbody := hwrapped.cleaned_eq hbody

/-- **One wrapping is taken off an operand.**  This holds of cleaning any text, and so of the text of every
command that an edit makes, with the part of the message that was marked as its operand. -/
theorem one_wrapping_stripped (s : List Char) :
    Cleans s (cleaned s) ∧
    ∀ (window : UInt32) (message : String) (e : Edit) (m : Match) (c : Command),
      m.IsOf e.rule window message → e.rule.build m = some c →
      ∃ start stop block text, m.trace.span? e.operandGroup m.searched = some (start, stop) ∧
        Text.IsCut m.message start stop block ∧ c.operand = some (.text text) ∧ Cleans block text.toList := by
  refine ⟨cleans_cleaned s, fun window message e m c hm hbuild => ?_⟩
  obtain ⟨start, stop, block, hspan, hcut, -, hoperand⟩ := (Edit.takesOperand hm).operand
  refine ⟨start, stop, block, _, hspan, hcut, hoperand c hbuild, ?_⟩
  rw [String.toList_ofList]
  exact cleans_cleaned block

/-- A quoted operand with white space on both sides of the quotes and two marks at the end. -/
theorem one_wrapping_stripped_quoted :
    let message := "Please add pain point: \" It's \u00A0slow\"\u2003 !?"
    ∃ (m : Match) (c : Command), m.IsOf (Edit.add .painPoints).rule 5 message ∧
      (Edit.add .painPoints).rule.build m = some c ∧ c.operand = some (.text "It's \u00A0slow") ∧
      IsStripped "It's \u00A0slow".toList ∧
      ∃ start stop block text, m.trace.span? (Edit.add .painPoints).operandGroup m.searched =
          some (start, stop) ∧
        Text.IsCut m.message start stop block ∧ c.operand = some (.text text) ∧
        Cleans block text.toList := by
  intro message
  let c : Command := ⟨.add, .painPoint, none, some (.text "It's \u00A0slow"), explicit, message⟩
  have h : classify 5 message = some ⟨"pain_point_add", some c⟩ := by decide +kernel
  obtain ⟨m, hm, hbuild⟩ := classify_match (Edit.rule_mem (.add .painPoints)) h
  exact ⟨m, c, hm, hbuild, rfl, by decide, (one_wrapping_stripped message.toList).2 5 message _ m c hm hbuild⟩

/-- **Cleaning does not finish its work**: sentence marks inside of the quotes are left, and so are those
before white space and other sentence marks. -/
theorem sentence_marks_left :
    (command? defaultWindow "add pain point \"Too slow.\"").map Command.operand =
        some (some (.text "Too slow.")) ∧
      (command? defaultWindow "add pain point Too slow! !").map Command.operand =
        some (some (.text "Too slow!")) ∧
      (¬ IsStripped "Too slow.".toList ∧ cleaned "Too slow.".toList = "Too slow".toList) ∧
      ¬ IsStripped "Too slow!".toList ∧ cleaned "Too slow!".toList = "Too slow".toList := by
  decide +kernel

end Intent

end PersonaDialogue
