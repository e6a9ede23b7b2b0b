import Mathlib.Data.List.TakeWhile
import PersonaDialogue.Proofs.Intent.Arbitration
import PersonaDialogue.Proofs.Text.Case

/-!
# Edits in plain words

`add pain point ...`, `remove journey stage ...` and the like are read by the rule of their edit,
whatever the operand says, as long as it stays on one line and something of it is left after cleaning.
Only the rules about ages, which look at the whole message and are asked first, can take such a message
away from it (`phrase_decided`), and they do: an operand that speaks of setting an age is read as a
wish to set the age (`operand_read_as_age`).
-/

namespace PersonaDialogue

namespace Text

variable {drop : Char → Bool} {s u : List Char}

theorem trimEndWhile_eq_nil_iff : trimEndWhile drop s = [] ↔ ∀ c ∈ s, drop c = true := by
  simp [trimEndWhile, List.dropWhile_eq_nil_iff]

theorem trimEndWhile_append (h : trimEndWhile drop s ≠ []) :
    trimEndWhile drop (u ++ s) = u ++ trimEndWhile drop s := by
  have hne : (s.reverse.dropWhile drop).isEmpty = false := by
    simpa [trimEndWhile, List.isEmpty_eq_false_iff] using h
  simp [trimEndWhile, List.dropWhile_append, hne]

/-- Of a text that ends with a character that is kept, nothing is taken away with what follows it. -/
theorem trimEndWhile_append_of_eq (h : trimEndWhile drop u = u) (s : List Char) :
    trimEndWhile drop (u ++ s) = u ++ trimEndWhile drop s := by
  by_cases hnil : trimEndWhile drop s = []
  · rw [trimEndWhile_append_all (trimEndWhile_eq_nil_iff.1 hnil), h, hnil, List.append_nil]
  · exact trimEndWhile_append hnil

theorem BeginsIn.trimStart_append {cs : List Char} (hu : BeginsIn cs u) (s : List Char) :
    trimStart (u ++ s) = u ++ s := by
  obtain ⟨c, -, hu, hc⟩ := hu
  obtain ⟨u', rfl⟩ := List.head?_eq_some_iff.1 hu
  exact List.dropWhile_cons_of_neg (by simp [hc])

/-- Trimming a text that begins with another character than white space touches its end only. -/
theorem trim_append {cs : List Char} (hu : BeginsIn cs u) (h : trimEndWhile isBlank s ≠ []) :
    trim (u ++ s) = u ++ trimEndWhile isBlank s := by
  rw [trim, hu.trimStart_append, trimEndWhile_append h]

theorem mem_trimEndWhile {c : Char} (h : c ∈ trimEndWhile drop s) : c ∈ s := by
  rw [trimEndWhile, List.mem_reverse] at h
  exact List.mem_reverse.1 ((List.dropWhile_suffix drop).mem h)

theorem lowerAscii_append (s t : List Char) : lowerAscii (s ++ t) = lowerAscii s ++ lowerAscii t :=
  List.map_append

theorem newline_not_mem_lowerAscii (h : '\n' ∉ s) : '\n' ∉ lowerAscii s := by
  intro hmem
  obtain ⟨c, hc, heq⟩ := List.mem_map.1 hmem
  exact h (eq_of_toLower_eq (by decide) heq ▸ hc)

end Text

namespace Intent

open Pattern
open Place (past)

theorem trimEnd_ne_nil_of_cleaned {s : List Char} (h : cleaned s ≠ []) :
    Text.trimEndWhile Text.isBlank s ≠ [] := by
  intro hnil
  have hblank := Text.trimEndWhile_eq_nil_iff.1 hnil
  have hstart : Text.trimStart s = [] := List.dropWhile_eq_nil_iff.2 hblank
  have htrim : Text.trim s = [] := by
    rw [Text.trim, hstart]
    rfl
  exact h (by rw [cleaned, htrim]; rfl)

def spoken : Shelf → String
  | .painPoints => "pain point"
  | .jobs => "jtbd"
  | .behaviors => "behavior"
  | .stages => "journey stage"

/-- A verb, a collection and a text, with a space between them. -/
def phrase (verb : String) (shelf : Shelf) (text : String) : String :=
  verb ++ " " ++ spoken shelf ++ " " ++ text

def searchedOperand (text : String) : List Char :=
  Text.lowerAscii (Text.trimEndWhile Text.isBlank text.toList)

theorem searchedOperand_ne_nil {text : String} (h : cleaned text.toList ≠ []) :
    searchedOperand text ≠ [] :=
  fun hnil => trimEnd_ne_nil_of_cleaned h (List.map_eq_nil_iff.1 hnil)

theorem newline_not_mem_searchedOperand {text : String} (h : '\n' ∉ text.toList) :
    '\n' ∉ searchedOperand text :=
  Text.newline_not_mem_lowerAscii fun hmem => h (Text.mem_trimEndWhile hmem)

/-- What follows the name of the collection in a phrase. -/
def afterName (text : String) : List Char := Text.trimEndWhile Text.isBlank (' ' :: text.toList)

section Message

variable {verb : String} (hverb : verb = "add" ∨ verb = "remove") (shelf : Shelf)
include hverb

theorem trim_phrase (text : String) : Text.trim (phrase verb shelf text).toList =
    verb.toList ++ (" ".toList ++ ((spoken shelf).toList ++ afterName text)) := by
  have hsplit : (phrase verb shelf text).toList =
      verb.toList ++ (" ".toList ++ (spoken shelf).toList) ++ ' ' :: text.toList := by
    simp [phrase]
  have hbegins : Text.BeginsIn ['a', 'r'] (verb.toList ++ (" ".toList ++ (spoken shelf).toList)) := by
    rcases hverb with rfl | rfl <;> cases shelf <;> decide
  have hend : Text.trimEndWhile Text.isBlank (verb.toList ++ (" ".toList ++ (spoken shelf).toList)) =
      verb.toList ++ (" ".toList ++ (spoken shelf).toList) := by
    rcases hverb with rfl | rfl <;> cases shelf <;> decide
  rw [hsplit, Text.trim, hbegins.trimStart_append, Text.trimEndWhile_append_of_eq hend, ← afterName]
  simp only [List.append_assoc]

/-- A phrase in lower case is searched as it is, but for what follows the name. -/
theorem searchedText_phrase (text : String) : searchedText (phrase verb shelf text) =
    verb.toList ++ (" ".toList ++ ((spoken shelf).toList ++ Text.lowerAscii (afterName text))) := by
  have hlower : Text.lowerAscii verb.toList = verb.toList ∧
      Text.lowerAscii (spoken shelf).toList = (spoken shelf).toList := by
    rcases hverb with rfl | rfl <;> cases shelf <;> decide
  rw [searchedText, trim_phrase hverb]
  simp only [Text.lowerAscii_append, hlower.1, hlower.2]
  rfl

theorem searchedText_phrase_of_cleaned {text : String} (h : cleaned text.toList ≠ []) :
    searchedText (phrase verb shelf text) = verb.toList ++ (" ".toList ++ ((spoken shelf).toList ++
      (" ".toList ++ searchedOperand text))) := by
  have hspace : afterName text = [' '] ++ Text.trimEndWhile Text.isBlank text.toList :=
    Text.trimEndWhile_append (u := [' ']) (trimEnd_ne_nil_of_cleaned h)
  rw [searchedText_phrase hverb, hspace, Text.lowerAscii_append]
  rfl

end Message

/-! ### What the patterns read -/

section Reading

variable {before : Option Char} {after rest : List Char}

theorem blank_reads : gap.Reads before " ".toList after [] := by
  refine reads_gap_iff.2 ⟨⟨List.cons_ne_nil ' ' [], fun c hc => ?_⟩, rfl⟩
  obtain rfl : c = ' ' := List.mem_singleton.1 hc
  rfl

theorem article_reads_nil : article.Reads before [] after [] :=
  .seq (u := []) (v := []) (.second .nothing) (.second .nothing)

theorem separator_reads : separator.Reads before " ".toList after [] := .second blank_reads

theorem word_reads (w : String) : (word w).Reads before w.toList after [] :=
  reads_word_iff.2 ⟨rfl, rfl⟩

theorem optional_reads_nil (p : Pattern) : (optional p).Reads before [] after [] := .second .nothing

theorem spoken_reads (shelf : Shelf) :
    (collection shelf).Reads before (spoken shelf).toList after [] := by
  cases shelf with
  | painPoints =>
    have hjoint : (optional joint).Reads (past before "pain".toList) " ".toList
        ("point".toList ++ ([] ++ after)) [] := .first (.first (.char (by decide)))
    exact .seq (.seq (.seq (word_reads "pain") hjoint) (word_reads "point")) (optional_reads_nil _)
  | jobs => exact .first (word_reads "jtbd")
  | behaviors =>
    exact .seq (.seq (.seq (word_reads "behavio") (optional_reads_nil _)) (word_reads "r"))
      (optional_reads_nil _)
  | stages =>
    exact .seq (.seq (.seq (word_reads "journey") blank_reads) (word_reads "stage"))
      (optional_reads_nil _)

theorem removalLead_reads_nil (shelf : Shelf) : (removalLead shelf).Reads before [] after [] := by
  cases shelf with
  | painPoints => exact .second .nothing
  | jobs => exact .nothing
  | behaviors => exact .nothing
  | stages => exact .nothing

theorem remainder_reads (before : Option Char) (hne : rest ≠ []) (hline : '\n' ∉ rest) (index : Nat) :
    ∃ t, (remainder index).Reads before rest [] t := by
  have hrest : ∀ c ∈ rest, CharClass.notNewline.accepts c = true := by
    intro c hc
    have hne : c ≠ '\n' := fun heq => hline (heq ▸ hc)
    simpa [CharClass.accepts] using hne
  exact ⟨_, reads_append_iff.2 ⟨rest, [], _, [], by simp, rfl,
    .group (reads_atLeastOne_iff.2 ⟨⟨hne, hrest⟩, rfl⟩), .stop⟩⟩

theorem add_object_reads (before : Option Char) (shelf : Shelf) (hne : rest ≠ [])
    (hline : '\n' ∉ rest) : ∃ t, (Edit.add shelf).object.Reads before
      ((spoken shelf).toList ++ (" ".toList ++ rest)) [] t := by
  obtain ⟨t, hrest⟩ := remainder_reads (some ' ') hne hline 1
  exact ⟨_, .seq (u := []) article_reads_nil
    (.seq (spoken_reads shelf) (.seq separator_reads hrest))⟩

theorem remove_object_reads (before : Option Char) (shelf : Shelf) (hne : rest ≠ [])
    (hline : '\n' ∉ rest) : ∃ t, (Edit.remove shelf).object.Reads before
      ((spoken shelf).toList ++ (" ".toList ++ rest)) [] t := by
  obtain ⟨t, hrest⟩ := remainder_reads (some ' ') hne hline 1
  exact ⟨_, .seq (u := []) (optional_reads_nil _) (.seq (spoken_reads shelf)
    (.seq separator_reads (.seq (u := []) (removalLead_reads_nil shelf) hrest)))⟩

/-- An edit applies to a verb of its own, a space, and an object. -/
theorem applies_of_object {e : Edit} {verb : String} (hverb : verb ∈ e.verbs)
    (h : ∀ before, ∃ t, e.object.Reads before rest [] t) :
    e.rule.applies (verb.toList ++ (" ".toList ++ rest)) = true := by
  obtain ⟨t, hobject⟩ := h (past (past (past none []) verb.toList) " ".toList)
  have hspeaks : (anyWord e.verbs).Reads (past none []) verb.toList (" ".toList ++ rest ++ []) [] :=
    (reads_anyWord_iff (List.ne_nil_of_mem hverb)).2 ⟨⟨verb, hverb, rfl⟩, rfl⟩
  have hread : e.rule.pattern.Reads none (verb.toList ++ (" ".toList ++ rest)) [] _ :=
    (Edit.reads_rule_iff e).2 ⟨rfl, .seq (u := []) (optional_reads_nil _)
      (.seq hspeaks (.seq blank_reads hobject))⟩
  exact find_isSome_iff.2 ⟨[], _, [], _, by simp, hread⟩

end Reading

/-! ### Who decides -/

/-- The message is decided by the first rule about ages that applies to it, and by the rule of the edit
if none does. -/
def DecidedFor (window : UInt32) (message : String) (e : Edit) : Prop :=
  ∃ v, classify window message = some v ∧
    v.rule = ((ageRules.find? (·.applies (searchedText message))).getD e.rule).name

/-- **An edit in plain words is decided by its own rule unless a rule about ages applies.**  Neither a
rule about another edit nor the rule about personas in general ever decides it. -/
theorem phrase_decided (window : UInt32) (shelf : Shelf) (text : String)
    (hline : '\n' ∉ text.toList) (htext : cleaned text.toList ≠ []) :
    DecidedFor window (phrase "add" shelf text) (.add shelf) ∧
      DecidedFor window (phrase "remove" shelf text) (.remove shelf) := by
  have hne := searchedOperand_ne_nil htext
  have hlower := newline_not_mem_searchedOperand hline
  have hadd : (Edit.add shelf).rule.applies (searchedText (phrase "add" shelf text)) = true := by
    rw [searchedText_phrase_of_cleaned (.inl rfl) shelf htext]
    exact applies_of_object (by simp [Edit.verbs]) fun before =>
      add_object_reads before shelf hne hlower
  have hremove :
      (Edit.remove shelf).rule.applies (searchedText (phrase "remove" shelf text)) = true := by
    rw [searchedText_phrase_of_cleaned (.inr rfl) shelf htext]
    exact applies_of_object (by simp [Edit.verbs]) fun before =>
      remove_object_reads before shelf hne hlower
  exact ⟨classify_of_applies window hadd, classify_of_applies window hremove⟩

/-- An operand that mentions an age, but sets none. -/
theorem phrase_decided_minimum :
    ('\n' ∉ "Minimum age of 13, set role to x".toList ∧
      cleaned "Minimum age of 13, set role to x".toList ≠ []) ∧
      DecidedFor 5 (phrase "add" .stages "Minimum age of 13, set role to x") (.add .stages) ∧
      DecidedFor 5 (phrase "remove" .stages "Minimum age of 13, set role to x") (.remove .stages) :=
  ⟨by decide, phrase_decided 5 .stages "Minimum age of 13, set role to x" (by decide) (by decide)⟩

/-- **The rule of an edit does not always decide it**: to add a pain point about setting an age sets the
age. -/
theorem operand_read_as_age :
    '\n' ∉ "users must set age 18-30 by hand".toList ∧
      cleaned "users must set age 18-30 by hand".toList ≠ [] ∧
      (classify defaultWindow (phrase "add" .painPoints "users must set age 18-30 by hand")).map
        Verdict.rule = some "age_range" ∧
      (Edit.add .painPoints).rule.name ≠ "age_range" := by
  decide +kernel

end Intent

end PersonaDialogue
