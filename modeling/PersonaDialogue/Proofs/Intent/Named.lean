import PersonaDialogue.Proofs.Intent.Phrase
import PersonaDialogue.Proofs.Pattern.Passes

/-!
# Phrases up to the name of the collection

`add pain point ...` and `remove pain point ...` are read by two patterns.  Up to the name of the collection
there is nothing to choose for either of them, so the search comes down to what follows the name
(`find_addition`, `find_removal`).
-/

namespace PersonaDialogue.Intent

open Pattern
open Place (past)

variable {before : Option Char} {s : List Char}

/-! ### The name of a collection -/

theorem jobs_passes : jobs.Passes before "jtbd".toList s := by
  have hlong : ((word "job" ++ optional (word "s") ++ joint ++ word "to" ++ joint ++ word "be" ++ joint ++
      word "done").StartsWith "job") := by
    intro b u after t h
    simp only [reads_assoc_iff] at h
    exact (startsWith_word "job").append h
  exact .either_left (passes_word "jtbd") (hlong.silent (Text.not_prefix_append (by decide) (by decide) _))

section Name

variable (hs : ∀ c ∈ s.head?, Text.isBlank c = true)
include hs

theorem plural_passes : (optional (word "s")).Passes before [] s := by
  refine passes_absent ((startsWith_word "s").silent ?_)
  rintro ⟨v, rfl⟩
  exact absurd (hs 's' rfl) (by decide)

theorem painPoints_passes : painPoints.Passes before "pain point".toList s := by
  have hwords : "pain point".toList = "pain".toList ++ (" ".toList ++ ("point".toList ++ [])) := by decide
  have hjoint : ∀ b rest, joint.Passes b " ".toList rest := fun b rest =>
    .either_left (passes_char (c := ' ') (by decide)) (silent_char (c := ' ') (by decide))
  have hpoint : ∀ b, (word "point" ++ optional (word "s")).Passes b ("point".toList ++ []) s := fun b =>
    (passes_word "point").append (plural_passes hs)
  have hsilent : ∀ b, (word "point" ++ optional (word "s")).Silent b
      (" ".toList ++ ("point".toList ++ []) ++ s) := fun b =>
    (startsWith_word "point").append.silent (Text.not_prefix_append (by decide) (by decide) _)
  have hrest : ∀ b, (optional joint ++ (word "point" ++ optional (word "s"))).Passes b
      (" ".toList ++ ("point".toList ++ [])) s := fun b =>
    ((hjoint b _).append (hpoint _)).optional_append (hsilent b)
  rw [hwords, painPoints, passes_assoc_iff, passes_assoc_iff]
  exact (passes_word "pain").append (hrest _)

theorem behaviors_passes : behaviors.Passes before "behavior".toList s := by
  have hwords : "behavior".toList = "behavio".toList ++ ([] ++ ("r".toList ++ [])) := by decide
  have hu : ∀ b, (optional (word "u")).Passes b [] ("r".toList ++ [] ++ s) := fun b =>
    passes_absent ((startsWith_word "u").silent (Text.not_prefix_append (by decide) (by decide) _))
  have hend : ∀ b, (word "r" ++ optional (word "s")).Passes b ("r".toList ++ []) s := fun b =>
    (passes_word "r").append (plural_passes hs)
  rw [hwords, behaviors, passes_assoc_iff, passes_assoc_iff]
  exact (passes_word "behavio").append ((hu _).append (hend _))

theorem stages_passes : stages.Passes before "journey stage".toList s := by
  have hwords : "journey stage".toList = "journey".toList ++ (" ".toList ++ ("stage".toList ++ [])) := by decide
  have hgap : ∀ b, gap.Passes b " ".toList ("stage".toList ++ [] ++ s) := fun b =>
    passes_gap (by rintro c ⟨⟩; rfl)
  have hstage : ∀ b, (word "stage" ++ optional (word "s")).Passes b ("stage".toList ++ []) s := fun b =>
    (passes_word "stage").append (plural_passes hs)
  rw [hwords, stages, passes_assoc_iff, passes_assoc_iff]
  exact (passes_word "journey").append ((hgap _).append (hstage _))

theorem collection_passes (shelf : Shelf) : (collection shelf).Passes before (spoken shelf).toList s := by
  cases shelf with
  | painPoints => exact painPoints_passes hs
  | jobs => exact jobs_passes
  | behaviors => exact behaviors_passes hs
  | stages => exact stages_passes hs

end Name

/-! ### Up to the name -/

theorem article_passes (shelf : Shelf) : article.Passes before [] ((spoken shelf).toList ++ s) := by
  have hapart : ∀ w ∈ ["a", "new"], ¬ w.toList <+: (spoken shelf).toList ∧
      ¬ (spoken shelf).toList <+: w.toList := by cases shelf <;> decide
  have hnot : ∀ w ∈ ["a", "new"], ¬ w.toList <+: (spoken shelf).toList ++ s := fun w hw =>
    Text.not_prefix_append (hapart w hw).1 (hapart w hw).2 s
  have ha : ∀ b, (optional (word "a" ++ optional (word "n") ++ gap)).Passes b [] ((spoken shelf).toList ++ s) :=
    fun b => passes_absent ((startsWith_word "a").append.append.silent (hnot "a" (by simp)))
  have hnew : ∀ b, (optional (word "new" ++ gap)).Passes b [] ((spoken shelf).toList ++ s) := fun b =>
    passes_absent ((startsWith_word "new").append.silent (hnot "new" (by simp)))
  exact (ha _).append (v := []) (hnew _)

theorem the_passes (shelf : Shelf) :
    (optional (word "the" ++ gap)).Passes before [] ((spoken shelf).toList ++ s) := by
  have hapart : ¬ "the".toList <+: (spoken shelf).toList ∧ ¬ (spoken shelf).toList <+: "the".toList := by
    cases shelf <;> decide
  exact passes_absent ((startsWith_word "the").append.silent (Text.not_prefix_append hapart.1 hapart.2 s))

/-- A verb, a space and the name of a collection are passed in one way, if there is no determiner. -/
theorem phrase_passes {e : Edit} {verb : String} {determiner : Pattern} {shelf : Shelf}
    (hverb : verb ∈ e.verbs) (hnodup : ("please" :: e.verbs).Nodup) (hapart : Apart ("please" :: e.verbs) verb)
    (hdeterminer : ∀ before, determiner.Passes before [] ((spoken shelf).toList ++ s))
    (hs : ∀ c ∈ s.head?, Text.isBlank c = true) :
    (optional (word "please" ++ gap) ++ (anyWord e.verbs ++ (gap ++ (determiner ++ collection shelf)))).Passes
      none ([] ++ (verb.toList ++ (" ".toList ++ ([] ++ (spoken shelf).toList)))) s := by
  obtain ⟨hplease, hnodup⟩ := List.nodup_cons.1 hnodup
  obtain ⟨hleft, hright⟩ := hapart "please" List.mem_cons_self fun heq => hplease (heq ▸ hverb)
  have hpolite : ∀ rest, (optional (word "please" ++ gap)).Passes none [] (verb.toList ++ rest) := fun rest =>
    passes_absent ((startsWith_word "please").append.silent (Text.not_prefix_append hleft hright rest))
  have hverbs : ∀ b rest, (anyWord e.verbs).Passes b verb.toList rest := fun b rest =>
    passes_anyWord hverb (fun v hv => hapart v (List.mem_cons_of_mem _ hv)) hnodup
  have hgap : ∀ b, gap.Passes b " ".toList ([] ++ (spoken shelf).toList ++ s) := fun b =>
    passes_gap (by cases shelf <;> (rintro c ⟨⟩; rfl))
  have hname : ∀ b, (determiner ++ collection shelf).Passes b ([] ++ (spoken shelf).toList) s := fun b =>
    (hdeterminer b).append (collection_passes hs shelf)
  have hobject : ∀ b, (gap ++ (determiner ++ collection shelf)).Passes b
      (" ".toList ++ ([] ++ (spoken shelf).toList)) s := fun b => (hgap b).append (hname _)
  have hall : ∀ b, (anyWord e.verbs ++ (gap ++ (determiner ++ collection shelf))).Passes b
      (verb.toList ++ (" ".toList ++ ([] ++ (spoken shelf).toList))) s := fun b =>
    (hverbs b _).append (hobject _)
  refine Passes.append ?_ (hall _)
  rw [List.append_assoc]
  exact hpolite _

theorem Edit.find_rule (e : Edit) (s : List Char) : e.rule.pattern.find s =
    (optional (word "please" ++ gap) ++ (anyWord e.verbs ++ (gap ++ e.object))).goOn (fun _ => some [])
      ⟨none, s⟩ := by
  rw [← find_start_append]
  cases e with
  | trait => exact find_congr rfl s
  | add shelf =>
    rw [rule_add_pattern]
    exact find_congr rfl s
  | remove shelf =>
    rw [rule_remove_pattern]
    exact find_congr rfl s

/-- What follows the name of a collection; `lead` may stand before the operand. -/
def ending (lead : Pattern) : Pattern := separator ++ (lead ++ remainder 1)

/-- The search for an edit of a collection comes down to what follows the name in the phrase. -/
def ComesDownTo (e : Edit) (verb : String) (shelf : Shelf) (lead : Pattern) : Prop :=
  ∀ s : List Char, (∀ c ∈ s.head?, Text.isBlank c = true) →
    ∃ before, e.rule.pattern.find (verb.toList ++ (" ".toList ++ ((spoken shelf).toList ++ s))) =
      (ending lead).goOn (fun _ => some []) ⟨before, s⟩

theorem find_addition (shelf : Shelf) : ComesDownTo (.add shelf) "add" shelf .nothing := by
  intro s hs
  have hverb : "add" ∈ (Edit.add shelf).verbs := by simp [Edit.verbs]
  have hpasses := phrase_passes hverb (by simp [Edit.verbs]) (by simp only [Edit.verbs]; decide)
    (fun _ => article_passes shelf) hs
  have hfind := hpasses ((separator ++ remainder 1).goOn fun _ => some [])
  rw [List.nil_append, List.nil_append, List.append_assoc, List.append_assoc] at hfind
  exact ⟨_, ((Edit.add shelf).find_rule _).trans hfind⟩

theorem find_removal (shelf : Shelf) : ComesDownTo (.remove shelf) "remove" shelf (removalLead shelf) := by
  intro s hs
  have hverb : "remove" ∈ (Edit.remove shelf).verbs := by simp [Edit.verbs]
  have hpasses := phrase_passes hverb (by simp [Edit.verbs]) (by simp only [Edit.verbs]; decide)
    (fun _ => the_passes shelf) hs
  have hfind := hpasses ((ending (removalLead shelf)).goOn fun _ => some [])
  rw [List.nil_append, List.nil_append, List.append_assoc, List.append_assoc] at hfind
  exact ⟨_, ((Edit.remove shelf).find_rule _).trans hfind⟩

end PersonaDialogue.Intent
