import PersonaDialogue.Intent.Rule
import PersonaDialogue.Proofs.Intent.Opening

/-!
# Edits

Nine of the rules read an edit: a trait is set, or an element is added to or removed from one of the
four collections.  Their patterns have to match from the first word of the message on, after an
optional `please`, and that word tells which kind of edit it is.  Of the additions, and of the removals,
what follows an optional article tells the collection by its first three letters.  So a text is read by
at most one of the nine patterns (`Edit.eq_of_applies`).
-/

namespace PersonaDialogue.Intent

open Pattern

/-- The edits that a message may begin with. -/
inductive Edit
  | trait
  | add (shelf : Shelf)
  | remove (shelf : Shelf)
deriving DecidableEq, Repr

def collection : Shelf → Pattern
  | .painPoints => painPoints
  | .jobs => jobs
  | .behaviors => behaviors
  | .stages => stages

/-- What may introduce the text of an element to be removed. -/
def removalLead : Shelf → Pattern
  | .painPoints => painPointLead
  | _ => .nothing

/-- Does the pattern of a rule match the text? -/
def Rule.applies (r : Rule) (searched : List Char) : Bool := (r.pattern.find searched).isSome

namespace Edit

def rule : Edit → Rule
  | trait => ⟨"persona_field", personaTrait, singleValue, buildTrait⟩
  | add .painPoints => addRule "pain_point_add" painPoints explicit .painPoints
  | remove .painPoints => removeRule "pain_point_remove" painPoints painPointLead explicit .painPoints
  | add .jobs => addRule "jtbd_add" jobs singleValue .jobs
  | remove .jobs => removeRule "jtbd_remove" jobs .nothing singleValue .jobs
  | add .behaviors => addRule "behavior_add" behaviors singleValue .behaviors
  | remove .behaviors => removeRule "behavior_remove" behaviors .nothing singleValue .behaviors
  | add .stages => addRule "journey_add" stages singleValue .stages
  | remove .stages => removeRule "journey_remove" stages .nothing singleValue .stages

/-- The edits in the order of their rules. -/
def all : List Edit :=
  [trait, add .painPoints, remove .painPoints, add .jobs, remove .jobs, add .behaviors,
    remove .behaviors, add .stages, remove .stages]

def verbs : Edit → List String
  | trait => ["change", "update", "set", "rename"]
  | add _ => ["add"]
  | remove _ => ["remove", "delete", "drop"]

/-- What follows the verb and the gap after it. -/
def object : Edit → Pattern
  | trait =>
    optional (word "the" ++ gap) ++ (optional (group 1 (anyWord ["primary", "secondary"]) ++ gap) ++
      (optional (word "persona" ++ optional (word "'s") ++ gap) ++
        (group 2 (anyWord ["name", "role", "goal", "occupation", "job"]) ++
          (oneOf [gap ++ anyWord ["to", "as", "into"] ++ gap,
            space ++ char (.among [':', '=']) ++ space] ++ remainder 3))))
  | add shelf => article ++ (collection shelf ++ (separator ++ remainder 1))
  | remove shelf =>
    optional (word "the" ++ gap) ++ (collection shelf ++ (separator ++ (removalLead shelf ++ remainder 1)))

end Edit

/-- The rules about ages, which are asked first. -/
def ageRules : List Rule := [
  ⟨"age_range", ageRange, explicit, buildAgeRange⟩,
  ⟨"single_age", singleAge, singleValue, buildSingleAge⟩,
  ⟨"relative_younger", relativeAge "younger", relative, buildRelative .decrease⟩,
  ⟨"relative_older", relativeAge "older", relative, buildRelative .increase⟩]

/-- The rule about personas in general, which is asked last. -/
def generalRule : Rule := ⟨"persona_generic", general, vague, buildGeneral⟩

theorem rules_eq : rules = ageRules ++ Edit.all.map Edit.rule ++ [generalRule] := rfl

namespace Edit

theorem mem_all (e : Edit) : e ∈ all := by
  cases e with
  | trait => exact List.mem_cons_self
  | add shelf => cases shelf <;> decide
  | remove shelf => cases shelf <;> decide

theorem rule_mem (e : Edit) : e.rule ∈ rules := by
  rw [rules_eq]
  exact List.mem_append_left _ (List.mem_append_right _ (List.mem_map_of_mem e.mem_all))

theorem rule_add_pattern (shelf : Shelf) : (add shelf).rule.pattern = adding (collection shelf) := by
  cases shelf <;> rfl

theorem rule_remove_pattern (shelf : Shelf) :
    (remove shelf).rule.pattern = removing (collection shelf) (removalLead shelf) := by
  cases shelf <;> rfl

/-! ### The verb -/

variable {before : Option Char} {u after : List Char} {t : Trace}

/-- Every edit is read from the beginning of the text: an optional `please`, a verb, a gap and an
object. -/
theorem reads_rule_iff (e : Edit) : e.rule.pattern.Reads before u after t ↔ before = none ∧
    (optional (word "please" ++ gap) ++ (anyWord e.verbs ++ (gap ++ e.object))).Reads before u after t := by
  rw [← reads_start_append_iff]
  cases e with
  | trait =>
    change personaTrait.Reads before u after t ↔ _
    simp only [personaTrait, leading, reads_assoc_iff]
    rfl
  | add shelf =>
    rw [rule_add_pattern]
    simp only [adding, leading, reads_assoc_iff]
    rfl
  | remove shelf =>
    rw [rule_remove_pattern]
    simp only [removing, leading, reads_assoc_iff]
    rfl

theorem verbs_speak (e : Edit) : (anyWord e.verbs).Speaks e.verbs := by
  intro before u after t h
  have hverbs : e.verbs ≠ [] := by cases e <;> simp [verbs]
  exact ((reads_anyWord_iff hverbs).1 h).1

theorem verbs_solid (e : Edit) : ∀ verb ∈ e.verbs, Text.IsSolid verb.toList := by
  cases e <;> (simp only [verbs]; decide)

/-- What the verbs of edits begin with.  No `please` begins so, hence a `please` that could be passed over
is not the beginning of a verb. -/
def verbLetters : List Char := ['c', 'u', 's', 'r', 'a', 'd']

theorem verbs_begin (e : Edit) : ∀ verb ∈ e.verbs, Text.BeginsIn verbLetters verb.toList := by
  cases e <;> (simp only [verbs]; decide)

theorem word_speaks (w : String) : (word w).Speaks [w] := by
  intro before u after t h
  exact ⟨w, List.mem_singleton_self w, (reads_word_iff.1 h).1⟩

/-- The text begins with an optional `please`, a verb of the edit, and a gap. -/
def Opens (e : Edit) (s : List Char) : Prop :=
  ∃ polite verb g rest, s = polite ++ (String.toList verb ++ (g ++ rest)) ∧
    (polite = [] ∨ ∃ g', Text.IsGap g' ∧ polite = "please".toList ++ g') ∧
    verb ∈ e.verbs ∧ Text.IsGap g

/-- What an edit reads begins the text, and opens with a verb of the edit. -/
theorem opens_of_reads {e : Edit} (h : e.rule.pattern.Reads before u after t) :
    before = none ∧ e.Opens (u ++ after) := by
  obtain ⟨rfl, hparts⟩ := (reads_rule_iff e).1 h
  obtain ⟨polite, v, _, _, rfl, -, hpolite, hverb⟩ := reads_append_iff.1 hparts
  obtain ⟨verb, hmem, -, g, w, _, _, hg, rfl, -⟩ :=
    firstWord_of_reads (verbs_speak e) (verbs_solid e) hverb
  refine ⟨rfl, polite, verb, g, w ++ after, by simp, ?_, hmem, hg⟩
  rcases reads_optional_iff.1 hpolite with hplease | ⟨rfl, -⟩
  · obtain ⟨x, g', _, _, rfl, -, hword, hgap⟩ := reads_append_iff.1 hplease
    obtain ⟨rfl, -⟩ := reads_word_iff.1 hword
    exact .inr ⟨g', (reads_gap_iff.1 hgap).1, rfl⟩
  · exact .inl rfl

/-- The text without the `please` that it may begin with. -/
def command (s : List Char) : List Char := Text.passOver ["please"] s

/-- What an edit reads is a command whose first word is a verb of the edit. -/
theorem command_of_reads {e : Edit} (h : e.rule.pattern.Reads before u after t) :
    ∃ verb ∈ e.verbs, Text.firstWord (command (u ++ after)) = verb.toList ∧
      ∃ g v before' t', Text.IsGap g ∧ command (u ++ after) = verb.toList ++ (g ++ (v ++ after)) ∧
        e.object.Reads before' v after t' := by
  obtain ⟨-, hparts⟩ := (reads_rule_iff e).1 h
  obtain ⟨v, _, _, hverb, hpass⟩ := passOver_of_reads (word_speaks "please")
    ((verbs_speak e).begins verbLetters (verbs_begin e)) (by decide) (by decide) hparts
  obtain ⟨verb, hmem, hfirst, g, w, _, _, hg, rfl, hobject⟩ :=
    firstWord_of_reads (verbs_speak e) (verbs_solid e) hverb
  rw [command, hpass]
  exact ⟨verb, hmem, hfirst, g, w, _, _, hg, by simp, hobject⟩

/-! ### The collection -/

/-- The collection whose name a text may begin with. -/
def shelfNamed? : List Char → Option Shelf
  | 'p' :: _ => some .painPoints
  | 'b' :: _ => some .behaviors
  | 'j' :: 'o' :: 'u' :: _ => some .stages
  | 'j' :: _ => some .jobs
  | _ => none

def nameStarts : Shelf → List String
  | .painPoints => ["pain"]
  | .jobs => ["jtbd", "job"]
  | .behaviors => ["behavio"]
  | .stages => ["journey"]

theorem shelfNamed?_start {shelf : Shelf} {w : String} (hw : w ∈ nameStarts shelf) (s : List Char) :
    shelfNamed? (w.toList ++ s) = some shelf := by
  cases shelf <;> simp only [nameStarts, List.mem_cons, List.not_mem_nil, or_false] at hw
  case jobs => rcases hw with rfl | rfl <;> rfl
  all_goals subst hw; rfl

theorem reads_word_append {w : String} {q : Pattern} (h : (word w ++ q).Reads before u after t) :
    ∃ v, u = w.toList ++ v := by
  obtain ⟨v, x, _, _, rfl, -, hword, -⟩ := reads_append_iff.1 h
  exact ⟨x, by rw [(reads_word_iff.1 hword).1]⟩

theorem exists_start_of_reads {shelf : Shelf} (h : (collection shelf).Reads before u after t) :
    ∃ w ∈ nameStarts shelf, ∃ v, u = w.toList ++ v := by
  cases shelf with
  | painPoints =>
    simp only [collection, painPoints, reads_assoc_iff] at h
    exact ⟨"pain", by simp [nameStarts], reads_word_append h⟩
  | jobs =>
    rcases reads_either_iff.1 h with h | h
    · exact ⟨"jtbd", by simp [nameStarts], [], by rw [(reads_word_iff.1 h).1, List.append_nil]⟩
    · simp only [oneOf, reads_assoc_iff] at h
      exact ⟨"job", by simp [nameStarts], reads_word_append h⟩
  | behaviors =>
    simp only [collection, behaviors, reads_assoc_iff] at h
    exact ⟨"behavio", by simp [nameStarts], reads_word_append h⟩
  | stages =>
    simp only [collection, stages, reads_assoc_iff] at h
    exact ⟨"journey", by simp [nameStarts], reads_word_append h⟩

theorem shelfNamed?_of_reads {shelf : Shelf} {q : Pattern}
    (h : (collection shelf ++ q).Reads before u after t) :
    shelfNamed? (u ++ after) = some shelf := by
  obtain ⟨x, y, _, _, rfl, -, hname, -⟩ := reads_append_iff.1 h
  obtain ⟨w, hw, v, rfl⟩ := exists_start_of_reads hname
  rw [List.append_assoc, List.append_assoc]
  exact shelfNamed?_start hw _

/-- What the names of collections begin with.  Neither `a`, `an` nor `new` begins so, hence an article
that could be passed over is not the beginning of a name. -/
def nameLetters : List Char := ['p', 'j', 'b']

theorem nameStarts_begin (shelf : Shelf) :
    ∀ w ∈ nameStarts shelf, Text.BeginsIn nameLetters w.toList := by
  cases shelf <;> decide

theorem collection_begins (shelf : Shelf) : (collection shelf).Begins nameLetters := by
  intro before u after t h
  obtain ⟨w, hw, v, rfl⟩ := exists_start_of_reads h
  exact (nameStarts_begin shelf w hw).append v

/-- The text without the article and the `new` that it may begin with. -/
def afterArticle (s : List Char) : List Char := Text.passOver ["new"] (Text.passOver ["a", "an"] s)

theorem article_speaks : (word "a" ++ optional (word "n")).Speaks ["a", "an"] := by
  intro before u after t h
  obtain ⟨v, w, _, _, rfl, -, ha, hn⟩ := reads_append_iff.1 h
  obtain ⟨rfl, -⟩ := reads_word_iff.1 ha
  rcases reads_optional_iff.1 hn with hn | ⟨rfl, -⟩
  · obtain ⟨rfl, -⟩ := reads_word_iff.1 hn
    exact ⟨"an", by simp, rfl⟩
  · exact ⟨"a", by simp, rfl⟩

/-- What an addition reads after the verb begins with a letter, and names the collection after the
article. -/
theorem add_object {shelf : Shelf} (h : (add shelf).object.Reads before u after t) :
    (∃ cs, Text.BeginsIn cs u) ∧ shelfNamed? (afterArticle (u ++ after)) = some shelf := by
  simp only [object, article, reads_assoc_iff] at h
  have hname := (collection_begins shelf).append (q := separator ++ remainder 1)
  have hnew := ((word_speaks "new").begins (q := gap) ['n'] (by decide)).optional hname
  have ha := (article_speaks.begins (q := gap) ['a'] (by decide)).optional hnew
  obtain ⟨v, _, _, hv, hpassed⟩ :=
    passOver_of_reads article_speaks hnew (by decide) (by decide) h
  obtain ⟨w, _, _, hw, hpassed'⟩ :=
    passOver_of_reads (word_speaks "new") hname (by decide) (by decide) hv
  refine ⟨⟨_, ha h⟩, ?_⟩
  rw [afterArticle, hpassed, hpassed']
  exact shelfNamed?_of_reads hw

/-- What a removal reads after the verb begins with a letter, and names the collection after `the`. -/
theorem remove_object {shelf : Shelf} (h : (remove shelf).object.Reads before u after t) :
    (∃ cs, Text.BeginsIn cs u) ∧
      shelfNamed? (Text.passOver ["the"] (u ++ after)) = some shelf := by
  have hname := (collection_begins shelf).append
    (q := separator ++ (removalLead shelf ++ remainder 1))
  have hthe := ((word_speaks "the").begins (q := gap) ['t'] (by decide)).optional hname
  obtain ⟨w, _, _, hw, hpassed⟩ :=
    passOver_of_reads (word_speaks "the") hname (by decide) (by decide) h
  refine ⟨⟨_, hthe h⟩, ?_⟩
  rw [hpassed]
  exact shelfNamed?_of_reads hw

/-! ### At most one edit -/

variable {e f : Edit} {s : List Char}

theorem reads_of_applies (h : e.rule.applies s = true) :
    ∃ u w t, s = u ++ w ∧ e.rule.pattern.Reads none u w t := by
  obtain ⟨u, v, w, t, rfl, hread⟩ := find_isSome_iff.1 h
  have hfirst := (opens_of_reads hread).1
  obtain rfl := List.getLast?_eq_none_iff.1 hfirst
  exact ⟨v, w, t, rfl, hread⟩

/-- **A rule about an edit applies only to a text that begins with one of its verbs**, but for a
`please` before it. -/
theorem opens_of_applies (h : e.rule.applies s = true) : e.Opens s := by
  obtain ⟨u, w, t, rfl, hread⟩ := reads_of_applies h
  exact (opens_of_reads hread).2

/-- What the text itself says of an edit that it reads: the first word of the command is a verb, and
what follows the verb names the collection. -/
theorem command_of_applies (h : e.rule.applies s = true) :
    ∃ verb ∈ e.verbs, Text.firstWord (command s) = verb.toList ∧
      match e with
      | trait => True
      | add shelf => shelfNamed? (afterArticle (Text.afterWord (command s))) = some shelf
      | remove shelf => shelfNamed? (Text.passOver ["the"] (Text.afterWord (command s))) = some shelf := by
  obtain ⟨u, w, t, rfl, hread⟩ := reads_of_applies h
  obtain ⟨verb, hmem, hfirst, g, v, _, _, hg, hcommand, hobject⟩ := command_of_reads hread
  refine ⟨verb, hmem, hfirst, ?_⟩
  have hafter : ∀ {cs}, Text.BeginsIn cs v → Text.afterWord (command (u ++ w)) = v ++ w := by
    intro cs hv
    rw [hcommand]
    exact Text.afterWord_append (verbs_solid e verb hmem) hg (hv.append w)
  cases e with
  | trait => trivial
  | add shelf =>
    obtain ⟨⟨cs, hv⟩, hshelf⟩ := add_object hobject
    rw [hafter hv]
    exact hshelf
  | remove shelf =>
    obtain ⟨⟨cs, hv⟩, hshelf⟩ := remove_object hobject
    rw [hafter hv]
    exact hshelf

theorem verbs_apart (shelf shelf' : Shelf) :
    (∀ verb ∈ trait.verbs, verb ∉ (add shelf).verbs ∧ verb ∉ (remove shelf).verbs) ∧
      ∀ verb ∈ (add shelf).verbs, verb ∉ (remove shelf').verbs := by
  simp only [verbs]
  decide

/-- **At most one edit applies to a text.** -/
theorem eq_of_applies (he : e.rule.applies s = true) (hf : f.rule.applies s = true) : e = f := by
  obtain ⟨verb, hverb, hfirst, hshelf⟩ := command_of_applies he
  obtain ⟨verb', hverb', hfirst', hshelf'⟩ := command_of_applies hf
  obtain rfl : verb = verb' := String.toList_inj.1 (hfirst.symm.trans hfirst')
  -- the verb tells the kind of the edit, and then the name after it tells the collection
  cases e <;> cases f
  case trait.trait => rfl
  case add.add => rw [Option.some.inj (hshelf.symm.trans hshelf')]
  case remove.remove => rw [Option.some.inj (hshelf.symm.trans hshelf')]
  case trait.add s => exact absurd hverb' ((verbs_apart s s).1 verb hverb).1
  case trait.remove s => exact absurd hverb' ((verbs_apart s s).1 verb hverb).2
  case add.trait s => exact absurd hverb ((verbs_apart s s).1 verb hverb').1
  case remove.trait s => exact absurd hverb ((verbs_apart s s).1 verb hverb').2
  case add.remove s s' => exact absurd hverb' ((verbs_apart s s').2 verb hverb)
  case remove.add s s' => exact absurd hverb ((verbs_apart s' s).2 verb hverb')

end Edit

end PersonaDialogue.Intent
