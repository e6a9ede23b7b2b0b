import PersonaDialogue.Proofs.Intent.Arbitration
import PersonaDialogue.Proofs.Intent.Verdict

/-!
# The first rule that applies

Rules are asked in order, and the first that applies ends the search.  The verdict is the one that would be
found by asking every rule on its own and taking the first answer (`classify_eq_head?`): what a rule says does
not depend on the rules before it, and what the rules after it say does not matter, even if it gives no
command and they would.  A message of white space alone needs no exception, since no pattern matches the
empty text.
-/

namespace PersonaDialogue.Intent

/-- The rule applies to the text, and none of the rules in front of it does. -/
def Rule.IsFirst (r : Rule) (searched : List Char) : Prop :=
  ∃ earlier later, rules = earlier ++ r :: later ∧ r.applies searched = true ∧
    ∀ q ∈ earlier, q.applies searched = false

section Asking

variable {window : UInt32} {searched message : List Char} {r : Rule}

theorem Rule.ask_eq_none_iff : r.ask window searched message = none ↔ r.applies searched = false := by
  simp [Rule.ask, Rule.applies]

theorem Rule.verdict_eq_some_iff {v : Verdict} : r.verdict window searched message = some v ↔
    v.rule = r.name ∧ r.ask window searched message = some v.command := by
  constructor
  · intro h
    obtain ⟨command, hask, rfl⟩ := Option.map_eq_some_iff.1 h
    exact ⟨rfl, hask⟩
  · rintro ⟨hname, hask⟩
    rw [Rule.verdict, hask, Option.map_some, ← hname]

theorem Rule.isFirst_iff : r.IsFirst searched ↔ rules.find? (·.applies searched) = some r := by
  rw [List.find?_eq_some_iff_append]
  constructor
  · rintro ⟨earlier, later, hrules, happlies, hearlier⟩
    exact ⟨happlies, earlier, later, hrules, fun q hq => by rw [hearlier q hq]; rfl⟩
  · rintro ⟨happlies, earlier, later, hrules, hearlier⟩
    exact ⟨earlier, later, hrules, happlies, fun q hq => by simpa using hearlier q hq⟩

/-- Asking until one applies finds the first of all the verdicts. -/
theorem firstVerdict_eq_head? (rs : List Rule) : firstVerdict window searched message rs =
    (rs.filterMap (·.verdict window searched message)).head? := by
  induction rs with
  | nil => rfl
  | cons r later ih =>
    rw [firstVerdict, List.filterMap_cons, Rule.verdict]
    cases r.ask window searched message with
    | none => exact ih
    | some command => rfl

theorem Rule.exists_ask (h : r.applies searched = true) (window : UInt32) (message : List Char) :
    ∃ command, r.ask window searched message = some command := by
  refine Option.ne_none_iff_exists'.1 fun hnone => ?_
  rw [Rule.ask_eq_none_iff, h] at hnone
  cases hnone

theorem Rule.IsFirst.mem (h : r.IsFirst searched) : r ∈ rules :=
  List.mem_of_find?_eq_some (Rule.isFirst_iff.1 h)

/-- No rule applies to the empty text. -/
theorem applies_nil : ∀ r ∈ rules, r.applies [] = false := by decide +kernel

theorem askAll_nil : askAll window [] message = [] := by
  refine List.filterMap_eq_nil_iff.2 fun r hr => ?_
  rw [Rule.ask_eq_none_iff.2 (applies_nil r hr)]
  rfl

end Asking

section Messages

variable {window : UInt32} {message : String}

/-- The verdict on a message is the first that the rules give, each asked on its own. -/
theorem classify_eq_head? (window : UInt32) (message : String) : classify window message =
    (askAll window (searchedText message) (Text.trim message.toList)).head? := by
  by_cases hblank : Text.trim message.toList = []
  · rw [classify, classifyBy_eq, if_pos hblank, searchedText, hblank]
    exact (congrArg List.head? askAll_nil).symm
  · have hempty : (Text.trim message.toList).isEmpty = false := by simpa using hblank
    rw [classify, classifyBy, hempty]
    exact firstVerdict_eq_head? rules

/-- The verdict on a message is what the first rule that applies says of it. -/
theorem classify_eq_some_iff {v : Verdict} : classify window message = some v ↔
    ∃ r : Rule, r.IsFirst (searchedText message) ∧ v.rule = r.name ∧
      r.ask window (searchedText message) (Text.trim message.toList) = some v.command := by
  have hfirst : classify window message = (rules.find? (·.applies (searchedText message))).bind
      (·.verdict window (searchedText message) (Text.trim message.toList)) := by
    rw [← firstVerdict_eq, firstVerdict_eq_head?, classify_eq_head?]
    rfl
  rw [hfirst, Option.bind_eq_some_iff]
  simp only [Rule.isFirst_iff, Rule.verdict_eq_some_iff]

theorem classify_eq_none_iff : classify window message = none ↔
    ∀ r ∈ rules, r.ask window (searchedText message) (Text.trim message.toList) = none := by
  rw [classify_eq_head?, List.head?_eq_none_iff, askAll, List.filterMap_eq_nil_iff]
  simp only [Option.map_eq_none_iff]

theorem generalRule_mem : generalRule ∈ rules := by
  rw [rules_eq]
  exact List.mem_append_right _ (List.mem_singleton_self _)

/-- The rules in front of the general rule are all rules but this one. -/
theorem mem_front_iff {r : Rule} : r ∈ ageRules ++ Edit.all.map Edit.rule ↔
    r ∈ rules ∧ r.name ≠ generalRule.name := by
  have hnames : ∀ q ∈ ageRules ++ Edit.all.map Edit.rule, q.name ≠ generalRule.name := by decide
  rw [rules_eq, List.mem_append (s := ageRules ++ _)]
  constructor
  · intro hr
    exact ⟨.inl hr, hnames r hr⟩
  · rintro ⟨hr | hr, hname⟩
    · exact hr
    · exact absurd (congrArg Rule.name (List.mem_singleton.1 hr)) hname

/-- The general rule, which is asked last, comes first if no other rule applies, and only then. -/
theorem generalRule_isFirst_iff {searched : List Char} : generalRule.IsFirst searched ↔
    generalRule.applies searched = true ∧
      ∀ r ∈ rules, r.name ≠ generalRule.name → r.applies searched = false := by
  have hfront : (∀ r ∈ rules, r.name ≠ generalRule.name → r.applies searched = false) ↔
      (ageRules ++ Edit.all.map Edit.rule).find? (·.applies searched) = none := by
    simp only [List.find?_eq_none, mem_front_iff, and_imp, Bool.not_eq_true]
  rw [hfront, Rule.isFirst_iff, rules_eq, List.find?_append]
  cases hfind : (ageRules ++ Edit.all.map Edit.rule).find? (·.applies searched) with
  | none => simp
  | some q =>
    have hname : q.name ≠ generalRule.name := (mem_front_iff.1 (List.mem_of_find?_eq_some hfind)).2
    have hne : q ≠ generalRule := fun heq => hname (congrArg Rule.name heq)
    simp [hne]

/-- The verdict on a message, as the rules one by one determine it. -/
structure FirstDecides (window : UInt32) (message : String) : Prop where
  /-- It is the first verdict that is given when all the rules are asked, each on its own. -/
  alone : classify window message =
    (askAll window (searchedText message) (Text.trim message.toList)).head?
  /-- There is none if and only if the message is blank or no rule applies. -/
  undecided : classify window message = none ↔ Text.trim message.toList = [] ∨
    ∀ r ∈ rules, r.ask window (searchedText message) (Text.trim message.toList) = none
  /-- Otherwise it is what the first rule that applies makes of the message, be it a command or nothing,
  and whatever the rules after it would make of it. -/
  decided : ∀ v, classify window message = some v ↔
    ∃ r : Rule, r.IsFirst (searchedText message) ∧ v.rule = r.name ∧
      r.ask window (searchedText message) (Text.trim message.toList) = some v.command
  /-- The general rule decides if and only if it applies and none of the other rules does. -/
  general : (∃ command, classify window message = some ⟨generalRule.name, command⟩) ↔
    generalRule.applies (searchedText message) = true ∧
      ∀ r ∈ rules, r.name ≠ generalRule.name → r.applies (searchedText message) = false
  /-- There is a command if and only if the first rule that applies gives it. -/
  command : ∀ c, command? window message = some c ↔
    ∃ r : Rule, r.IsFirst (searchedText message) ∧
      r.ask window (searchedText message) (Text.trim message.toList) = some (some c)

/-- **The first rule that applies decides.** -/
theorem first_rule_decides (window : UInt32) (message : String) : FirstDecides window message where
  alone := classify_eq_head? window message
  undecided := by
    rw [classify_eq_none_iff]
    refine ⟨.inr, ?_⟩
    rintro (hblank | hnone)
    · intro r hr
      rw [searchedText, hblank]
      exact Rule.ask_eq_none_iff.2 (applies_nil r hr)
    · exact hnone
  decided v := classify_eq_some_iff
  general := by
    rw [← generalRule_isFirst_iff]
    constructor
    · rintro ⟨command, h⟩
      obtain ⟨r, hfirst, hname, -⟩ := classify_eq_some_iff.1 h
      rwa [rule_eq_of_name generalRule_mem hfirst.mem hname]
    · intro hfirst
      have happlies := (generalRule_isFirst_iff.1 hfirst).1
      obtain ⟨command, hask⟩ := Rule.exists_ask happlies window (Text.trim message.toList)
      exact ⟨command, classify_eq_some_iff.2 ⟨_, hfirst, rfl, hask⟩⟩
  command c := by
    rw [command?, Option.bind_eq_some_iff]
    constructor
    · rintro ⟨v, hv, hc⟩
      obtain ⟨r, hfirst, -, hask⟩ := classify_eq_some_iff.1 hv
      exact ⟨r, hfirst, hc ▸ hask⟩
    · rintro ⟨r, hfirst, hask⟩
      exact ⟨⟨r.name, some c⟩, classify_eq_some_iff.2 ⟨r, hfirst, rfl, hask⟩, rfl⟩

/-- A range with an age above the greatest makes no command, and the single age that the same words state is
not asked for. -/
example :
    let message := "set age to 18-300"
    let c : Command := ⟨.set, .age, none, some (.ageRange ⟨13, 23⟩), singleValue, message⟩
    classify 5 message = some ⟨"age_range", none⟩ ∧
      askAll 5 message.toList message.toList = [⟨"age_range", none⟩, ⟨"single_age", some c⟩] := by
  decide +kernel

end Messages

end PersonaDialogue.Intent
