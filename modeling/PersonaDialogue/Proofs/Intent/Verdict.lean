import Mathlib.Data.List.Nodup
import PersonaDialogue.Intent.Classify

/-!
# Where a command comes from

A command of the classifier is what one of the rules builds of a match of its pattern
(`command?_built`).  So a property of commands holds for the classifier if every rule builds commands
that have it.  First such property: the confidence of a command is one of the five that the rules
give (`command?_confidence`).
-/

namespace PersonaDialogue.Intent

/-- The match of a rule in a message: what its builder is given. -/
structure Match.IsOf (m : Match) (r : Rule) (window : UInt32) (message : String) : Prop where
  message_eq : m.message = Text.trim message.toList
  searched_eq : m.searched = Text.lowerAscii m.message
  trace_eq : r.pattern.find m.searched = some m.trace
  confidence_eq : m.confidence = r.confidence
  window_eq : m.window = window

theorem firstVerdict_asked {window : UInt32} {searched message : List Char} {rs : List Rule}
    {v : Verdict} (h : firstVerdict window searched message rs = some v) :
    ∃ r ∈ rs, v.rule = r.name ∧ r.ask window searched message = some v.command := by
  induction rs with
  | nil => simp [firstVerdict] at h
  | cons r later ih =>
    rw [firstVerdict] at h
    split at h
    · next command hask =>
      obtain rfl := Option.some.inj h
      exact ⟨r, by simp, rfl, hask⟩
    · obtain ⟨r, hr, hv⟩ := ih h
      exact ⟨r, List.mem_cons_of_mem _ hr, hv⟩

/-- A verdict is what the rule that it names made of a match. -/
theorem classify_built {window : UInt32} {message : String} {v : Verdict}
    (h : classify window message = some v) :
    ∃ r ∈ rules, v.rule = r.name ∧ ∃ m : Match, m.IsOf r window message ∧ r.build m = v.command := by
  unfold classify classifyBy at h
  simp only at h
  split at h
  · simp at h
  · obtain ⟨r, hr, hname, hask⟩ := firstVerdict_asked h
    obtain ⟨trace, htrace, hbuild⟩ := Option.map_eq_some_iff.1 hask
    exact ⟨r, hr, hname, _, ⟨rfl, rfl, htrace, rfl, rfl⟩, hbuild⟩

theorem Match.IsOf.unique {m n : Match} {r : Rule} {window : UInt32} {message : String}
    (hm : m.IsOf r window message) (hn : n.IsOf r window message) : m = n := by
  have hmessage : m.message = n.message := hm.message_eq.trans hn.message_eq.symm
  have hsearched : m.searched = n.searched := by rw [hm.searched_eq, hn.searched_eq, hmessage]
  have htrace : m.trace = n.trace :=
    Option.some.inj (hm.trace_eq.symm.trans (hsearched ▸ hn.trace_eq))
  have hconfidence : m.confidence = n.confidence := hm.confidence_eq.trans hn.confidence_eq.symm
  have hwindow : m.window = n.window := hm.window_eq.trans hn.window_eq.symm
  cases m
  cases n
  simp_all

/-- The name of a rule tells the rule. -/
theorem rule_eq_of_name {r r' : Rule} (hr : r ∈ rules) (hr' : r' ∈ rules) (h : r.name = r'.name) :
    r = r' :=
  List.inj_on_of_nodup_map (show (rules.map Rule.name).Nodup by decide) hr hr' h

/-- A verdict that names a rule is what this rule made of a match. -/
theorem classify_match {window : UInt32} {message : String} {r : Rule} (hr : r ∈ rules)
    {command : Option Command} (h : classify window message = some ⟨r.name, command⟩) :
    ∃ m : Match, m.IsOf r window message ∧ r.build m = command := by
  obtain ⟨r', hr', hname, hbuilt⟩ := classify_built h
  obtain rfl := rule_eq_of_name hr hr' hname
  exact hbuilt

/-- **A command of the classifier was built by a rule.** -/
theorem command?_built {window : UInt32} {message : String} {c : Command}
    (h : command? window message = some c) :
    ∃ r ∈ rules, ∃ m : Match, m.IsOf r window message ∧ r.build m = some c := by
  obtain ⟨v, hv, hc⟩ := Option.bind_eq_some_iff.1 h
  obtain ⟨r, hr, -, m, hm, hbuild⟩ := classify_built hv
  exact ⟨r, hr, m, hm, hbuild.trans hc⟩

/-! ### Confidences -/

def confidences : List Confidence := [explicit, singleValue, relative, embedded, vague]

theorem clamped_of_mem : ∀ x ∈ confidences, x.clamped = x := by decide +kernel

theorem rule_confidence : ∀ r ∈ rules, r.confidence ∈ confidences := by
  simp [rules, addRule, removeRule, confidences]

section Builders

variable {m : Match} {c : Command} (hm : m.confidence ∈ confidences)
include hm

theorem command_confidence (action : Action) (target : Target) :
    (m.command action target).confidence ∈ confidences := by
  have hclamped := clamped_of_mem m.confidence hm
  simpa [Match.command, Command.withConfidence, hclamped] using hm

theorem buildAgeRange_confidence (h : buildAgeRange m = some c) : c.confidence ∈ confidences := by
  obtain ⟨a, -, h⟩ := Option.bind_eq_some_iff.1 h
  obtain ⟨b, -, h⟩ := Option.bind_eq_some_iff.1 h
  obtain ⟨range, -, h⟩ := Option.bind_eq_some_iff.1 h
  obtain rfl := Option.some.inj h
  exact command_confidence hm .set .age

theorem buildSingleAge_confidence (h : buildSingleAge m = some c) : c.confidence ∈ confidences := by
  obtain ⟨a, -, h⟩ := Option.bind_eq_some_iff.1 h
  obtain ⟨range, -, h⟩ := Option.bind_eq_some_iff.1 h
  obtain rfl := Option.some.inj h
  exact command_confidence hm .set .age

theorem buildRelative_confidence (d : Direction) (h : buildRelative d m = some c) :
    c.confidence ∈ confidences := by
  obtain rfl := Option.some.inj h
  exact command_confidence hm .update .age

theorem buildTrait_confidence (h : buildTrait m = some c) : c.confidence ∈ confidences := by
  obtain ⟨word, -, h⟩ := Option.bind_eq_some_iff.1 h
  obtain ⟨trait, -, h⟩ := Option.bind_eq_some_iff.1 h
  obtain ⟨text, -, h⟩ := Option.bind_eq_some_iff.1 h
  obtain rfl := Option.some.inj h
  have hchosen : (if (m.word? 1).isSome then explicit else m.confidence) ∈ confidences := by
    split
    · exact List.mem_cons_self
    · exact hm
  rw [Command.withConfidence, clamped_of_mem _ hchosen]
  exact hchosen

theorem buildEdit_confidence (action : Action) (shelf : Shelf) (h : buildEdit action shelf m = some c) :
    c.confidence ∈ confidences := by
  obtain ⟨text, -, h⟩ := Option.bind_eq_some_iff.1 h
  obtain rfl := Option.some.inj h
  exact command_confidence hm action (Target.ofShelf shelf)

theorem buildGeneral_confidence (h : buildGeneral m = some c) : c.confidence ∈ confidences := by
  have hembedded : embedded ∈ confidences := by simp [confidences]
  unfold buildGeneral at h
  split at h
  · obtain rfl := Option.some.inj h
    rw [Command.withConfidence, clamped_of_mem _ hembedded]
    exact hembedded
  · obtain rfl := Option.some.inj h
    exact command_confidence hm .update .primaryPersona

/-- Every rule gives its commands one of the five confidences. -/
theorem build_confidence {r : Rule} (hr : r ∈ rules) (h : r.build m = some c) :
    c.confidence ∈ confidences := by
  simp only [rules, List.mem_cons, List.not_mem_nil, or_false] at hr
  rcases hr with rfl | rfl | rfl | rfl | rfl | rfl | rfl | rfl | rfl | rfl | rfl | rfl | rfl | rfl
  · exact buildAgeRange_confidence hm h
  · exact buildSingleAge_confidence hm h
  · exact buildRelative_confidence hm _ h
  · exact buildRelative_confidence hm _ h
  · exact buildTrait_confidence hm h
  · exact buildEdit_confidence hm _ _ h
  · exact buildEdit_confidence hm _ _ h
  · exact buildEdit_confidence hm _ _ h
  · exact buildEdit_confidence hm _ _ h
  · exact buildEdit_confidence hm _ _ h
  · exact buildEdit_confidence hm _ _ h
  · exact buildEdit_confidence hm _ _ h
  · exact buildEdit_confidence hm _ _ h
  · exact buildGeneral_confidence hm h

end Builders

/-- **The classifier gives its commands one of five confidences.** -/
theorem command?_confidence {window : UInt32} {message : String} {c : Command}
    (h : command? window message = some c) : c.confidence ∈ confidences := by
  obtain ⟨r, hr, m, hm, hbuild⟩ := command?_built h
  exact build_confidence (hm.confidence_eq ▸ rule_confidence r hr) hr hbuild

end PersonaDialogue.Intent
