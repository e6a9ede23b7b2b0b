import PersonaDialogue.Intent.Classify
import PersonaDialogue.Proofs.Intent.Edit

/-!
# Which rule decides

The verdict on a message is that of the first rule that applies (`classifyBy_eq`).  Since at most one
edit applies to a text, the rules about edits could stand in any order among themselves, and a message
that one of them reads is decided by it or by a rule about ages, which are asked before
(`edits_in_any_order`).
-/

namespace PersonaDialogue.Intent

/-- What a rule on its own says of a message, if it applies. -/
def Rule.verdict (r : Rule) (window : UInt32) (searched message : List Char) : Option Verdict :=
  (r.ask window searched message).map fun command => ⟨r.name, command⟩

/-- The text of a message that patterns are matched against. -/
def searchedText (message : String) : List Char := Text.lowerAscii (Text.trim message.toList)

section Verdicts

variable {window : UInt32} {searched message : List Char} {r : Rule}

theorem Rule.verdict_isSome : (r.verdict window searched message).isSome = r.applies searched := by
  simp [Rule.verdict, Rule.ask, Rule.applies]

theorem Rule.verdict_name {v : Verdict} (h : r.verdict window searched message = some v) :
    v.rule = r.name := by
  obtain ⟨command, -, rfl⟩ := Option.map_eq_some_iff.1 h
  rfl

theorem firstVerdict_eq (rs : List Rule) : firstVerdict window searched message rs =
    (rs.find? (·.applies searched)).bind (·.verdict window searched message) := by
  induction rs with
  | nil => rfl
  | cons r later ih =>
    rw [firstVerdict, List.find?_cons, Rule.applies]
    cases hfind : r.pattern.find searched with
    | none => simpa [Rule.ask, hfind] using ih
    | some trace => simp [Rule.ask, Rule.verdict, hfind]

theorem classifyBy_eq (rs : List Rule) (message : String) : classifyBy rs window message =
    if Text.trim message.toList = [] then none
    else (rs.find? (·.applies (searchedText message))).bind
      (·.verdict window (searchedText message) (Text.trim message.toList)) := by
  simp only [classifyBy, firstVerdict_eq, List.isEmpty_iff]
  rfl

end Verdicts

/-- The first element that satisfies `p` is the only one that does. -/
theorem find?_eq_some_of_only {α : Type} {p : α → Bool} {l : List α} {a : α} (ha : a ∈ l)
    (hpa : p a = true) (honly : ∀ b ∈ l, p b = true → b = a) : l.find? p = some a := by
  obtain ⟨b, hb⟩ := Option.isSome_iff_exists.1 (List.find?_isSome.2 ⟨a, ha, hpa⟩)
  rw [hb, honly b (List.mem_of_find?_eq_some hb) (List.find?_some hb)]

/-! ### Edits -/

section Edits

variable {searched : List Char} {e : Edit} {edits : List Rule}

/-- A text that an edit reads is decided by a rule about ages, or else by the rule of the edit. -/
theorem find?_of_applies (h : e.rule.applies searched = true)
    (hperm : edits.Perm (Edit.all.map Edit.rule)) :
    (ageRules ++ edits ++ [generalRule]).find? (·.applies searched) =
      some ((ageRules.find? (·.applies searched)).getD e.rule) := by
  have hmem : e.rule ∈ edits := hperm.mem_iff.2 (List.mem_map_of_mem e.mem_all)
  have honly : ∀ r ∈ edits, r.applies searched = true → r = e.rule := by
    intro r hr hr'
    obtain ⟨f, -, rfl⟩ := List.mem_map.1 (hperm.mem_iff.1 hr)
    rw [Edit.eq_of_applies hr' h]
  rw [List.find?_append, List.find?_append, find?_eq_some_of_only hmem h honly]
  cases ageRules.find? (·.applies searched) <;> rfl

/-- Rules about edits that are asked in another order come to the same rule. -/
theorem find?_of_perm (hperm : edits.Perm (Edit.all.map Edit.rule)) :
    (ageRules ++ edits ++ [generalRule]).find? (·.applies searched) =
      rules.find? (·.applies searched) := by
  rw [rules_eq]
  by_cases h : ∃ e : Edit, e.rule.applies searched = true
  · obtain ⟨e, he⟩ := h
    rw [find?_of_applies he hperm, find?_of_applies he (.refl _)]
  · have hnone : ∀ l : List Rule, l.Perm (Edit.all.map Edit.rule) →
        l.find? (·.applies searched) = none := by
      intro l hl
      refine List.find?_eq_none.2 fun r hr happlies => ?_
      obtain ⟨f, -, rfl⟩ := List.mem_map.1 (hl.mem_iff.1 hr)
      exact h ⟨f, happlies⟩
    rw [List.find?_append, List.find?_append, List.find?_append, List.find?_append, hnone _ hperm,
      hnone _ (.refl _)]

theorem trim_ne_nil_of_applies {message : String} (h : e.rule.applies (searchedText message) = true) :
    Text.trim message.toList ≠ [] := by
  intro hnil
  obtain ⟨polite, verb, g, rest, heq, -, -, hg⟩ := Edit.opens_of_applies h
  rw [searchedText, hnil] at heq
  have hlen := congrArg List.length heq
  have hpos := List.length_pos_iff.2 hg.1
  simp [Text.lowerAscii] at hlen
  omega

/-- A message that an edit reads has the verdict of a rule about ages, or else that of the edit. -/
theorem classify_of_applies {message : String} (window : UInt32)
    (h : e.rule.applies (searchedText message) = true) :
    ∃ v, classify window message = some v ∧
      v.rule = ((ageRules.find? (·.applies (searchedText message))).getD e.rule).name := by
  have hrule : ((ageRules.find? (·.applies (searchedText message))).getD e.rule).applies
      (searchedText message) = true := by
    cases hage : ageRules.find? (·.applies (searchedText message)) with
    | none => exact h
    | some r => exact List.find?_some (p := fun r : Rule => r.applies (searchedText message)) hage
  obtain ⟨v, hv⟩ := Option.isSome_iff_exists.1 (Rule.verdict_isSome.trans hrule)
  refine ⟨v, ?_, Rule.verdict_name hv⟩
  rw [classify, classifyBy_eq, if_neg (trim_ne_nil_of_applies h), rules_eq,
    find?_of_applies h (.refl _), Option.bind_some, hv]

/-- No two rules share a name: neither two edits, nor an edit and one of the other rules. -/
theorem names_apart :
    (∀ e ∈ Edit.all, ∀ f ∈ Edit.all, e ≠ f → e.rule.name ≠ f.rule.name) ∧
      (∀ r ∈ ageRules, ∀ f ∈ Edit.all, r.name ≠ f.rule.name) ∧
      (∀ r ∈ ageRules, r.name ≠ generalRule.name) ∧
      ∀ e ∈ Edit.all, e.rule.name ≠ generalRule.name := by decide

/-- **The rules about edits exclude one another**, so that they may be asked in any order.  At most one
of them applies to a text, and only if the text begins with one of its own verbs, but for a `please`;
a message that one of them reads is decided by it or by a rule about ages, and by no other. -/
theorem edits_in_any_order :
    (∀ (s : List Char) (e f : Edit), e.rule.applies s = true → f.rule.applies s = true → e = f) ∧
    (∀ (s : List Char) (e : Edit), e.rule.applies s = true → e.Opens s) ∧
    ∀ (window : UInt32) (message : String),
      (∀ edits : List Rule, edits.Perm (Edit.all.map Edit.rule) →
        classifyBy (ageRules ++ edits ++ [generalRule]) window message = classify window message) ∧
      ∀ e : Edit, e.rule.applies (searchedText message) = true →
        ∃ v, classify window message = some v ∧
          (v.rule = e.rule.name ∨ v.rule ∈ ageRules.map Rule.name) ∧
          (∀ f : Edit, f ≠ e → v.rule ≠ f.rule.name) ∧ v.rule ≠ generalRule.name := by
  refine ⟨fun s e f he hf => Edit.eq_of_applies he hf, fun s e he => Edit.opens_of_applies he,
    fun window message => ⟨fun edits hperm => ?_, fun e he => ?_⟩⟩
  · rw [classify, classifyBy_eq, classifyBy_eq, find?_of_perm hperm]
  · obtain ⟨hedits, hages, hlast, hlast'⟩ := names_apart
    obtain ⟨v, hv, hname⟩ := classify_of_applies window he
    refine ⟨v, hv, ?_⟩
    rw [hname]
    cases hage : ageRules.find? (·.applies (searchedText message)) with
    | none =>
      exact ⟨.inl rfl, fun f hne => hedits e e.mem_all f f.mem_all hne.symm, hlast' e e.mem_all⟩
    | some r =>
      have hr : r ∈ ageRules := List.mem_of_find?_eq_some hage
      exact ⟨.inr (List.mem_map_of_mem hr), fun f _ => hages r hr f f.mem_all, hlast r hr⟩

/-- A polite removal whose operand would set a name, with the rules about edits asked in reverse. -/
theorem edits_in_any_order_polite :
    let message := "Please drop the jobs-to-be-done: set name to Sam"
    let edits := (Edit.all.map Edit.rule).reverse
    (Edit.remove .jobs).rule.applies (searchedText message) = true ∧
      (∀ f : Edit, f.rule.applies (searchedText message) = true → .remove .jobs = f) ∧
      (Edit.remove .jobs).Opens (searchedText message) ∧
      classifyBy (ageRules ++ edits ++ [generalRule]) 5 message = classify 5 message ∧
      ∃ v, classify 5 message = some v ∧
        (v.rule = "jtbd_remove" ∨ v.rule ∈ ageRules.map Rule.name) ∧
        (∀ f : Edit, f ≠ .remove .jobs → v.rule ≠ f.rule.name) ∧ v.rule ≠ generalRule.name := by
  intro message edits
  have happlies : (Edit.remove .jobs).rule.applies (searchedText message) = true := by decide +kernel
  obtain ⟨hone, hopens, hverdict⟩ := edits_in_any_order
  obtain ⟨horder, hdecided⟩ := hverdict 5 message
  exact ⟨happlies, fun f hf => hone _ _ f happlies hf, hopens _ _ happlies,
    horder edits (List.reverse_perm _), hdecided _ happlies⟩

end Edits

end PersonaDialogue.Intent
