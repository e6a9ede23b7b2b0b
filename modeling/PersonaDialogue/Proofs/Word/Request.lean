import PersonaDialogue.Proofs.Intent.RangeRequest
import PersonaDialogue.Proofs.Word.Age

/-!
# No arithmetic loses anything

Three rules read numbers from a message, and one of them makes a range around a number.  Here these builders
work in words, and asking the rules one after the other keeps a list of all their operations (`WorkingRule`).
The texts of the groups have at most three digits, since the builder is given a match of its rule.  Together
with the commands, which carry any ages and bounds that 32 bits can hold, there is no arithmetic left that
could overflow, or lose a value on the way into another word (`arithmetic_loses_nothing`).
-/

namespace PersonaDialogue.Intent

open Worked

/-! ### Builders -/

section Builders

variable {α β : Type} {m : Match}

/-- One result after the other, where any may be missing. -/
theorem ensures_bind_option {w : OptionT Worked α} {f : α → OptionT Worked β} {x : Option α}
    {g : α → Option β} (hw : w.run.Ensures (· = x)) (hf : ∀ a, x = some a → (f a).run.Ensures (· = g a)) :
    (w >>= f).run.Ensures (· = x.bind g) := by
  rw [OptionT.run_bind, Option.elimM]
  refine hw.bind ?_
  rintro x rfl
  cases x with
  | none => exact ensures_pure rfl
  | some a => exact hf a rfl

def Match.numberInWords? (m : Match) (index : Nat) : OptionT Worked UInt32 := do
  let digits ← OptionT.mk (return m.trace.text? index)
  OptionT.mk (read digits)

theorem Match.numberInWords?_ensures {index : Nat} {digits : List Char}
    (htext : m.trace.text? index = some digits) (hlength : digits.length ≤ 3) :
    (m.numberInWords? index).run.Ensures (· = m.number? index) := by
  rw [Match.number?, Option.bind_assoc]
  refine ensures_bind_option (ensures_pure rfl) fun s hs => ?_
  obtain rfl := Option.some.inj (htext.symm.trans hs)
  exact ensures_read hlength

def Match.rangeInWords? (m : Match) : OptionT Worked AgeRange := do
  let a ← m.numberInWords? 1
  let b ← m.numberInWords? 2
  OptionT.mk (return AgeRange.between? a b)

theorem Match.rangeInWords?_ensures {s : List Char} (h : MarksNumbers s m.trace) :
    m.rangeInWords?.run.Ensures
      (· = (m.number? 1).bind fun a => (m.number? 2).bind fun b => AgeRange.between? a b) := by
  obtain ⟨r, r', -, ⟨hlength, hlength'⟩, htext, htext'⟩ := h
  refine ensures_bind_option (m.numberInWords?_ensures htext hlength) fun a _ => ?_
  refine ensures_bind_option (m.numberInWords?_ensures htext' hlength') fun b _ => ?_
  exact ensures_pure rfl

def buildAgeRangeInWords (m : Match) : Worked (Option Command) := do
  return (← m.rangeInWords?.run).map m.setRange

theorem buildAgeRangeInWords_ensures (h : ageRange.find m.searched = some m.trace) :
    (buildAgeRangeInWords m).Ensures (· = buildAgeRange m) := by
  refine (m.rangeInWords?_ensures (marksNumbers_of_ageRange h)).bind ?_
  rintro _ rfl
  refine ensures_pure ?_
  rw [buildAgeRange]
  cases m.number? 1 with
  | none => rfl
  | some a =>
    cases m.number? 2 with
    | none => rfl
    | some b => cases hrange : AgeRange.between? a b <;> simp [hrange]

def buildSingleAgeInWords (m : Match) : Worked (Option Command) := OptionT.run do
  let age ← m.numberInWords? 1
  let range ← OptionT.mk (AgeRange.aroundInWords? age m.window)
  return m.setRange range

theorem buildSingleAgeInWords_ensures (h : singleAge.find m.searched = some m.trace) :
    (buildSingleAgeInWords m).Ensures (· = buildSingleAge m) := by
  obtain ⟨r, hlength, htext⟩ := marksNumber_of_singleAge h
  refine ensures_bind_option (m.numberInWords?_ensures htext hlength) fun age _ => ?_
  refine ensures_bind_option (AgeRange.aroundInWords?_ensures age m.window) fun range _ => ?_
  exact ensures_pure rfl

/-- A range found in the message, or else a general update of the primary persona. -/
def buildGeneralInWords (m : Match) : Worked (Option Command) := do
  let lowered := Text.lowerAscii m.message
  let range ← OptionT.run do
    let trace ← OptionT.mk (return embeddedRange.find lowered)
    let found : Match := ⟨lowered, trace, lowered, embedded, 0⟩
    found.rangeInWords?
  match range with
  | some range => return some ((m.setRange range).withConfidence embedded)
  | none => return some (m.command .update .primaryPersona)

theorem buildGeneralInWords_ensures (m : Match) : (buildGeneralInWords m).Ensures (· = buildGeneral m) := by
  have hrange : (OptionT.run do
      let trace ← OptionT.mk (return embeddedRange.find (Text.lowerAscii m.message))
      let found : Match := ⟨Text.lowerAscii m.message, trace, Text.lowerAscii m.message, embedded, 0⟩
      found.rangeInWords? : Worked (Option AgeRange)).Ensures
        (· = embeddedRange? (Text.lowerAscii m.message)) := by
    refine ensures_bind_option (ensures_pure rfl) fun trace htrace => ?_
    exact Match.rangeInWords?_ensures (marksNumbers_of_embeddedRange htrace)
  refine hrange.bind ?_
  rintro _ rfl
  rw [buildGeneral]
  cases embeddedRange? (Text.lowerAscii m.message) with
  | none => exact ensures_pure rfl
  | some range => exact ensures_pure rfl

end Builders

/-! ### Rules -/

/-- A rule with a builder that works in words. -/
structure WorkingRule where
  rule : Rule
  build : Match → Worked (Option Command)

namespace WorkingRule

/-- A rule whose builder makes no operation on numbers. -/
def plain (r : Rule) : WorkingRule := ⟨r, fun m => return r.build m⟩

def ask (r : WorkingRule) (window : UInt32) (searched message : List Char) :
    Worked (Option (Option Command)) :=
  match r.rule.pattern.find searched with
  | none => return none
  | some trace => return some (← r.build ⟨searched, trace, message, r.rule.confidence, window⟩)

/-- In words the rule builds the same of every match of its pattern, and by safe operations. -/
def IsFaithful (r : WorkingRule) : Prop :=
  ∀ m : Match, r.rule.pattern.find m.searched = some m.trace → (r.build m).Ensures (· = r.rule.build m)

theorem IsFaithful.ask_ensures {r : WorkingRule} (h : r.IsFaithful) (window : UInt32)
    (searched message : List Char) :
    (r.ask window searched message).Ensures (· = r.rule.ask window searched message) := by
  rw [ask, Rule.ask]
  cases htrace : r.rule.pattern.find searched with
  | none => exact ensures_pure rfl
  | some trace =>
    refine (h ⟨searched, trace, message, r.rule.confidence, window⟩ htrace).bind ?_
    rintro _ rfl
    exact ensures_pure rfl

end WorkingRule

open WorkingRule

def workingRules : List WorkingRule :=
  [⟨ageRangeRule, buildAgeRangeInWords⟩, ⟨singleAgeRule, buildSingleAgeInWords⟩] ++
    (ageRules.drop 2 ++ Edit.all.map Edit.rule).map plain ++ [⟨generalRule, buildGeneralInWords⟩]

theorem workingRules_map_rule : workingRules.map WorkingRule.rule = rules := rfl

theorem isFaithful_of_mem {r : WorkingRule} (h : r ∈ workingRules) : r.IsFaithful := by
  rw [workingRules, List.mem_append, List.mem_append, List.mem_singleton] at h
  rcases h with (h | h) | rfl
  · rcases List.mem_cons.1 h with rfl | h
    · exact fun m hm => buildAgeRangeInWords_ensures hm
    · obtain rfl := List.mem_singleton.1 h
      exact fun m hm => buildSingleAgeInWords_ensures hm
  · obtain ⟨r, -, rfl⟩ := List.mem_map.1 h
    exact fun m _ => ensures_pure rfl
  · exact fun m _ => buildGeneralInWords_ensures m

/-- Asks one rule after the other in words, until a pattern matches. -/
def firstVerdictInWords (window : UInt32) (searched message : List Char) :
    List WorkingRule → Worked (Option Verdict)
  | [] => return none
  | r :: later => do
    match ← r.ask window searched message with
    | some command => return some ⟨r.rule.name, command⟩
    | none => firstVerdictInWords window searched message later

theorem firstVerdictInWords_ensures (window : UInt32) (searched message : List Char) {rs : List WorkingRule}
    (h : ∀ r ∈ rs, r.IsFaithful) :
    (firstVerdictInWords window searched message rs).Ensures
      (· = firstVerdict window searched message (rs.map WorkingRule.rule)) := by
  induction rs with
  | nil => exact ensures_pure rfl
  | cons r later ih =>
    rw [List.map_cons, firstVerdict]
    refine ((h r List.mem_cons_self).ask_ensures window searched message).bind ?_
    rintro _ rfl
    cases r.rule.ask window searched message with
    | none => exact ih fun r hr => h r (List.mem_cons_of_mem _ hr)
    | some command => exact ensures_pure rfl

/-- The verdict of the rules on a message, worked out in words. -/
def classifyInWords (window : UInt32) (message : String) : Worked (Option Verdict) :=
  let trimmed := Text.trim message.toList
  if trimmed.isEmpty then return none
  else firstVerdictInWords window (Text.lowerAscii trimmed) trimmed workingRules

theorem classifyInWords_ensures (window : UInt32) (message : String) :
    (classifyInWords window message).Ensures (· = classify window message) := by
  rw [classify, classifyBy, classifyInWords]
  by_cases hempty : (Text.trim message.toList).isEmpty = true
  · rw [if_pos hempty, if_pos hempty]
    exact ensures_pure rfl
  · rw [if_neg hempty, if_neg hempty, ← workingRules_map_rule]
    exact firstVerdictInWords_ensures window _ _ fun r hr => isFaithful_of_mem hr

/-- **No arithmetic overflows, and no value is lost on the way into another word.**  Worked out in words, every
command has its effect on every canvas, every rule builds what it builds of every match in every text, and every
message gets its verdict; and every operation behind that is exact and made on what ages allow.  No bound is asked
of the ages and ranges on the canvas and in the command, of the step or of the window. -/
theorem arithmetic_loses_nothing (settings : EditSettings) (fresh : Uuid) (c : Command) (canvas : Canvas)
    (window : UInt32) (message : String) :
    (c.applyInWords settings fresh canvas).Ensures (· = c.apply settings fresh canvas) ∧
    (classifyInWords window message).Ensures (· = classify window message) ∧
    workingRules.map WorkingRule.rule = rules ∧
    ∀ r ∈ workingRules, ∀ searched written : List Char,
      (r.ask window searched written).Ensures (· = r.rule.ask window searched written) :=
  ⟨c.applyInWords_ensures settings fresh canvas, classifyInWords_ensures window message, workingRules_map_rule,
    fun _ hr searched written => (isFaithful_of_mem hr).ask_ensures window searched written⟩

/-- The greatest step from the greatest age, the greatest bounds, the greatest ages that have a middle, and the
greatest window. -/
theorem arithmetic_loses_nothing_at_extremes :
    let settings : EditSettings := ⟨4294967295, .medium⟩
    let canvas := (Canvas.default fun n => ⟨BitVec.ofNat 128 n⟩).withPersona .primary
      { Persona.defaultPrimary with
        age := 4294967295
        demographics := { Persona.defaultPrimary.demographics with ageRange := ⟨4294967295, 0⟩ } }
    let older := ((Command.of .change .age "").withOperand (.relative .increase)).applyInWords settings ⟨0⟩ canvas
    let greatest := ((Command.of .set .age "").withOperand (.ageRange ⟨4294967295, 4294967295⟩)).applyInWords
      settings ⟨0⟩ canvas
    let old := ((Command.of .set .age "").withOperand (.ageRange ⟨119, 120⟩)).applyInWords settings ⟨0⟩ canvas
    let stated := classifyInWords 4294967295 "Age is 100"
    older.operations.length = 10 ∧ greatest.operations = [] ∧ old.operations = [.add 119 120, .add 239 1] ∧
      stated.operations = [.read ['1', '0', '0'], .lessen 100 4294967295, .raise 100 4294967295] ∧
      ∀ o ∈ older.operations ++ greatest.operations ++ old.operations ++ stated.operations, o.IsSafe := by
  intro settings canvas older greatest old stated
  have hall (c : Command) := arithmetic_loses_nothing settings ⟨0⟩ c canvas 4294967295 "Age is 100"
  refine ⟨by decide +kernel, by decide +kernel, by decide +kernel, by decide +kernel, ?_⟩
  simp only [List.forall_mem_append]
  exact ⟨⟨⟨(hall _).1.safe, (hall _).1.safe⟩, (hall _).1.safe⟩, (hall (Command.of .set .age "")).2.1.safe⟩

end PersonaDialogue.Intent
