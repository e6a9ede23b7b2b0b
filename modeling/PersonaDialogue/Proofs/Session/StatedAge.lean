import PersonaDialogue.Proofs.Age.Range
import PersonaDialogue.Proofs.Session.Verbatim

/-!
# The age after a statement of an age

A message that states one age sets the age range of the primary persona to the years around it, and its age
to the middle of that range.  Where the range is cut off at 0 or at 120 on one side, its middle moves away
from the stated age (`age_after_statement`): with a window of five years, whoever is said to be 118 is 117
afterwards (`stated_age_not_kept`).
-/

namespace PersonaDialogue

open Intent

namespace Intent

def singleAgeRule : Rule := ⟨"single_age", singleAge, singleValue, buildSingleAge⟩

theorem singleAgeRule_mem : singleAgeRule ∈ rules :=
  List.mem_cons_of_mem _ List.mem_cons_self

/-- A message that is decided by the rule for a single age, and states an age, sets the range around it. -/
theorem command?_of_statement {window : UInt32} {message : String} {command : Option Command} {m : Match}
    {n : UInt32} (hverdict : classify window message = some ⟨"single_age", command⟩)
    (hm : m.IsOf singleAgeRule window message) (hn : m.number? 1 = some n) (hle : n.toNat ≤ 120) :
    ∃ range, AgeRange.around? n window = some range ∧
      command? window message = some (m.setRange range) := by
  obtain ⟨m', hm', hbuild⟩ := classify_match singleAgeRule_mem hverdict
  obtain rfl := hm'.unique hm
  obtain ⟨range, hrange⟩ := AgeRange.exists_around? hle window
  refine ⟨range, hrange, ?_⟩
  have hcommand : command = some (m'.setRange range) := by
    rw [← hbuild]
    simp [singleAgeRule, buildSingleAge, hn, hm.window_eq, hrange]
  rw [command?, hverdict, hcommand]
  rfl

end Intent

theorem Command.apply_setRange (m : Match) {range : AgeRange} (h : range.isValid = true)
    (settings : EditSettings) (fresh : Uuid) (canvas : Canvas) :
    ((m.setRange range).apply settings fresh canvas).primary = canvas.primary.withAgeRange range := by
  have heffect : (m.setRange range).effect = .setRange range := rfl
  rw [Command.apply_eq, heffect, Effect.on, if_pos h]
  rfl

/-- **After a statement of a single age the persona has the age in the middle of the years around it**, as
far as these lie between 0 and 120.  This is the stated age if and only if the years around it begin no
earlier than 0 and end no later than 121, or the stated age is 60. -/
theorem age_after_statement {s : Session} {message : String} {command : Option Command} {m : Match}
    {n : UInt32} (hidle : s.conversation.processing = false)
    (hverdict : classify s.conversation.settings.ageWindow message = some ⟨"single_age", command⟩)
    (hm : m.IsOf singleAgeRule s.conversation.settings.ageWindow message) (hn : m.number? 1 = some n)
    (hle : n.toNat ≤ 120) (clock : Clock) :
    let window := s.conversation.settings.ageWindow.toNat
    let age := (s.send clock message).1.canvas.primary.age
    age.toNat = (n.toNat - window + Nat.min (n.toNat + window) 120 + 1) / 2 ∧
      (age = n ↔ window ≤ n.toNat ∧ n.toNat + window ≤ 121 ∨ n.toNat = 60) := by
  intro window age
  obtain ⟨range, hrange, hcommand⟩ := command?_of_statement hverdict hm hn hle
  obtain ⟨-, fresh, -, -, -, -, hcanvas⟩ := Session.send_of_command hidle hcommand clock
  have hage : age = range.midpoint := by
    show (s.send clock message).1.canvas.primary.age = range.midpoint
    rw [hcanvas, Command.apply_setRange m (AgeRange.isValid_of_around? hrange)]
    rfl
  rw [hage]
  exact ⟨AgeRange.midpoint_of_around? hrange, AgeRange.midpoint_of_around?_eq_iff hrange⟩

/-- The greatest age that is kept with a window of five years. -/
theorem age_after_statement_kept :
    let s := Session.start .default (.ofStream fun n => ⟨BitVec.ofNat 128 n⟩)
    let now : Instant := ⟨⟨2024, 1, 1⟩, 9, 0, 0, 0⟩
    let message := " Her AGE is about 116!"
    let c : Command :=
      ⟨.set, .age, none, some (.ageRange ⟨111, 120⟩), singleValue, "Her AGE is about 116!"⟩
    let m : Match := ⟨"her age is about 116!".toList, [.enter 1 "116!".toList, .leave 1 ['!']],
      "Her AGE is about 116!".toList, singleValue, 5⟩
    s.conversation.processing = false ∧ classify 5 message = some ⟨"single_age", some c⟩ ∧
      m.IsOf singleAgeRule 5 message ∧ m.number? 1 = some 116 ∧
      (s.send now message).1.canvas.primary.age = 116 := by
  intro s now message c m
  have hverdict : classify 5 message = some ⟨"single_age", some c⟩ := by decide +kernel
  have hm : m.IsOf singleAgeRule 5 message :=
    ⟨by decide +kernel, by decide +kernel, by decide +kernel, rfl, rfl⟩
  have hn : m.number? 1 = some 116 := by decide +kernel
  have h := age_after_statement (s := s) rfl hverdict hm hn (by decide) now
  exact ⟨rfl, hverdict, hm, hn, h.2.2 (by decide)⟩

/-- **With a window of five years, a stated age of 118 becomes 117.** -/
theorem stated_age_not_kept :
    let s := Session.start .default (.ofStream fun n => ⟨BitVec.ofNat 128 n⟩)
    let now : Instant := ⟨⟨2024, 1, 1⟩, 9, 0, 0, 0⟩
    let message := "age is 118"
    let m : Match := ⟨message.toList, [.enter 1 "118".toList, .leave 1 []], message.toList, singleValue, 5⟩
    s.conversation.processing = false ∧ s.conversation.settings.ageWindow = 5 ∧
      (classify 5 message).map Verdict.rule = some "single_age" ∧
      m.IsOf singleAgeRule 5 message ∧ m.number? 1 = some 118 ∧
      (s.send now message).1.canvas.primary.age = 117 := by
  intro s now message m
  have hm : m.IsOf singleAgeRule 5 message :=
    ⟨by decide +kernel, by decide +kernel, by decide +kernel, rfl, rfl⟩
  exact ⟨rfl, rfl, by decide +kernel, hm, by decide +kernel, by decide +kernel⟩

end PersonaDialogue
