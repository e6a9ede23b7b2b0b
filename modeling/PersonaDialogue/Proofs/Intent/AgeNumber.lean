import PersonaDialogue.Proofs.Age.Range
import PersonaDialogue.Proofs.Intent.Arbitration
import PersonaDialogue.Proofs.Intent.Number
import PersonaDialogue.Proofs.Intent.Verdict

/-!
# Ages are complete numbers of the message

A command to set the age comes from one of three rules: two of them take a range between two numbers of
the message, one takes the years around a single number.  Each of these numbers is a complete number of
the message as it was written, never a part of a longer one, with one to three ASCII digits and a value of
at most 120 (`ages_from_complete_numbers`).
-/

namespace PersonaDialogue.Intent

open Text (DigitRun IsAscii decimalValue)

variable {s : List Char} {m : Match} {c : Command} {range : AgeRange}

/-- The range lies between two ages of the text. -/
def BetweenAges (s : List Char) (range : AgeRange) : Prop :=
  ∃ (r r' : DigitRun s) (a b : Nat), r.Precedes r' ∧ r.IsAge a ∧ r'.IsAge b ∧
    range.min.toNat = Nat.min a b ∧ range.max.toNat = Nat.max a b

/-- The range lies around one age of the text. -/
def AroundAge (s : List Char) (window : UInt32) (range : AgeRange) : Prop :=
  ∃ (r : DigitRun s) (n : Nat), r.IsAge n ∧ range.min.toNat = n - window.toNat ∧
    range.max.toNat = Nat.min (n + window.toNat) 120

/-- The number of a group is the value of the ASCII digits that the group marks. -/
theorem Match.number?_eq_some {index : Nat} {a : UInt32} (h : m.number? index = some a) :
    ∃ digits, m.trace.text? index = some digits ∧ IsAscii digits ∧ decimalValue digits = a.toNat := by
  obtain ⟨n, hn, hfits⟩ := Option.bind_eq_some_iff.1 h
  obtain ⟨digits, htext, hnumber⟩ := Option.bind_eq_some_iff.1 hn
  obtain ⟨hlt, ha⟩ := Option.ite_none_right_eq_some.1 hfits
  obtain rfl := Option.some.inj ha
  obtain ⟨-, hascii, rfl⟩ := Text.number?_eq_some_iff.1 hnumber
  refine ⟨digits, htext, hascii, ?_⟩
  rw [UInt32.toNat_ofNat', Nat.mod_eq_of_lt hlt]

/-- A group of ASCII digits has a number, if the number is not too great. -/
theorem Match.number?_of_digits {index : Nat} {digits : List Char}
    (htext : m.trace.text? index = some digits) (hne : digits ≠ []) (hascii : IsAscii digits)
    (hlt : decimalValue digits < UInt32.size) :
    m.number? index = some (UInt32.ofNat (decimalValue digits)) := by
  have hnumber : Text.number? digits = some (decimalValue digits) :=
    Text.number?_eq_some_iff.2 ⟨hne, hascii, rfl⟩
  simp [Match.number?, htext, hnumber, hlt]

/-- A number that a group marks, if it is not too great, is an age of the message. -/
theorem Match.isAge_of_number? {index : Nat} {a : UInt32} (h : m.number? index = some a)
    (hle : a.toNat ≤ 120) {r : DigitRun (Text.lowerAscii s)} (htext : m.trace.text? index = some r.digits)
    (hlength : r.digits.length ≤ 3) {r' : DigitRun s} (hdigits : r'.digits = r.digits) :
    r'.IsAge a.toNat := by
  obtain ⟨digits, htext', hascii, hvalue⟩ := number?_eq_some h
  obtain rfl := Option.some.inj (htext.symm.trans htext')
  exact ⟨by rwa [hdigits], by rwa [hdigits], by rwa [hdigits], hle⟩

theorem betweenAges_of_marks (hmarks : MarksNumbers (Text.lowerAscii s) m.trace) {a b : UInt32}
    (ha : m.number? 1 = some a) (hb : m.number? 2 = some b) (hrange : AgeRange.between? a b = some range) :
    BetweenAges s range := by
  obtain ⟨x, y, horder, ⟨hx, hy⟩, htext, htext'⟩ := hmarks
  obtain ⟨x', hxdigits, hxbefore⟩ := x.exists_written
  obtain ⟨y', hydigits, hybefore⟩ := y.exists_written
  obtain ⟨hmin, hmax, hle⟩ := AgeRange.between?_toNat hrange
  have hale : a.toNat ≤ 120 := Nat.le_trans (Nat.le_max_left _ _) (hmax ▸ hle)
  have hble : b.toNat ≤ 120 := Nat.le_trans (Nat.le_max_right _ _) (hmax ▸ hle)
  refine ⟨x', y', a.toNat, b.toNat, ?_, Match.isAge_of_number? ha hale htext hx hxdigits,
    Match.isAge_of_number? hb hble htext' hy hydigits, hmin, hmax⟩
  rw [DigitRun.Precedes, hxbefore, hybefore, hxdigits]
  exact horder

theorem aroundAge_of_marks (hmarks : MarksNumber (Text.lowerAscii s) m.trace) {n : UInt32}
    (hn : m.number? 1 = some n) (hrange : AgeRange.around? n m.window = some range) :
    AroundAge s m.window range := by
  obtain ⟨r, hlength, htext⟩ := hmarks
  obtain ⟨r', hdigits, -⟩ := r.exists_written
  obtain ⟨hle, hmin, hmax⟩ := AgeRange.around?_toNat hrange
  exact ⟨r', n.toNat, Match.isAge_of_number? hn hle htext hlength hdigits, hmin, hmax⟩

/-! ### Builders -/

section Builders

theorem buildAgeRange_ages (hmarks : MarksNumbers (Text.lowerAscii s) m.trace) (h : buildAgeRange m = some c) :
    ∃ range, c.target = .age ∧ c.operand = some (.ageRange range) ∧ BetweenAges s range := by
  obtain ⟨a, ha, h⟩ := Option.bind_eq_some_iff.1 h
  obtain ⟨b, hb, h⟩ := Option.bind_eq_some_iff.1 h
  obtain ⟨range, hrange, h⟩ := Option.bind_eq_some_iff.1 h
  obtain rfl := Option.some.inj h
  exact ⟨range, rfl, rfl, betweenAges_of_marks hmarks ha hb hrange⟩

theorem buildSingleAge_ages (hmarks : MarksNumber (Text.lowerAscii s) m.trace) (h : buildSingleAge m = some c) :
    ∃ range, c.target = .age ∧ c.operand = some (.ageRange range) ∧ AroundAge s m.window range := by
  obtain ⟨n, hn, h⟩ := Option.bind_eq_some_iff.1 h
  obtain ⟨range, hrange, h⟩ := Option.bind_eq_some_iff.1 h
  obtain rfl := Option.some.inj h
  exact ⟨range, rfl, rfl, aroundAge_of_marks hmarks hn hrange⟩

/-- A general statement sets the age only to a range that it contains. -/
theorem buildGeneral_ages (haction : c.action = .set) (h : buildGeneral m = some c) :
    ∃ range, c.target = .age ∧ c.operand = some (.ageRange range) ∧ BetweenAges m.message range := by
  unfold buildGeneral at h
  split at h
  · next range hrange =>
    obtain rfl := Option.some.inj h
    obtain ⟨trace, htrace, hrange⟩ := Option.bind_eq_some_iff.1 hrange
    obtain ⟨a, ha, hrange⟩ := Option.bind_eq_some_iff.1 hrange
    obtain ⟨b, hb, hrange⟩ := Option.bind_eq_some_iff.1 hrange
    exact ⟨range, rfl, rfl, betweenAges_of_marks (marksNumbers_of_embeddedRange htrace) ha hb hrange⟩
  · obtain rfl := Option.some.inj h
    cases haction

theorem buildRelative_action {d : Direction} (h : buildRelative d m = some c) : c.action = .update := by
  obtain rfl := Option.some.inj h
  rfl

theorem buildTrait_action (h : buildTrait m = some c) : c.action = .update := by
  obtain ⟨word, -, h⟩ := Option.bind_eq_some_iff.1 h
  obtain ⟨trait, -, h⟩ := Option.bind_eq_some_iff.1 h
  obtain ⟨text, -, h⟩ := Option.bind_eq_some_iff.1 h
  obtain rfl := Option.some.inj h
  rfl

theorem buildEdit_action {action : Action} {shelf : Shelf} (h : buildEdit action shelf m = some c) :
    c.action = action := by
  obtain ⟨text, -, h⟩ := Option.bind_eq_some_iff.1 h
  obtain rfl := Option.some.inj h
  rfl

/-- No edit sets anything. -/
theorem Edit.build_action {e : Edit} (h : e.rule.build m = some c) : c.action ≠ .set := by
  cases e with
  | trait =>
    rw [buildTrait_action h]
    decide
  | add shelf =>
    have hadd : c.action = .add := by cases shelf <;> exact buildEdit_action h
    rw [hadd]
    decide
  | remove shelf =>
    have hremove : c.action = .remove := by cases shelf <;> exact buildEdit_action h
    rw [hremove]
    decide

end Builders

/-- **A command that sets something sets the age, to a range from complete numbers of the message.** -/
theorem ages_from_complete_numbers {window : UInt32} {message rule : String}
    (h : classify window message = some ⟨rule, some c⟩) (haction : c.action = .set) :
    ∃ range, c.target = .age ∧ c.operand = some (.ageRange range) ∧
      ((rule = "age_range" ∨ rule = "persona_generic") ∧ BetweenAges (Text.trim message.toList) range ∨
        rule = "single_age" ∧ AroundAge (Text.trim message.toList) window range) := by
  obtain ⟨r, hr, rfl, m, hm, hbuild⟩ := classify_built h
  obtain ⟨hmessage, hsearched, htrace, -, rfl⟩ := hm
  rw [hsearched] at htrace
  rw [← hmessage]
  rw [rules_eq, List.mem_append, List.mem_append, List.mem_singleton] at hr
  rcases hr with (hage | hedit) | rfl
  · simp only [ageRules, List.mem_cons, List.not_mem_nil, or_false] at hage
    rcases hage with rfl | rfl | rfl | rfl
    · obtain ⟨range, htarget, hrange, hages⟩ := buildAgeRange_ages (marksNumbers_of_ageRange htrace) hbuild
      exact ⟨range, htarget, hrange, .inl ⟨.inl rfl, hages⟩⟩
    · obtain ⟨range, htarget, hrange, hages⟩ := buildSingleAge_ages (marksNumber_of_singleAge htrace) hbuild
      exact ⟨range, htarget, hrange, .inr ⟨rfl, hages⟩⟩
    · cases (buildRelative_action hbuild).symm.trans haction
    · cases (buildRelative_action hbuild).symm.trans haction
  · obtain ⟨e, -, rfl⟩ := List.mem_map.1 hedit
    exact absurd haction (Edit.build_action hbuild)
  · obtain ⟨range, htarget, hrange, hages⟩ := buildGeneral_ages haction hbuild
    exact ⟨range, htarget, hrange, .inl ⟨.inr rfl, hages⟩⟩

/-- A year before the range, and the greater age first. -/
theorem ages_from_complete_numbers_reversed :
    let message := " In 2024, CHANGE ages to 42 - 07!"
    let c : Command := ⟨.set, .age, none, some (.ageRange ⟨7, 42⟩), explicit, "In 2024, CHANGE ages to 42 - 07!"⟩
    classify 5 message = some ⟨"age_range", some c⟩ ∧ c.action = .set ∧
      ∃ range, c.target = .age ∧ c.operand = some (.ageRange range) ∧
        (("age_range" = "age_range" ∨ "age_range" = "persona_generic") ∧
            BetweenAges (Text.trim message.toList) range ∨
          "age_range" = "single_age" ∧ AroundAge (Text.trim message.toList) 5 range) := by
  intro message c
  have h : classify 5 message = some ⟨"age_range", some c⟩ := by decide +kernel
  exact ⟨h, rfl, ages_from_complete_numbers h rfl⟩

end PersonaDialogue.Intent
