import PersonaDialogue.Proofs.Age.Range
import PersonaDialogue.Proofs.Session.Run

/-!
# The age stays in its range

A persona *has its age in range* when the age lies between the bounds of its age range and the upper
bound is at most the greatest age.  Every command keeps this of the primary persona, whatever its parts
and the settings are, and so does every move of a session.
-/

namespace PersonaDialogue

/-- The age lies in the age range, which does not exceed the greatest age. -/
def Persona.AgeInRange (p : Persona) : Prop :=
  p.demographics.ageRange.min ≤ p.age ∧ p.age ≤ p.demographics.ageRange.max ∧
    p.demographics.ageRange.max ≤ maxAge

namespace Persona

variable {p : Persona}

theorem withAgeRange_ageInRange {r : AgeRange} (h : r.isValid = true) :
    (p.withAgeRange r).AgeInRange :=
  ⟨AgeRange.min_le_midpoint h, AgeRange.midpoint_le_max h, (AgeRange.isValid_iff.1 h).2⟩

theorem aged_ageInRange (h : p.AgeInRange) (years : Int) : (p.aged years).AgeInRange := by
  obtain ⟨hmin, hmax, -⟩ := h
  exact ⟨shiftAge_mono hmin years, shiftAge_mono hmax years, shiftAge_le_maxAge _ years⟩

theorem withTrait_ageInRange (h : p.AgeInRange) (t : Trait) (text : String) :
    (p.withTrait t text).AgeInRange := by
  cases t <;> exact h

end Persona

theorem Canvas.default_ageInRange (fresh : Nat → Uuid) :
    (Canvas.default fresh).primary.AgeInRange := by
  refine ⟨?_, ?_, ?_⟩ <;> simp only [Canvas.default, Persona.defaultPrimary] <;> decide

/-! ### Commands -/

namespace Command

variable {canvas : Canvas} (c : Command) (settings : EditSettings)

theorem applyToAge_ageInRange (h : canvas.primary.AgeInRange) :
    (c.applyToAge settings canvas).primary.AgeInRange := by
  unfold applyToAge
  split
  · split
    · exact Persona.withAgeRange_ageInRange ‹_›
    · exact h
  · exact Persona.aged_ageInRange h _
  · exact Persona.aged_ageInRange h _
  · exact h

theorem applyToPersona_ageInRange (h : canvas.primary.AgeInRange) (rank : Rank) :
    (c.applyToPersona rank canvas).primary.AgeInRange := by
  have hwith : ∀ t s, (canvas.withPersona rank
      ((canvas.persona rank).withTrait t s)).primary.AgeInRange := by
    intro t s
    cases rank with
    | primary => exact Persona.withTrait_ageInRange h t s
    | secondary => exact h
  unfold applyToPersona
  split
  · exact hwith _ _
  · exact hwith _ _
  · exact hwith _ _
  · exact h

theorem applyToShelf_primary (fresh : Uuid) (shelf : Shelf) :
    (c.applyToShelf settings fresh shelf canvas).primary = canvas.primary := by
  unfold applyToShelf
  split
  · cases shelf <;> rfl
  · cases shelf <;> rfl
  · rfl

/-- **Every command keeps the age in its range.** -/
theorem apply_ageInRange (fresh : Uuid) (h : canvas.primary.AgeInRange) :
    (c.apply settings fresh canvas).primary.AgeInRange := by
  unfold apply
  cases c.target.subject with
  | age => exact c.applyToAge_ageInRange settings h
  | persona rank => exact c.applyToPersona_ageInRange h rank
  | shelf shelf =>
    simp only
    rw [applyToShelf_primary]
    exact h

end Command

/-! ### Sessions -/

namespace Session

/-- What a message does to the canvas is the effect of a command, if anything. -/
theorem send_canvas (s : Session) (clock : Clock) (message : String) :
    (s.send clock message).1.canvas = s.canvas ∨ ∃ settings fresh command,
      (s.send clock message).1.canvas = Command.apply settings fresh command s.canvas := by
  rcases s.send_cases clock message with ⟨⟨refusal, hsend⟩, -⟩ | ⟨hsend, -⟩
  · exact .inl (by rw [hsend])
  · rw [hsend]
    cases hcmd : (s.conversation.turnFor message s.canvas).command with
    | none => exact .inl (by simp [answer, Conversation.complete_canvas, Conversation.outcome, hcmd])
    | some command =>
      exact .inr ⟨_, _, command, by
        simp [answer, Conversation.complete_canvas, Conversation.outcome, hcmd]; rfl⟩

theorem abandon_canvas (s : Session) (clock : Clock) (message : String) (canvas : Canvas) :
    (s.abandon clock message canvas).canvas = s.canvas := by
  unfold abandon
  split <;> rfl

theorem move_ageInRange {s : Session} (h : s.canvas.primary.AgeInRange) (m : Move) :
    (s.move m).canvas.primary.AgeInRange := by
  cases m with
  | talk t =>
    cases t with
    | send clock message =>
      rcases s.send_canvas clock message with he | ⟨settings, fresh, command, he⟩
      · simp only [move, talk, he]
        exact h
      · simp only [move, talk, he]
        exact command.apply_ageInRange settings fresh h
    | abandon clock message canvas =>
      simp only [move, talk, abandon_canvas]
      exact h
  | reset => exact Canvas.default_ageInRange _
  | edit settings fresh command => exact command.apply_ageInRange settings fresh h

theorem run_ageInRange {s : Session} (h : s.canvas.primary.AgeInRange) (ms : List Move) :
    (s.run ms).canvas.primary.AgeInRange := by
  induction ms generalizing s with
  | nil => exact h
  | cons m ms ih => exact ih (move_ageInRange h m)

/-- **Whatever happens to a session, the age of the primary persona stays in its range.**  The default
canvas begins so. -/
theorem ageInRange_of_start :
    (∀ fresh, (Canvas.default fresh).primary.AgeInRange) ∧
      ∀ (settings : Settings) (supply : Supply) (canvas : Canvas),
        canvas.primary.AgeInRange → ∀ ms : List Move,
          ((startWith settings supply canvas).run ms).canvas.primary.AgeInRange :=
  ⟨Canvas.default_ageInRange, fun _ _ _ h ms => run_ageInRange h ms⟩

/-- A persona of 120 years, the greatest step, a range out of order and a reset. -/
theorem ageInRange_of_start_extreme :
    let supply : Supply := .ofStream fun n => ⟨BitVec.ofNat 128 n⟩
    let oldest : Persona := { Persona.defaultPrimary with
      age := 120, demographics := { Persona.defaultPrimary.demographics with ageRange := ⟨7, 120⟩ } }
    let canvas : Canvas := { Canvas.default supply.ahead with primary := oldest }
    let change (operand : Operand) (action : Action) : Move :=
      .edit ⟨4294967295, .low⟩ ⟨0⟩ ((Command.of action .age "").withOperand operand)
    canvas.primary.AgeInRange ∧
      ((startWith .default supply canvas).run
        [change (.relative .increase) .update, change (.ageRange ⟨4294967295, 3⟩) .set, .reset,
          change (.relative .decrease) .change]).canvas.primary.AgeInRange :=
  ⟨⟨by decide, by decide, by decide⟩,
    ageInRange_of_start.2 _ _ _ ⟨by decide, by decide, by decide⟩ _⟩

end Session

end PersonaDialogue
