import PersonaDialogue.Proofs.Command.Reply

/-!
# What a command leaves alone

Commands write to thirteen *slots* of a canvas: the age of the primary persona with its age range, the
four traits of either persona, and the four collections.  A command addresses at most one of them, and
the canvas after it agrees with the canvas before outside that slot (`Command.apply_staysIn`).
-/

namespace PersonaDialogue

/-- A part of the canvas that a command may write to. -/
inductive Slot
  /-- The age of the primary persona and its age range. -/
  | age
  | trait (rank : Rank) (trait : Trait)
  | shelf (shelf : Shelf)
deriving DecidableEq, Repr

/-- Is the second canvas the first one, except for what a slot holds? -/
structure Canvas.AgreeOutside (slot : Slot) (a b : Canvas) : Prop where
  age : ∀ rank, slot ≠ .age ∨ rank = .secondary → (b.persona rank).age = (a.persona rank).age
  ageRange : ∀ rank, slot ≠ .age ∨ rank = .secondary →
    (b.persona rank).demographics.ageRange = (a.persona rank).demographics.ageRange
  trait : ∀ rank t, slot ≠ .trait rank t → (b.persona rank).trait t = (a.persona rank).trait t
  location : ∀ rank, (b.persona rank).demographics.location = (a.persona rank).demographics.location
  income : ∀ rank, (b.persona rank).demographics.income = (a.persona rank).demographics.income
  education : ∀ rank,
    (b.persona rank).demographics.education = (a.persona rank).demographics.education
  environment : ∀ rank, (b.persona rank).environment = (a.persona rank).environment
  elements : ∀ shelf, slot ≠ .shelf shelf → b.elements shelf = a.elements shelf

/-! ### Parts of a canvas -/

theorem Persona.trait_withTrait_of_ne {p : Persona} {t u : Trait} (h : u ≠ t) (text : String) :
    (p.withTrait t text).trait u = p.trait u := by
  cases t <;> cases u <;> simp_all [withTrait, trait]

namespace Canvas

variable {a b c : Canvas} {slot other : Slot}

theorem ext_parts (hpersona : ∀ rank, b.persona rank = a.persona rank)
    (helements : ∀ shelf, b.elements shelf = a.elements shelf) : b = a := by
  have hprimary := hpersona .primary
  have hsecondary := hpersona .secondary
  have hpain := helements .painPoints
  have hjobs := helements .jobs
  have hstages := helements .stages
  have hbehaviors := helements .behaviors
  cases a
  cases b
  simp_all [persona, elements]

theorem persona_withPersona_of_ne {rank other : Rank} (h : other ≠ rank) (p : Persona) :
    (c.withPersona rank p).persona other = c.persona other := by
  cases rank <;> cases other <;> simp_all [withPersona, persona]

theorem elements_append_of_ne {shelf another : Shelf} (h : another ≠ shelf) (id text : String)
    (priority : Priority) : (c.append shelf id text priority).elements another = c.elements another := by
  cases shelf <;> cases another <;> first | rfl | exact absurd rfl h

theorem elements_removeMentioning_of_ne {shelf another : Shelf} (h : another ≠ shelf)
    (needle : String) :
    (c.removeMentioning shelf needle).elements another = c.elements another := by
  cases shelf <;> cases another <;> first | rfl | exact absurd rfl h

theorem AgreeOutside.refl (slot : Slot) (a : Canvas) : a.AgreeOutside slot a :=
  ⟨fun _ _ => rfl, fun _ _ => rfl, fun _ _ _ => rfl, fun _ => rfl, fun _ => rfl, fun _ => rfl,
    fun _ => rfl, fun _ _ => rfl⟩

/-! ### Writing to a slot -/

/-- A primary persona that differs in its age and its age range only. -/
theorem withPersona_agreeOutside_age (c : Canvas) (age : UInt32) (range : AgeRange) :
    c.AgreeOutside .age (c.withPersona .primary { c.primary with
      age := age, demographics := { c.primary.demographics with ageRange := range } }) where
  age rank h := by
    cases rank with
    | primary => simp at h
    | secondary => rfl
  ageRange rank h := by
    cases rank with
    | primary => simp at h
    | secondary => rfl
  trait rank t _ := by cases rank <;> cases t <;> rfl
  location rank := by cases rank <;> rfl
  income rank := by cases rank <;> rfl
  education rank := by cases rank <;> rfl
  environment rank := by cases rank <;> rfl
  elements shelf _ := by cases shelf <;> rfl

theorem withTrait_agreeOutside (c : Canvas) (rank : Rank) (t : Trait) (text : String) :
    c.AgreeOutside (.trait rank t) (c.withPersona rank ((c.persona rank).withTrait t text)) where
  age other _ := by cases rank <;> cases other <;> cases t <;> rfl
  ageRange other _ := by cases rank <;> cases other <;> cases t <;> rfl
  trait other u h := by
    by_cases hrank : other = rank
    · subst hrank
      rw [persona_withPersona, Persona.trait_withTrait_of_ne]
      rintro rfl
      exact h rfl
    · rw [persona_withPersona_of_ne hrank]
  location other := by cases rank <;> cases other <;> cases t <;> rfl
  income other := by cases rank <;> cases other <;> cases t <;> rfl
  education other := by cases rank <;> cases other <;> cases t <;> rfl
  environment other := by cases rank <;> cases other <;> cases t <;> rfl
  elements shelf _ := by cases rank <;> cases shelf <;> rfl

/-- A canvas with the same personas and the same elements in all collections but one. -/
theorem agreeOutside_shelf {shelf : Shelf} (hprimary : b.primary = a.primary)
    (hsecondary : b.secondary = a.secondary)
    (helements : ∀ other, other ≠ shelf → b.elements other = a.elements other) :
    a.AgreeOutside (.shelf shelf) b := by
  have hpersona : ∀ rank, b.persona rank = a.persona rank := by
    intro rank
    cases rank with
    | primary => exact hprimary
    | secondary => exact hsecondary
  exact {
    age := fun rank _ => by rw [hpersona]
    ageRange := fun rank _ => by rw [hpersona]
    trait := fun rank t _ => by rw [hpersona]
    location := fun rank => by rw [hpersona]
    income := fun rank => by rw [hpersona]
    education := fun rank => by rw [hpersona]
    environment := fun rank => by rw [hpersona]
    elements := fun other hne => helements other fun he => hne (by rw [he]) }

theorem append_agreeOutside (c : Canvas) (shelf : Shelf) (id text : String) (priority : Priority) :
    c.AgreeOutside (.shelf shelf) (c.append shelf id text priority) := by
  refine agreeOutside_shelf ?_ ?_ fun other hne => elements_append_of_ne hne id text priority
  · cases shelf <;> rfl
  · cases shelf <;> rfl

theorem removeMentioning_agreeOutside (c : Canvas) (shelf : Shelf) (needle : String) :
    c.AgreeOutside (.shelf shelf) (c.removeMentioning shelf needle) := by
  refine agreeOutside_shelf ?_ ?_ fun other hne => elements_removeMentioning_of_ne hne needle
  · cases shelf <;> rfl
  · cases shelf <;> rfl

end Canvas

/-! ### Commands -/

namespace Command

/-- The slot that a command addresses.  A command about a persona that names no trait addresses none. -/
def slot? (c : Command) : Option Slot :=
  match c.target.subject with
  | .age => some .age
  | .persona rank => c.trait.map (.trait rank)
  | .shelf shelf => some (.shelf shelf)

/-- The combinations of subject, action, operand and trait that ask for something. -/
inductive Asks : Subject → Action → Option Operand → Option Trait → Prop
  | range (r : AgeRange) (t : Option Trait) : Asks .age .set (some (.ageRange r)) t
  | relative (a : Action) (ha : a = .update ∨ a = .change) (d : Direction) (t : Option Trait) :
    Asks .age a (some (.relative d)) t
  | rewrite (rank : Rank) (a : Action) (ha : a = .update ∨ a = .change ∨ a = .set) (s : String)
    (t : Trait) : Asks (.persona rank) a (some (.text s)) (some t)
  | add (shelf : Shelf) (s : String) (t : Option Trait) : Asks (.shelf shelf) .add (some (.text s)) t
  | remove (shelf : Shelf) (s : String) (t : Option Trait) :
    Asks (.shelf shelf) .remove (some (.text s)) t

/-- **A command stays in its slot**: how the canvas after it may differ from the canvas before. -/
structure StaysIn (c : Command) (before after : Canvas) : Prop where
  /-- Nothing changes outside the slot that the command addresses. -/
  outside : ∀ slot, c.slot? = some slot → before.AgreeOutside slot after
  /-- A command that addresses no slot changes nothing. -/
  astray : c.slot? = none → after = before
  /-- No command changes the age of the secondary persona. -/
  secondary : after.secondary.age = before.secondary.age ∧
    after.secondary.demographics.ageRange = before.secondary.demographics.ageRange
  /-- An addition puts one element behind the others. -/
  added : ∀ shelf s, c.target.subject = .shelf shelf → c.action = .add → c.operand = some (.text s) →
    ∃ x, after.elements shelf = before.elements shelf ++ [x]
  /-- Any other command about a collection keeps some of its elements, as they are and in order. -/
  kept : ∀ shelf, c.target.subject = .shelf shelf → ¬ (c.action = .add ∧ ∃ s, c.operand = some (.text s)) →
    (after.elements shelf).Sublist (before.elements shelf)
  /-- A combination that asks for nothing changes nothing. -/
  idle : ¬ Asks c.target.subject c.action c.operand c.trait → after = before

variable (c : Command) (settings : EditSettings) (fresh : Uuid) (canvas : Canvas)

theorem applyToAge_agreeOutside : canvas.AgreeOutside .age (c.applyToAge settings canvas) := by
  unfold applyToAge
  split
  · split
    · exact canvas.withPersona_agreeOutside_age _ _
    · exact .refl _ _
  · exact canvas.withPersona_agreeOutside_age _ _
  · exact canvas.withPersona_agreeOutside_age _ _
  · exact .refl _ _

theorem applyToPersona_agreeOutside (rank : Rank) {t : Trait} (ht : c.trait = some t) :
    canvas.AgreeOutside (.trait rank t) (c.applyToPersona rank canvas) := by
  unfold applyToPersona
  rw [ht]
  split
  · next s u _ _ hu =>
    obtain rfl := Option.some.inj hu
    exact canvas.withTrait_agreeOutside rank t s
  · next s u _ _ hu =>
    obtain rfl := Option.some.inj hu
    exact canvas.withTrait_agreeOutside rank t s
  · next s u _ _ hu =>
    obtain rfl := Option.some.inj hu
    exact canvas.withTrait_agreeOutside rank t s
  · exact .refl _ _

theorem applyToPersona_of_none (rank : Rank) (ht : c.trait = none) :
    c.applyToPersona rank canvas = canvas := by
  unfold applyToPersona
  rw [ht]
  split <;> simp_all

theorem applyToShelf_agreeOutside (shelf : Shelf) :
    canvas.AgreeOutside (.shelf shelf) (c.applyToShelf settings fresh shelf canvas) := by
  unfold applyToShelf
  split
  · exact canvas.append_agreeOutside ..
  · exact canvas.removeMentioning_agreeOutside ..
  · exact .refl _ _

theorem applyToShelf_sublist (shelf : Shelf)
    (h : ¬ (c.action = .add ∧ ∃ s, c.operand = some (.text s))) :
    ((c.applyToShelf settings fresh shelf canvas).elements shelf).Sublist (canvas.elements shelf) := by
  unfold applyToShelf
  split
  · next s ha ho => exact absurd ⟨ha, s, ho⟩ h
  · rw [Canvas.elements_removeMentioning]
    exact List.filter_sublist
  · exact .refl _

theorem apply_agreeOutside {slot : Slot} (h : c.slot? = some slot) :
    canvas.AgreeOutside slot (c.apply settings fresh canvas) := by
  unfold slot? at h
  unfold apply
  cases hsubject : c.target.subject with
  | age =>
    rw [hsubject] at h
    obtain rfl := Option.some.inj h
    exact c.applyToAge_agreeOutside settings canvas
  | persona rank =>
    rw [hsubject] at h
    obtain ⟨t, ht, rfl⟩ := Option.map_eq_some_iff.1 h
    exact c.applyToPersona_agreeOutside canvas rank ht
  | shelf shelf =>
    rw [hsubject] at h
    obtain rfl := Option.some.inj h
    exact c.applyToShelf_agreeOutside settings fresh canvas shelf

theorem apply_of_slot_none (h : c.slot? = none) : c.apply settings fresh canvas = canvas := by
  unfold slot? at h
  unfold apply
  cases hsubject : c.target.subject with
  | age => simp [hsubject] at h
  | persona rank =>
    rw [hsubject] at h
    exact c.applyToPersona_of_none canvas rank (Option.map_eq_none_iff.1 h)
  | shelf shelf => simp [hsubject] at h

theorem apply_of_not_asks (h : ¬ Asks c.target.subject c.action c.operand c.trait) :
    c.apply settings fresh canvas = canvas := by
  unfold apply
  cases hsubject : c.target.subject with
  | age =>
    rw [hsubject] at h
    simp only [applyToAge]
    split
    · next r ha ho => exact absurd (ha ▸ ho ▸ .range r _) h
    · next d ha ho => exact absurd (ha ▸ ho ▸ .relative .update (.inl rfl) d _) h
    · next d ha ho => exact absurd (ha ▸ ho ▸ .relative .change (.inr rfl) d _) h
    · rfl
  | persona rank =>
    rw [hsubject] at h
    simp only [applyToPersona]
    split
    · next s t ha ho ht => exact absurd (ha ▸ ho ▸ ht ▸ .rewrite rank .update (by simp) s t) h
    · next s t ha ho ht => exact absurd (ha ▸ ho ▸ ht ▸ .rewrite rank .change (by simp) s t) h
    · next s t ha ho ht => exact absurd (ha ▸ ho ▸ ht ▸ .rewrite rank .set (by simp) s t) h
    · rfl
  | shelf shelf =>
    rw [hsubject] at h
    simp only [applyToShelf]
    split
    · next s ha ho => exact absurd (ha ▸ ho ▸ .add shelf s _) h
    · next s ha ho => exact absurd (ha ▸ ho ▸ .remove shelf s _) h
    · rfl

/-- **Whatever a command is and whatever the settings are, it stays in its slot.** -/
theorem apply_staysIn : c.StaysIn canvas (c.apply settings fresh canvas) where
  outside slot h := c.apply_agreeOutside settings fresh canvas h
  astray h := c.apply_of_slot_none settings fresh canvas h
  secondary := by
    cases hslot : c.slot? with
    | none => rw [c.apply_of_slot_none settings fresh canvas hslot]; exact ⟨rfl, rfl⟩
    | some slot =>
      have h := c.apply_agreeOutside settings fresh canvas hslot
      exact ⟨h.age .secondary (.inr rfl), h.ageRange .secondary (.inr rfl)⟩
  added shelf s hsubject ha ho := by
    have happly : c.apply settings fresh canvas =
        canvas.append shelf (shelf.newId fresh) s settings.painPointPriority := by
      simp [apply, applyToShelf, hsubject, ha, ho]
    obtain ⟨x, -, hx⟩ := Canvas.elements_append (shelf.newId fresh) s settings.painPointPriority
    exact ⟨x, by rw [happly, hx]⟩
  kept shelf hsubject h := by
    unfold apply
    rw [hsubject]
    exact c.applyToShelf_sublist settings fresh canvas shelf h
  idle h := c.apply_of_not_asks settings fresh canvas h

end Command

end PersonaDialogue
