import PersonaDialogue.Proofs.Command.Frame

/-!
# What a slot holds

Each slot of the canvas can be read (`Canvas.content`) and written (`Canvas.withContent`): what was written
is read, what was read may be written back, a second writing covers the first, and two writings to different
slots may change places.  A command reads nothing but the slot that it addresses and writes nothing else
(`Command.apply_eq_revise`).  So what commands do to one another is settled by what they do to the content
of a single slot.
-/

namespace PersonaDialogue

/-- What a slot holds. -/
abbrev Slot.Content : Slot → Type
  | .age => UInt32 × AgeRange
  | .trait _ _ => String
  | .shelf s => List s.Element

namespace Canvas

def withElements (c : Canvas) : (shelf : Shelf) → List shelf.Element → Canvas
  | .painPoints, xs => { c with painPoints := xs }
  | .jobs, xs => { c with jobs := xs }
  | .behaviors, xs => { c with behaviors := xs }
  | .stages, xs => { c with stages := xs }

def content (c : Canvas) : (slot : Slot) → slot.Content
  | .age => (c.primary.age, c.primary.demographics.ageRange)
  | .trait rank t => (c.persona rank).trait t
  | .shelf shelf => c.elements shelf

def withContent (c : Canvas) : (slot : Slot) → slot.Content → Canvas
  | .age, (age, range) => c.withPersona .primary { c.primary with
      age := age, demographics := { c.primary.demographics with ageRange := range } }
  | .trait rank t, text => c.withPersona rank ((c.persona rank).withTrait t text)
  | .shelf shelf, xs => c.withElements shelf xs

end Canvas

/-! ### Reading and writing -/

namespace Persona

variable (p : Persona)

theorem withTrait_trait (t : Trait) : p.withTrait t (p.trait t) = p := by
  cases t <;> rfl

theorem withTrait_withTrait (t : Trait) (s s' : String) :
    (p.withTrait t s).withTrait t s' = p.withTrait t s' := by
  cases t <;> rfl

theorem withTrait_comm {t u : Trait} (h : t ≠ u) (s s' : String) :
    (p.withTrait t s).withTrait u s' = (p.withTrait u s').withTrait t s := by
  cases t <;> cases u <;> first | rfl | exact absurd rfl h

end Persona

namespace Canvas

variable (c : Canvas)

theorem withPersona_persona (rank : Rank) : c.withPersona rank (c.persona rank) = c := by
  cases rank <;> rfl

theorem withPersona_withPersona (rank : Rank) (p q : Persona) :
    (c.withPersona rank p).withPersona rank q = c.withPersona rank q := by
  cases rank <;> rfl

theorem withPersona_comm {rank other : Rank} (h : rank ≠ other) (p q : Persona) :
    (c.withPersona rank p).withPersona other q = (c.withPersona other q).withPersona rank p := by
  cases rank <;> cases other <;> first | rfl | exact absurd rfl h

theorem withElements_comm {shelf other : Shelf} (h : shelf ≠ other) (xs : List shelf.Element)
    (ys : List other.Element) :
    (c.withElements shelf xs).withElements other ys = (c.withElements other ys).withElements shelf xs := by
  cases shelf <;> cases other <;> first | rfl | exact absurd rfl h

/-- What was written to a slot is read there. -/
theorem content_withContent (slot : Slot) (x : slot.Content) : (c.withContent slot x).content slot = x := by
  cases slot with
  | age => rfl
  | trait rank t =>
    simp only [content, withContent]
    rw [persona_withPersona, Persona.trait_withTrait]
  | shelf shelf => cases shelf <;> rfl

theorem elements_withContent (shelf : Shelf) (xs : List shelf.Element) :
    (c.withContent (.shelf shelf) xs).elements shelf = xs := c.content_withContent (.shelf shelf) xs

/-- What was read in a slot may be written back. -/
theorem withContent_content (slot : Slot) : c.withContent slot (c.content slot) = c := by
  cases slot with
  | age => rfl
  | trait rank t =>
    simp only [content, withContent]
    rw [Persona.withTrait_trait, withPersona_persona]
  | shelf shelf => cases shelf <;> rfl

/-- A second writing to a slot covers the first. -/
theorem withContent_withContent (slot : Slot) (x y : slot.Content) :
    (c.withContent slot x).withContent slot y = c.withContent slot y := by
  cases slot with
  | age => rfl
  | trait rank t =>
    simp only [withContent]
    rw [persona_withPersona, Persona.withTrait_withTrait, withPersona_withPersona]
  | shelf shelf => cases shelf <;> rfl

/-- Writings to two slots may change places. -/
theorem withContent_comm {slot other : Slot} (h : slot ≠ other) (x : slot.Content) (y : other.Content) :
    (c.withContent slot x).withContent other y = (c.withContent other y).withContent slot x := by
  cases slot with
  | age =>
    cases other with
    | age => exact absurd rfl h
    | trait rank t => cases rank <;> cases t <;> rfl
    | shelf shelf => cases shelf <;> rfl
  | trait rank t =>
    cases other with
    | age => cases rank <;> cases t <;> rfl
    | trait rank' t' =>
      simp only [withContent]
      by_cases hrank : rank = rank'
      · subst hrank
        have htrait : t ≠ t' := fun ht => h (by rw [ht])
        rw [persona_withPersona, withPersona_withPersona, persona_withPersona, withPersona_withPersona,
          Persona.withTrait_comm _ htrait]
      · rw [persona_withPersona_of_ne (Ne.symm hrank), persona_withPersona_of_ne hrank,
          withPersona_comm _ hrank]
    | shelf shelf => cases rank <;> cases shelf <;> rfl
  | shelf shelf =>
    cases other with
    | age => cases shelf <;> rfl
    | trait rank t => cases rank <;> cases shelf <;> rfl
    | shelf shelf' => exact c.withElements_comm (fun hs => h (by rw [hs])) x y

/-- Canvases that agree outside one slot hold the same in every other one. -/
theorem AgreeOutside.content_eq {a b : Canvas} {slot other : Slot} (h : a.AgreeOutside slot b)
    (hne : slot ≠ other) : b.content other = a.content other := by
  cases other with
  | age => exact Prod.ext (h.age .primary (.inl hne)) (h.ageRange .primary (.inl hne))
  | trait rank t => exact h.trait rank t hne
  | shelf shelf => exact h.elements shelf hne

end Canvas

/-! ### What commands make of a slot -/

def Shelf.element (id text : String) (priority : Priority) : (shelf : Shelf) → shelf.Element
  | .painPoints => (⟨id, text, priority⟩ : PainPoint)
  | .jobs => (⟨id, text⟩ : Job)
  | .behaviors => (⟨id, text⟩ : Behavior)
  | .stages => (⟨id, text, ""⟩ : Stage)

namespace Canvas

variable (c : Canvas)

theorem append_eq (shelf : Shelf) (id text : String) (priority : Priority) :
    c.append shelf id text priority =
      c.withContent (.shelf shelf) (c.elements shelf ++ [shelf.element id text priority]) := by
  cases shelf <;> rfl

theorem removeMentioning_eq (shelf : Shelf) (needle : String) :
    c.removeMentioning shelf needle = c.withContent (.shelf shelf)
      ((c.elements shelf).filter fun x => !mentions needle (shelf.textOf x)) := by
  cases shelf <;> rfl

end Canvas

namespace Effect

variable (settings : EditSettings) (fresh : Uuid)

/-- The slot that an effect is about. -/
def slot? : Effect → Option Slot
  | setRange _ => some .age
  | shift _ => some .age
  | rewrite rank trait _ => trait.map (.trait rank)
  | add shelf _ => some (.shelf shelf)
  | remove shelf _ => some (.shelf shelf)
  | nothing => none

/-- What an effect makes of the content of the slot that it is about. -/
def revise : Effect → (slot : Slot) → slot.Content → slot.Content
  | setRange r, .age, x => if r.isValid then (r.midpoint, r) else x
  | shift d, .age, (age, range) =>
    (shiftAge age (d.years settings.ageStep), range.shifted (d.years settings.ageStep))
  | rewrite _ _ s, .trait _ _, _ => s
  | add _ s, .shelf shelf, xs =>
    xs ++ [shelf.element (shelf.newId fresh) s settings.painPointPriority]
  | remove _ s, .shelf shelf, xs => xs.filter fun x => !Canvas.mentions s (shelf.textOf x)
  | _, _, x => x

variable {settings fresh}

theorem revise_nothing (slot : Slot) (x : slot.Content) : nothing.revise settings fresh slot x = x := by
  cases slot <;> rfl

theorem on_eq_revise {e : Effect} {slot : Slot} (h : e.slot? = some slot) (c : Canvas) :
    e.on settings fresh c = c.withContent slot (e.revise settings fresh slot (c.content slot)) := by
  cases e with
  | setRange r =>
    obtain rfl := Option.some.inj h
    rw [on, revise]
    split
    · rfl
    · exact (c.withContent_content .age).symm
  | shift d =>
    obtain rfl := Option.some.inj h
    rfl
  | rewrite rank trait s =>
    obtain ⟨t, rfl, rfl⟩ := Option.map_eq_some_iff.1 h
    rfl
  | add shelf s =>
    obtain rfl := Option.some.inj h
    exact c.append_eq shelf _ s _
  | remove shelf s =>
    obtain rfl := Option.some.inj h
    exact c.removeMentioning_eq shelf s
  | nothing => cases h

end Effect

namespace Command

variable {c : Command} {slot : Slot} (settings : EditSettings) (fresh : Uuid) (canvas : Canvas)

theorem slot?_eq_age_iff : c.slot? = some .age ↔ c.target = .age := by
  obtain ⟨action, target, trait, operand, confidence, raw⟩ := c
  cases target <;> simp [slot?, Target.subject]

theorem slot?_eq_trait_iff {rank : Rank} {t : Trait} :
    c.slot? = some (.trait rank t) ↔ c.target = .ofRank rank ∧ c.trait = some t := by
  obtain ⟨action, target, trait, operand, confidence, raw⟩ := c
  cases target <;> cases rank <;> simp [slot?, Target.subject, Target.ofRank]

/-- The effect of a command is about the slot that the command addresses, if it has any effect. -/
theorem effect_slot? (c : Command) : c.effect.slot? = c.slot? ∨ c.effect = .nothing := by
  unfold effect slot?
  split
  case h_9 => exact .inr rfl
  all_goals
    next hsubject _ _ => exact .inl (by rw [hsubject]; rfl)

/-- **A command reads and writes the slot that it addresses**, and nothing else. -/
theorem apply_eq_revise (h : c.slot? = some slot) :
    c.apply settings fresh canvas =
      canvas.withContent slot (c.effect.revise settings fresh slot (canvas.content slot)) := by
  rw [apply_eq]
  rcases c.effect_slot? with hslot | hnothing
  · exact Effect.on_eq_revise (hslot.trans h) canvas
  · rw [hnothing, Effect.revise_nothing, Canvas.withContent_content]
    rfl

/-- What the slot of a command holds afterwards. -/
theorem content_apply (h : c.slot? = some slot) :
    (c.apply settings fresh canvas).content slot =
      c.effect.revise settings fresh slot (canvas.content slot) := by
  rw [apply_eq_revise settings fresh canvas h, Canvas.content_withContent]

/-- Every other slot holds what it held. -/
theorem content_apply_of_ne (h : c.slot? ≠ some slot) :
    (c.apply settings fresh canvas).content slot = canvas.content slot := by
  cases hslot : c.slot? with
  | none => rw [c.apply_of_slot_none settings fresh canvas hslot]
  | some other =>
    refine (c.apply_agreeOutside settings fresh canvas hslot).content_eq fun he => h ?_
    rw [hslot, he]

end Command

end PersonaDialogue
