import PersonaDialogue.Canvas.Default
import PersonaDialogue.Proofs.Canvas.Document
import PersonaDialogue.Proofs.Command.Frame
import PersonaDialogue.Turn.Details

/-!
# When a command counts as having changed nothing

The journal compares fingerprints, not canvases.  Equal canvases have equal fingerprints whatever the hash
function is; the other way round rests on two facts: the bytes under a fingerprint tell a canvas from every
other one (`Canvas.compact_injective`), and the hash function does not collide on the two canvases at hand
(`Canvas.ToldApart`).  Which commands change nothing is settled effect by effect (`Effect.on_eq_iff`): a
range that is set already, a trait that reads so already, an age at its limit, a removal that finds
nothing.
-/

namespace PersonaDialogue

/-! ### Effects that change nothing -/

namespace Canvas

variable {c : Canvas}

theorem withPersona_eq_iff {rank : Rank} {p : Persona} :
    c.withPersona rank p = c ↔ p = c.persona rank := by
  constructor
  · intro h
    rw [← c.persona_withPersona rank p, h]
  · rintro rfl
    cases rank <;> rfl

theorem append_ne (shelf : Shelf) (id text : String) (priority : Priority) :
    c.append shelf id text priority ≠ c := by
  intro h
  obtain ⟨x, -, hx⟩ : ∃ x : shelf.Element, shelf.textOf x = text ∧
      (c.append shelf id text priority).elements shelf = c.elements shelf ++ [x] :=
    elements_append id text priority
  rw [h] at hx
  simpa using congrArg List.length hx

theorem removeMentioning_eq_iff {shelf : Shelf} {needle : String} :
    c.removeMentioning shelf needle = c ↔
      ∀ x ∈ c.elements shelf, mentions needle (shelf.textOf x) = false := by
  have hkept : (c.removeMentioning shelf needle).elements shelf = c.elements shelf ↔
      ∀ x ∈ c.elements shelf, mentions needle (shelf.textOf x) = false := by
    rw [elements_removeMentioning, List.filter_eq_self]
    simp
  rw [← hkept]
  constructor
  · intro h
    rw [h]
  · -- The other collections and the personas are left alone anyway.
    intro h
    refine ext_parts (fun rank => ?_) fun other => ?_
    · cases shelf <;> cases rank <;> rfl
    · by_cases hother : other = shelf
      · rw [hother, h]
      · exact elements_removeMentioning_of_ne hother needle

end Canvas

namespace Persona

variable {p : Persona}

theorem withTrait_eq_iff {t : Trait} {text : String} : p.withTrait t text = p ↔ p.trait t = text := by
  constructor
  · intro h
    rw [← h, p.trait_withTrait]
  · rintro rfl
    cases t <;> rfl

theorem withAgeRange_eq_iff {r : AgeRange} :
    p.withAgeRange r = p ↔ p.age = r.midpoint ∧ p.demographics.ageRange = r := by
  constructor
  · intro h
    have hage : (p.withAgeRange r).age = p.age := by rw [h]
    have hrange : (p.withAgeRange r).demographics.ageRange = p.demographics.ageRange := by rw [h]
    exact ⟨hage.symm, hrange.symm⟩
  · rintro ⟨hage, rfl⟩
    rw [withAgeRange, ← hage]

theorem aged_eq_iff {years : Int} :
    p.aged years = p ↔
      shiftAge p.age years = p.age ∧
        p.demographics.ageRange.shifted years = p.demographics.ageRange := by
  constructor
  · intro h
    have hage : (p.aged years).age = p.age := by rw [h]
    have hrange : (p.aged years).demographics.ageRange = p.demographics.ageRange := by rw [h]
    exact ⟨hage, hrange⟩
  · rintro ⟨hage, hrange⟩
    rw [aged, hage, hrange]

end Persona

namespace Effect

/-- Does an effect find nothing left to do? -/
def Idle (settings : EditSettings) (c : Canvas) : Effect → Prop
  | setRange r =>
    r.isValid = false ∨ c.primary.age = r.midpoint ∧ c.primary.demographics.ageRange = r
  | shift d =>
    shiftAge c.primary.age (d.years settings.ageStep) = c.primary.age ∧
      c.primary.demographics.ageRange.shifted (d.years settings.ageStep) =
        c.primary.demographics.ageRange
  | rewrite rank trait s => ∀ t, trait = some t → (c.persona rank).trait t = s
  | add _ _ => False
  | remove shelf s => ∀ x ∈ c.elements shelf, Canvas.mentions s (shelf.textOf x) = false
  | nothing => True

/-- **An effect leaves the canvas as it was if and only if it finds nothing left to do.** -/
theorem on_eq_iff (settings : EditSettings) (fresh : Uuid) (c : Canvas) (e : Effect) :
    e.on settings fresh c = c ↔ e.Idle settings c := by
  cases e with
  | setRange r =>
    cases hvalid : r.isValid with
    | false => simp [on, Idle, hvalid]
    | true =>
      have hset : (setRange r).on settings fresh c = c.withPersona .primary (c.primary.withAgeRange r) :=
        if_pos hvalid
      rw [hset, Canvas.withPersona_eq_iff, show c.persona .primary = c.primary from rfl,
        Persona.withAgeRange_eq_iff]
      simp [Idle, hvalid]
  | shift d =>
    rw [on, Idle, Canvas.withPersona_eq_iff, show c.persona .primary = c.primary from rfl,
      Persona.aged_eq_iff]
  | rewrite rank trait s =>
    cases trait with
    | none => simp [on, Idle]
    | some t =>
      refine (Canvas.withPersona_eq_iff.trans Persona.withTrait_eq_iff).trans ?_
      simp [Idle]
  | add shelf s => simp [on, Idle, Canvas.append_ne]
  | remove shelf s => exact Canvas.removeMentioning_eq_iff
  | nothing => simp [on, Idle]

end Effect

/-! ### Fingerprints -/

namespace Canvas

/-- The bytes over which the fingerprint of a canvas is taken. -/
def bytes (c : Canvas) : List UInt8 := c.compact.toUTF8.toList

theorem bytes_eq (c : Canvas) : c.bytes = c.toJson.compactChars.flatMap String.utf8EncodeChar :=
  toUTF8_ofList _

/-- The hash function does not collide on two canvases. -/
def ToldApart (a b : Canvas) : Prop := Digest.sha256 a.bytes = Digest.sha256 b.bytes → a.bytes = b.bytes

theorem eq_of_fingerprint {a b : Canvas} (h : a.ToldApart b) (hprint : a.fingerprint = b.fingerprint) :
    a = b :=
  compact_injective (utf8_injective (h hprint))

end Canvas

namespace Details

theorem isNoop_applied {c : Command} {before after : Canvas} :
    (applied c before after).isNoop = true ↔ before.fingerprint = after.fingerprint := by
  simp [isNoop, applied]

/-- What the journal says of a command that was carried out, and what was the case. -/
structure NoopTells (c : Command) (settings : EditSettings) (before after : Canvas) : Prop where
  /-- A canvas that did not change is never reported as changed. -/
  unchanged : after = before → (applied c before after).isNoop = true
  /-- A canvas that is reported as unchanged did not change. -/
  told : before.ToldApart after → ((applied c before after).isNoop = true ↔ after = before)
  /-- And this is so if and only if the effect of the command found nothing to do. -/
  idle : before.ToldApart after →
    ((applied c before after).isNoop = true ↔ c.effect.Idle settings before)
  /-- Every addition is a change. -/
  add : ∀ shelf text, c.target = .ofShelf shelf → c.action = .add → c.operand = some (.text text) →
    before.ToldApart after → (applied c before after).isNoop = false
  /-- A removal is none if and only if no element mentions its text. -/
  remove : ∀ shelf text, c.target = .ofShelf shelf → c.action = .remove →
    c.operand = some (.text text) → before.ToldApart after →
      ((applied c before after).isNoop = true ↔
        ∀ x ∈ before.elements shelf, Canvas.mentions text (shelf.textOf x) = false)

/-- **The journal calls a command without effect if and only if it changed nothing**, unless the hash
function collides on the canvases before and after. -/
theorem noop_tells (c : Command) (settings : EditSettings) (fresh : Uuid) (canvas : Canvas) :
    NoopTells c settings canvas (c.apply settings fresh canvas) := by
  have htold : canvas.ToldApart (c.apply settings fresh canvas) →
      ((applied c canvas (c.apply settings fresh canvas)).isNoop = true ↔
        c.apply settings fresh canvas = canvas) := by
    intro hapart
    rw [isNoop_applied]
    exact ⟨fun h => (Canvas.eq_of_fingerprint hapart h).symm, fun h => by rw [h]⟩
  have hidle : canvas.ToldApart (c.apply settings fresh canvas) →
      ((applied c canvas (c.apply settings fresh canvas)).isNoop = true ↔
        c.effect.Idle settings canvas) := by
    intro hapart
    rw [htold hapart, c.apply_eq, Effect.on_eq_iff]
  exact {
    unchanged := fun h => isNoop_applied.2 (by rw [h])
    told := htold
    idle := hidle
    add := by
      intro shelf text htarget haction hoperand hapart
      have heffect : c.effect = .add shelf text := by
        unfold Command.effect
        rw [haction, htarget, hoperand]
        cases shelf <;> rfl
      rw [← Bool.not_eq_true, hidle hapart, heffect]
      exact id
    remove := by
      intro shelf text htarget haction hoperand hapart
      have heffect : c.effect = .remove shelf text := by
        unfold Command.effect
        rw [haction, htarget, hoperand]
        cases shelf <;> rfl
      rw [hidle hapart, heffect]
      exact Iff.rfl }

/-- A removal that finds one of two jobs: no collision, and a change. -/
theorem noop_tells_removal :
    let p : Persona := ⟨"", "", 0, "", "", ⟨⟨0, 0⟩, "", "", ""⟩, ⟨[], [], ""⟩⟩
    let canvas : Canvas := ⟨p, p, [], [⟨"j0", "Renew"⟩, ⟨"j1", "Ship"⟩], [], []⟩
    let c : Command := ⟨.remove, .jtbd, none, some (.text "NEW"), .unjudged, "x"⟩
    let next := c.apply .default ⟨0⟩ canvas
    canvas.ToldApart next ∧ next.ids .jobs = ["j1"] ∧ (applied c canvas next).isNoop = false := by
  intro p canvas c next
  have hapart : canvas.ToldApart next := by
    have hne : Digest.sha256 canvas.bytes ≠ Digest.sha256 next.bytes := by
      rw [Canvas.bytes_eq, Canvas.bytes_eq]
      decide +kernel
    exact fun h => absurd h hne
  have hfound : ¬ ∀ x ∈ canvas.elements .jobs, Canvas.mentions "NEW" (Shelf.textOf .jobs x) = false := by
    decide +kernel
  have hremove := (noop_tells c .default ⟨0⟩ canvas).remove .jobs "NEW" rfl rfl rfl hapart
  exact ⟨hapart, by decide +kernel, Bool.eq_false_iff.2 fun h => hfound (hremove.1 h)⟩

end Details

end PersonaDialogue
