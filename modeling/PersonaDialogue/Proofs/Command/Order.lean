import PersonaDialogue.Canvas.Default
import PersonaDialogue.Proofs.Command.Slot

/-!
# The order of two commands

Commands that address different slots may change places (`Command.apply_comm`).  Each reads and writes its own
slot only, so neither notices the other: its slot holds in the end what it alone would have put there, and an
element that it adds has the identifier that was made for it.  This is so also of the age and of a trait of the
primary persona, although a command about either replaces the whole persona.
-/

namespace PersonaDialogue.Command

/-- No slot is addressed by both commands. -/
def Apart (c d : Command) : Prop := ∀ slot, c.slot? = some slot → d.slot? ≠ some slot

theorem Apart.symm {c d : Command} (h : c.Apart d) : d.Apart c :=
  fun slot hd hc => h slot hc hd

/-- The effect of a command shows in a later canvas just as if nothing else had happened. -/
structure Shows (settings : EditSettings) (fresh : Uuid) (c : Command) (before later : Canvas) : Prop where
  /-- The slot of the command holds what the command alone makes of it. -/
  content : ∀ slot, c.slot? = some slot →
    later.content slot = (c.apply settings fresh before).content slot
  /-- An element that it adds is the last of its collection, and has the identifier made for it. -/
  added : ∀ shelf s, c.target.subject = .shelf shelf → c.action = .add → c.operand = some (.text s) →
    later.elements shelf = before.elements shelf ++
      [shelf.element (shelf.newId fresh) s settings.painPointPriority]

variable {c d : Command} (settings : EditSettings) (fresh fresh' : Uuid) (canvas : Canvas)

/-- A command on another slot leaves the effect of a command as it is. -/
theorem shows_of_apart (h : c.Apart d) :
    c.Shows settings fresh canvas (d.apply settings fresh' (c.apply settings fresh canvas)) where
  content slot hslot := content_apply_of_ne settings fresh' _ (h slot hslot)
  added shelf s hsubject haction hoperand := by
    have hslot : c.slot? = some (.shelf shelf) := by rw [slot?, hsubject]
    have heffect : c.effect = .add shelf s := by rw [effect, hsubject, haction, hoperand]
    have hkept := content_apply_of_ne settings fresh' (c.apply settings fresh canvas) (h _ hslot)
    rw [content_apply settings fresh canvas hslot, heffect] at hkept
    exact hkept

theorem apply_swap (h : c.Apart d) :
    d.apply settings fresh' (c.apply settings fresh canvas) =
      c.apply settings fresh (d.apply settings fresh' canvas) := by
  cases hc : c.slot? with
  | none =>
    rw [c.apply_of_slot_none settings fresh canvas hc, c.apply_of_slot_none settings fresh _ hc]
  | some slot =>
    cases hd : d.slot? with
    | none =>
      rw [d.apply_of_slot_none settings fresh' canvas hd, d.apply_of_slot_none settings fresh' _ hd]
    | some other =>
      have hne : slot ≠ other := by
        rintro rfl
        exact h slot hc hd
      -- What either command reads is not changed by the other.
      have hslot := content_apply_of_ne settings fresh' canvas (h slot hc)
      have hother := content_apply_of_ne settings fresh canvas (h.symm other hd)
      rw [apply_eq_revise settings fresh' _ hd, hother, apply_eq_revise settings fresh canvas hc,
        apply_eq_revise settings fresh _ hc, hslot, apply_eq_revise settings fresh' canvas hd,
        Canvas.withContent_comm _ hne]

/-- **Commands on different slots may change places.**  In either order they leave the same canvas, and the
effect of each shows in it. -/
theorem apply_comm (h : c.Apart d) :
    let both := d.apply settings fresh' (c.apply settings fresh canvas)
    both = c.apply settings fresh (d.apply settings fresh' canvas) ∧
      c.Shows settings fresh canvas both ∧ d.Shows settings fresh' canvas both := by
  have hswap := apply_swap settings fresh fresh' canvas h
  refine ⟨hswap, shows_of_apart settings fresh fresh' canvas h, ?_⟩
  rw [hswap]
  exact shows_of_apart settings fresh' fresh canvas h.symm

/-- The age and the name of the primary persona, and elements of two collections. -/
theorem apply_comm_persona :
    let canvas := Canvas.default fun n => ⟨BitVec.ofNat 128 n⟩
    let age : Command := ⟨.set, .age, none, some (.ageRange ⟨18, 31⟩), .unjudged, "x"⟩
    let name : Command := ⟨.change, .primaryPersona, some .name, some (.text "Sam"), .unjudged, "x"⟩
    let job : Command := ⟨.add, .jtbd, none, some (.text "Renew"), .unjudged, "x"⟩
    let behavior : Command := ⟨.add, .behavior, some .role, some (.text "Renews"), .unjudged, "x"⟩
    let named := name.apply .default ⟨9⟩ (age.apply .default ⟨8⟩ canvas)
    let grown := behavior.apply .default ⟨9⟩ (job.apply .default ⟨8⟩ canvas)
    age.Apart name ∧ named = age.apply .default ⟨8⟩ (name.apply .default ⟨9⟩ canvas) ∧
      named.content .age = (25, ⟨18, 31⟩) ∧ named.content (.trait .primary .name) = "Sam" ∧
      job.Apart behavior ∧ grown = job.apply .default ⟨8⟩ (behavior.apply .default ⟨9⟩ canvas) ∧
      grown.elements .jobs = canvas.jobs ++ [⟨Shelf.jobs.newId ⟨8⟩, "Renew"⟩] ∧
      grown.elements .behaviors = canvas.behaviors ++ [⟨Shelf.behaviors.newId ⟨9⟩, "Renews"⟩] := by
  intro canvas age name job behavior named grown
  have hapart : age.Apart name := by
    rintro slot ⟨⟩
    decide
  have hapart' : job.Apart behavior := by
    rintro slot ⟨⟩
    decide
  obtain ⟨hcomm, hage, hname⟩ := apply_comm .default ⟨8⟩ ⟨9⟩ canvas hapart
  obtain ⟨hcomm', hjob, hbehavior⟩ := apply_comm .default ⟨8⟩ ⟨9⟩ canvas hapart'
  exact ⟨hapart, hcomm, hage.content .age rfl, hname.content (.trait .primary .name) rfl,
    hapart', hcomm', hjob.added .jobs "Renew" rfl rfl rfl,
    hbehavior.added .behaviors "Renews" rfl rfl rfl⟩

end PersonaDialogue.Command
