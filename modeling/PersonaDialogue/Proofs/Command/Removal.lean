import PersonaDialogue.Canvas.Default
import PersonaDialogue.Proofs.Command.Slot
import PersonaDialogue.Proofs.Text.Fold

/-!
# Removals

A removal takes away all elements that mention its text.  Whether they do is found out by comparing
lower-case forms, and the form of a capital sigma depends on what stands around it; so a text may occur in
an element letter by letter and yet not be found there (`removal_misses_sigma`).  This is the only way in
which an element may be missed (`removal_complete`).
-/

namespace PersonaDialogue

/-- **No element that mentions the text of a removal is left.** -/
theorem removal_complete {c : Command} {shelf : Shelf} {text : String} (haction : c.action = .remove)
    (htarget : c.target = .ofShelf shelf) (hoperand : c.operand = some (.text text))
    (settings : EditSettings) (fresh : Uuid) (canvas : Canvas) :
    ∀ x ∈ (c.apply settings fresh canvas).elements shelf,
      Text.FreeOf text.toList (shelf.textOf x).toList := by
  have heffect : c.effect = .remove shelf text := by
    unfold Command.effect
    rw [haction, htarget, hoperand]
    cases shelf <;> rfl
  intro x hx
  rw [c.apply_eq, heffect, Effect.on, Canvas.elements_removeMentioning, List.mem_filter] at hx
  exact Text.freeOf_of_occursIn (by simpa [Canvas.mentions] using hx.2)

/-- Letters in another case, capital sigmas within words, and one element that stays. -/
theorem removal_complete_stages :
    let c : Command := ⟨.remove, .journey, none, some (.text "ΣΎΣΤΗΜΑ"), .unjudged, "x"⟩
    let canvas : Canvas := { Canvas.default (fun n => ⟨BitVec.ofNat 128 n⟩) with
      stages := [⟨"s0", "Νέο σύστημα", ""⟩, ⟨"s1", "ΣΎΣΤΗΜΑ 2", ""⟩, ⟨"s2", "Συντήρηση", ""⟩] }
    c.action = .remove ∧ c.target = .ofShelf .stages ∧ c.operand = some (.text "ΣΎΣΤΗΜΑ") ∧
      (c.apply .default ⟨0⟩ canvas).ids .stages = ["s2"] ∧
      ∀ x ∈ (c.apply .default ⟨0⟩ canvas).elements .stages,
        Text.FreeOf "ΣΎΣΤΗΜΑ".toList (Shelf.textOf .stages x).toList := by
  intro c canvas
  have hids : (c.apply .default ⟨0⟩ canvas).ids .stages = ["s2"] := by decide +kernel
  exact ⟨rfl, rfl, rfl, hids, removal_complete rfl rfl rfl .default ⟨0⟩ canvas⟩

/-- **A text with a capital sigma at its end is not found in a longer word.** -/
theorem removal_misses_sigma :
    let c : Command := ⟨.remove, .painPoint, none, some (.text "ΟΔΟΣ"), .unjudged, "x"⟩
    let canvas : Canvas := { Canvas.default (fun n => ⟨BitVec.ofNat 128 n⟩) with
      painPoints := [⟨"p0", "ΟΔΟΣΗΜΑΝΣΗ", .low⟩, ⟨"p1", "Pricing", .low⟩] }
    ∃ p ∈ (c.apply .default ⟨0⟩ canvas).painPoints, "ΟΔΟΣ".toList <:+: p.description.toList := by
  decide +kernel

/-! ### Removals among other edits -/

namespace Canvas

variable (c : Canvas) (shelf : Shelf)

/-- Both forms are made in the same way, so even a text that may be missed in others is found in itself. -/
theorem mentions_self (s : String) : mentions s s = true := Text.occursIn_iff.2 (List.infix_refl _)

/-- Removing after an addition: either the new element goes as well, or it might have been added later. -/
theorem removeMentioning_append (id text : String) (priority : Priority) (needle : String) :
    (c.append shelf id text priority).removeMentioning shelf needle =
      if mentions needle text then c.removeMentioning shelf needle
      else (c.removeMentioning shelf needle).append shelf id text priority := by
  have htext : shelf.textOf (shelf.element id text priority) = text := by cases shelf <;> rfl
  rw [append_eq, removeMentioning_eq, elements_withContent, withContent_withContent, List.filter_append,
    List.filter_singleton, htext]
  cases mentions needle text with
  | true =>
    rw [if_pos rfl, removeMentioning_eq, Bool.not_true, cond_false, List.append_nil]
  | false =>
    rw [if_neg Bool.false_ne_true, append_eq, removeMentioning_eq, elements_withContent,
      withContent_withContent, Bool.not_false, cond_true]

/-- Two removals keep what mentions neither text. -/
theorem removeMentioning_removeMentioning (s t : String) :
    (c.removeMentioning shelf s).removeMentioning shelf t = c.withContent (.shelf shelf)
      ((c.elements shelf).filter fun x => !mentions s (shelf.textOf x) && !mentions t (shelf.textOf x)) := by
  rw [removeMentioning_eq, removeMentioning_eq, elements_withContent, withContent_withContent,
    List.filter_filter]
  simp only [Bool.and_comm]

end Canvas

namespace Command

/-- The command asks for an action on a collection, with a text. -/
structure Edits (c : Command) (action : Action) (shelf : Shelf) (text : String) : Prop where
  action_eq : c.action = action
  target_eq : c.target = .ofShelf shelf
  operand_eq : c.operand = some (.text text)

variable {c : Command} {shelf : Shelf} {text : String}

theorem Edits.apply_add (h : c.Edits .add shelf text) (settings : EditSettings) (fresh : Uuid)
    (canvas : Canvas) : c.apply settings fresh canvas =
      canvas.append shelf (shelf.newId fresh) text settings.painPointPriority := by
  have heffect : c.effect = .add shelf text := by
    rw [effect, h.action_eq, h.target_eq, h.operand_eq]
    cases shelf <;> rfl
  rw [c.apply_eq, heffect]
  rfl

theorem Edits.apply_remove (h : c.Edits .remove shelf text) (settings : EditSettings) (fresh : Uuid)
    (canvas : Canvas) : c.apply settings fresh canvas = canvas.removeMentioning shelf text := by
  have heffect : c.effect = .remove shelf text := by
    rw [effect, h.action_eq, h.target_eq, h.operand_eq]
    cases shelf <;> rfl
  rw [c.apply_eq, heffect]
  rfl

end Command

/-- How a removal from a collection goes together with an addition of the same text `s` and with a removal
of any text `t`. -/
structure RemovalLaws (settings : EditSettings) (canvas : Canvas) (shelf : Shelf) (s t : String)
    (add remove other : Command) : Prop where
  /-- Elements that mention the text go; all others stay in order, and nothing else changes. -/
  filters : ∀ fresh, remove.apply settings fresh canvas = canvas.withContent (.shelf shelf)
    ((canvas.elements shelf).filter fun x => !Canvas.mentions s (shelf.textOf x))
  /-- A removal undoes the addition: the whole canvas is as if nothing had been added. -/
  undoes : ∀ fresh fresh' fresh'', remove.apply settings fresh' (add.apply settings fresh canvas) =
    remove.apply settings fresh'' canvas
  /-- A removal of a text that the new element does not mention may come before the addition. -/
  passes : Canvas.mentions t s = false → ∀ fresh fresh',
    other.apply settings fresh' (add.apply settings fresh canvas) =
      add.apply settings fresh (other.apply settings fresh' canvas)
  /-- A second removal changes nothing. -/
  twice : ∀ fresh fresh', remove.apply settings fresh' (remove.apply settings fresh canvas) =
    remove.apply settings fresh canvas
  /-- Two removals may change places. -/
  comm : ∀ fresh fresh', other.apply settings fresh' (remove.apply settings fresh canvas) =
    remove.apply settings fresh (other.apply settings fresh' canvas)

/-- **Removals undo additions, and go together as filters do.** -/
theorem removal_laws {add remove other : Command} {shelf : Shelf} {s t : String}
    (hadd : add.Edits .add shelf s) (hremove : remove.Edits .remove shelf s)
    (hother : other.Edits .remove shelf t) (settings : EditSettings) (canvas : Canvas) :
    RemovalLaws settings canvas shelf s t add remove other where
  filters fresh := by rw [hremove.apply_remove, Canvas.removeMentioning_eq]
  undoes fresh fresh' fresh'' := by
    rw [hadd.apply_add, hremove.apply_remove, hremove.apply_remove, Canvas.removeMentioning_append,
      if_pos (Canvas.mentions_self s)]
  passes hfree fresh fresh' := by
    rw [hadd.apply_add, hother.apply_remove, hother.apply_remove, hadd.apply_add,
      Canvas.removeMentioning_append, hfree, if_neg Bool.false_ne_true]
  twice fresh fresh' := by
    rw [hremove.apply_remove, hremove.apply_remove, Canvas.removeMentioning_removeMentioning,
      Canvas.removeMentioning_eq]
    simp only [Bool.and_self]
  comm fresh fresh' := by
    rw [hother.apply_remove, hremove.apply_remove, hremove.apply_remove, hother.apply_remove,
      Canvas.removeMentioning_removeMentioning, Canvas.removeMentioning_removeMentioning]
    simp only [Bool.and_comm]

/-- A text that is found in itself although not in a longer word, and the empty text, which all others
mention. -/
theorem removal_laws_sigma :
    let canvas : Canvas := { Canvas.default (fun n => ⟨BitVec.ofNat 128 n⟩) with
      behaviors := [⟨"b0", "ΟΔΟΣΗΜΑΝΣΗ"⟩, ⟨"b1", "Νέα οδος"⟩] }
    let add : Command := ⟨.add, .behavior, none, some (.text "ΟΔΟΣ"), .unjudged, "x"⟩
    let remove : Command := ⟨.remove, .behavior, none, some (.text "ΟΔΟΣ"), .unjudged, "x"⟩
    let other : Command := ⟨.remove, .behavior, some .role, some (.text ""), .unjudged, "x"⟩
    add.Edits .add .behaviors "ΟΔΟΣ" ∧ remove.Edits .remove .behaviors "ΟΔΟΣ" ∧
      other.Edits .remove .behaviors "" ∧
      RemovalLaws .default canvas .behaviors "ΟΔΟΣ" "" add remove other ∧
      (remove.apply .default ⟨2⟩ (add.apply .default ⟨1⟩ canvas)).ids .behaviors = ["b0"] := by
  intro canvas add remove other
  have hadd : add.Edits .add .behaviors "ΟΔΟΣ" := ⟨rfl, rfl, rfl⟩
  have hremove : remove.Edits .remove .behaviors "ΟΔΟΣ" := ⟨rfl, rfl, rfl⟩
  have hother : other.Edits .remove .behaviors "" := ⟨rfl, rfl, rfl⟩
  exact ⟨hadd, hremove, hother, removal_laws hadd hremove hother .default canvas, by decide +kernel⟩

end PersonaDialogue
