import PersonaDialogue.Command.Apply
import PersonaDialogue.Proofs.Age.Range

/-!
# The effect of a command

Of all combinations of a target, an action and an operand only a few mean anything.  The *effect* of a
command is that meaning, one constructor for each way in which a canvas may change and `nothing` for
every other combination, and applying a command is nothing but carrying out its effect
(`Command.apply_eq`).  Two effects can be named by a command and still change nothing: a range that is
not valid is not set, and a persona is not rewritten where no trait is named.
-/

namespace PersonaDialogue

/-- What a command means for the canvas. -/
inductive Effect
  | setRange (range : AgeRange)
  | shift (direction : Direction)
  | rewrite (rank : Rank) (trait : Option Trait) (text : String)
  | add (shelf : Shelf) (text : String)
  | remove (shelf : Shelf) (text : String)
  | nothing
deriving DecidableEq, Repr

def Command.effect (c : Command) : Effect :=
  match c.target.subject, c.action, c.operand with
  | .age, .set, some (.ageRange r) => .setRange r
  | .age, .update, some (.relative d) | .age, .change, some (.relative d) => .shift d
  | .persona rank, .update, some (.text s) | .persona rank, .change, some (.text s)
  | .persona rank, .set, some (.text s) => .rewrite rank c.trait s
  | .shelf shelf, .add, some (.text s) => .add shelf s
  | .shelf shelf, .remove, some (.text s) => .remove shelf s
  | _, _, _ => .nothing

namespace Effect

/-- Carries out an effect; `fresh` names the element that it may add. -/
def on (settings : EditSettings) (fresh : Uuid) : Effect → Canvas → Canvas
  | setRange r, c => if r.isValid then c.withPersona .primary (c.primary.withAgeRange r) else c
  | shift d, c => c.withPersona .primary (c.primary.aged (d.years settings.ageStep))
  | rewrite rank (some t) s, c => c.withPersona rank ((c.persona rank).withTrait t s)
  | rewrite _ none _, c => c
  | add shelf s, c => c.append shelf (shelf.newId fresh) s settings.painPointPriority
  | remove shelf s, c => c.removeMentioning shelf s
  | nothing, c => c

/-- The plain request for an effect: the one of several commands with that effect that names no more
than it needs. -/
def request (confidence : Confidence) (raw : String) : Effect → Command
  | setRange r => ⟨.set, .age, none, some (.ageRange r), confidence, raw⟩
  | shift d => ⟨.update, .age, none, some (.relative d), confidence, raw⟩
  | rewrite rank trait s => ⟨.update, .ofRank rank, trait, some (.text s), confidence, raw⟩
  | add shelf s => ⟨.add, .ofShelf shelf, none, some (.text s), confidence, raw⟩
  | remove shelf s => ⟨.remove, .ofShelf shelf, none, some (.text s), confidence, raw⟩
  | nothing => ⟨.update, .primaryPersona, none, none, confidence, raw⟩

/-- An effect that is carried out: a range is valid, a trait is named, and no text is empty. -/
def Sound : Effect → Prop
  | setRange r => r.min ≤ r.max ∧ r.max ≤ maxAge
  | rewrite _ trait s => trait ≠ none ∧ s ≠ ""
  | add _ s => s ≠ ""
  | remove _ s => s ≠ ""
  | _ => True

theorem effect_request (confidence : Confidence) (raw : String) (e : Effect) :
    (e.request confidence raw).effect = e := by
  cases e with
  | rewrite rank => cases rank <;> rfl
  | add shelf => cases shelf <;> rfl
  | remove shelf => cases shelf <;> rfl
  | _ => rfl

theorem request_raw (confidence : Confidence) (raw : String) (e : Effect) :
    (e.request confidence raw).raw = raw := by
  cases e <;> rfl

theorem request_operand_eq_none {confidence : Confidence} {raw : String} {e : Effect} :
    (e.request confidence raw).operand = none ↔ e = nothing := by
  cases e <;> simp [request]

theorem isValid_of_sound {r : AgeRange} (h : (setRange r).Sound) : r.isValid = true :=
  AgeRange.isValid_iff.2 h

end Effect

/-- **To apply a command is to carry out its effect.** -/
theorem Command.apply_eq (c : Command) (settings : EditSettings) (fresh : Uuid) (canvas : Canvas) :
    c.apply settings fresh canvas = c.effect.on settings fresh canvas := by
  obtain ⟨action, target, trait, operand, confidence, raw⟩ := c
  unfold apply effect
  simp only
  cases target.subject with
  | age =>
    cases action <;> rcases operand with _ | _ | _ | _ <;> rfl
  | persona rank =>
    cases trait <;> cases action <;> rcases operand with _ | _ | _ | _ <;> rfl
  | shelf shelf =>
    cases action <;> rcases operand with _ | _ | _ | _ <;> rfl

end PersonaDialogue
