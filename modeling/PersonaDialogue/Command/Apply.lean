import PersonaDialogue.Command.Basic
import PersonaDialogue.Text.Fold

/-!
# Applying commands

`Command.apply` gives the canvas after a command.  A command changes at most the one part of the canvas
that it names; a combination of action, target and operand that means nothing changes nothing.
-/

namespace PersonaDialogue

/-- What the effect of a command depends on besides the command. -/
structure EditSettings where
  /-- The years of one relative change of age. -/
  ageStep : UInt32
  /-- The priority of a new pain point. -/
  painPointPriority : Priority
deriving DecidableEq, Repr

/-- Steps of five years, and medium priority. -/
def EditSettings.default : EditSettings := ⟨5, .medium⟩

namespace Persona

/-- The persona at the middle of an age range. -/
def withAgeRange (p : Persona) (r : AgeRange) : Persona :=
  { p with age := r.midpoint, demographics := { p.demographics with ageRange := r } }

/-- The persona made older by some years: age and both bounds move, each within its limits. -/
def aged (p : Persona) (years : Int) : Persona :=
  { p with
    age := shiftAge p.age years
    demographics := { p.demographics with ageRange := p.demographics.ageRange.shifted years } }

end Persona

namespace Canvas

/-- The canvas with an element added at the end of a collection. -/
def append (c : Canvas) (shelf : Shelf) (id text : String) (priority : Priority) : Canvas :=
  match shelf with
  | .painPoints => { c with painPoints := c.painPoints ++ [⟨id, text, priority⟩] }
  | .jobs => { c with jobs := c.jobs ++ [⟨id, text⟩] }
  | .behaviors => { c with behaviors := c.behaviors ++ [⟨id, text⟩] }
  | .stages => { c with stages := c.stages ++ [⟨id, text, ""⟩] }

/-- Does `text` contain `needle`, apart from the case of letters? -/
def mentions (needle text : String) : Bool :=
  Text.occursIn (Text.fold needle.toList) (Text.fold text.toList)

/-- The canvas without the elements of a collection that mention a text. -/
def removeMentioning (c : Canvas) (shelf : Shelf) (needle : String) : Canvas :=
  match shelf with
  | .painPoints => { c with painPoints := c.painPoints.filter fun p => !mentions needle p.description }
  | .jobs => { c with jobs := c.jobs.filter fun j => !mentions needle j.statement }
  | .behaviors => { c with behaviors := c.behaviors.filter fun b => !mentions needle b.description }
  | .stages => { c with stages := c.stages.filter fun s => !mentions needle s.name }

end Canvas

namespace Command

def applyToAge (settings : EditSettings) (c : Command) (canvas : Canvas) : Canvas :=
  match c.action, c.operand with
  | .set, some (.ageRange r) =>
    if r.isValid then canvas.withPersona .primary (canvas.primary.withAgeRange r) else canvas
  | .update, some (.relative d) | .change, some (.relative d) =>
    canvas.withPersona .primary (canvas.primary.aged (d.years settings.ageStep))
  | _, _ => canvas

def applyToPersona (rank : Rank) (c : Command) (canvas : Canvas) : Canvas :=
  match c.action, c.operand, c.trait with
  | .update, some (.text s), some t | .change, some (.text s), some t | .set, some (.text s), some t =>
    canvas.withPersona rank ((canvas.persona rank).withTrait t s)
  | _, _, _ => canvas

def applyToShelf (settings : EditSettings) (fresh : Uuid) (shelf : Shelf) (c : Command)
    (canvas : Canvas) : Canvas :=
  match c.action, c.operand with
  | .add, some (.text s) => canvas.append shelf (shelf.newId fresh) s settings.painPointPriority
  | .remove, some (.text s) => canvas.removeMentioning shelf s
  | _, _ => canvas

/-- The canvas after a command; `fresh` names the element that it may add. -/
def apply (settings : EditSettings) (fresh : Uuid) (c : Command) (canvas : Canvas) : Canvas :=
  match c.target.subject with
  | .age => c.applyToAge settings canvas
  | .persona rank => c.applyToPersona rank canvas
  | .shelf shelf => c.applyToShelf settings fresh shelf canvas

end Command

end PersonaDialogue
