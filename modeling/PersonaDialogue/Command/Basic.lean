import PersonaDialogue.Canvas.Basic

/-!
# Commands

A command asks for one change of a canvas: an action on a target, a trait if the target is a persona,
an operand, how sure the classifier was, and the message that it was read from.  Any combination can
be written down; what a combination does is said by `Command.apply`.
-/

namespace PersonaDialogue

open Number (Binary)

inductive Action
  | update
  | add
  | remove
  | set
  | change
deriving DecidableEq, Repr

namespace Action

def label : Action → String
  | update => "update"
  | add => "add"
  | remove => "remove"
  | set => "set"
  | change => "change"

def table : List (String × Action) :=
  [("update", update), ("add", add), ("remove", remove), ("set", set), ("change", change)]

end Action

/-- What a target stands for on the canvas. -/
inductive Subject
  | age
  | persona (rank : Rank)
  | shelf (shelf : Shelf)
deriving DecidableEq, Repr

inductive Target
  | primaryPersona
  | secondaryPersona
  | age
  | painPoint
  | jtbd
  | behavior
  | journey
deriving DecidableEq, Repr

namespace Target

def label : Target → String
  | primaryPersona => "primaryPersona"
  | secondaryPersona => "secondaryPersona"
  | age => "age"
  | painPoint => "painPoint"
  | jtbd => "jtbd"
  | behavior => "behavior"
  | journey => "journey"

def table : List (String × Target) :=
  [("primaryPersona", primaryPersona), ("secondaryPersona", secondaryPersona), ("age", age),
    ("painPoint", painPoint), ("jtbd", jtbd), ("behavior", behavior), ("journey", journey)]

def subject : Target → Subject
  | primaryPersona => .persona .primary
  | secondaryPersona => .persona .secondary
  | age => .age
  | painPoint => .shelf .painPoints
  | jtbd => .shelf .jobs
  | behavior => .shelf .behaviors
  | journey => .shelf .stages

def rank? (t : Target) : Option Rank :=
  match t.subject with
  | .persona rank => some rank
  | _ => none

def ofRank : Rank → Target
  | .primary => primaryPersona
  | .secondary => secondaryPersona

def ofShelf : Shelf → Target
  | .painPoints => painPoint
  | .jobs => jtbd
  | .behaviors => behavior
  | .stages => journey

end Target

/-- The direction of a relative change of age. -/
inductive Direction
  | increase
  | decrease
deriving DecidableEq, Repr

namespace Direction

def label : Direction → String
  | increase => "increase"
  | decrease => "decrease"

def table : List (String × Direction) := [("increase", increase), ("decrease", decrease)]

/-- A number of years in a direction. -/
def years (d : Direction) (step : UInt32) : Int :=
  match d with
  | increase => step.toNat
  | decrease => -(step.toNat : Int)

end Direction

inductive Operand
  | ageRange (range : AgeRange)
  | relative (direction : Direction)
  | text (text : String)
deriving DecidableEq, Repr

/-- How sure the classifier was, as a number of 32 bits. -/
abbrev Confidence := Binary

namespace Confidence

/-- The nearest confidence to a fraction. -/
def ofRatio (num den : Nat) : Confidence := Number.single.nearest false num den

/-- The confidence of a command that nobody has judged. -/
def unjudged : Confidence := ofRatio 3 10

def clamped (c : Confidence) : Confidence := Binary.clampUnit Number.single c

end Confidence

/-- A request for one change. -/
structure Command where
  action : Action
  target : Target
  trait : Option Trait
  operand : Option Operand
  confidence : Confidence
  raw : String
deriving DecidableEq, Repr

namespace Command

/-- A command without trait and operand, not judged yet. -/
def of (action : Action) (target : Target) (raw : String) : Command :=
  ⟨action, target, none, none, Confidence.unjudged, raw⟩

def withTrait (c : Command) (trait : Trait) : Command := { c with trait := some trait }

def withOperand (c : Command) (operand : Operand) : Command := { c with operand := some operand }

def withText (c : Command) (text : String) : Command := c.withOperand (.text text)

/-- The command judged; the confidence is moved into the interval from 0 to 1. -/
def withConfidence (c : Command) (confidence : Confidence) : Command :=
  { c with confidence := confidence.clamped }

end Command

end PersonaDialogue
