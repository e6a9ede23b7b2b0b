import PersonaDialogue.Command.Apply
import PersonaDialogue.Intent.Classify

/-!
# Settings

What a user may set: how long the assistant takes to answer, how messages about age are understood,
the priority of new pain points, and where events are logged.
-/

namespace PersonaDialogue

structure Settings where
  /-- The milliseconds between a message and its reply. -/
  latency : UInt64
  /-- The years of one relative change of age. -/
  ageStep : UInt32
  /-- The years on either side of a single age. -/
  ageWindow : UInt32
  /-- The priority of a new pain point. -/
  painPointPriority : Priority
  /-- The path of the file to which events are logged, if they are. -/
  eventLog : Option String
deriving DecidableEq, Repr

namespace Settings

def default : Settings where
  latency := 1500
  ageStep := EditSettings.default.ageStep
  ageWindow := Intent.defaultWindow
  painPointPriority := EditSettings.default.painPointPriority
  eventLog := none

def edits (s : Settings) : EditSettings := ⟨s.ageStep, s.painPointPriority⟩

end Settings

end PersonaDialogue
