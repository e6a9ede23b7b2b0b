import PersonaDialogue.Settings.Basic
import PersonaDialogue.Toml.Document
import PersonaDialogue.Toml.Writer

/-!
# Settings as a document

Settings are kept as a TOML table.  A key that is missing has its default, a key that nobody knows is
passed over, and a value that a key cannot have spoils the whole document.  A whole number in TOML
has 64 bits with a sign, so that a greater latency cannot be written.
-/

namespace PersonaDialogue

open Toml (Members Value)

namespace Settings

/-! ### Reading -/

/-- A whole number of 64 bits without sign. -/
def readLong? : Value → Option UInt64
  | .whole n => if 0 ≤ n ∧ n < UInt64.size then some (UInt64.ofNat n.toNat) else none
  | _ => none

/-- A whole number of 32 bits without sign. -/
def readWord? : Value → Option UInt32
  | .whole n => if 0 ≤ n ∧ n < UInt32.size then some (UInt32.ofNat n.toNat) else none
  | _ => none

/-- Is there nothing in this array or table? -/
def isHollow : Value → Bool
  | .array items => items.isEmpty
  | .table _ members => members.isEmpty
  | .tables rows => rows.isEmpty
  | _ => false

/-- A priority: its name, or a table with the name as only key and nothing in it. -/
def readPriority? : Value → Option Priority
  | .text name => Priority.table.lookup name
  | .table _ [(name, content)] => if isHollow content then Priority.table.lookup name else none
  | _ => none

def readPath? : Value → Option (Option String)
  | .text s => some (some s)
  | _ => none

/-- The value of a key, or the default if the key is missing; `none` if the key cannot have what it
has. -/
def setting? {α : Type} (read : Value → Option α) (default : α) (key : String) (table : Members) :
    Option α :=
  match table.lookup key with
  | some v => read v
  | none => some default

def ofTable? (table : Members) : Option Settings := do
  return {
    latency := ← setting? readLong? default.latency "latency_ms" table
    ageStep := ← setting? readWord? default.ageStep "relative_age_step" table
    ageWindow := ← setting? readWord? default.ageWindow "single_age_window" table
    painPointPriority :=
      ← setting? readPriority? default.painPointPriority "default_pain_point_priority" table
    eventLog := ← setting? readPath? default.eventLog "event_log_path" table }

def ofText? (text : String) : Option Settings := (Toml.read text).bind ofTable?

/-! ### Writing -/

/-- The greatest latency that can be written. -/
def latencyBound : Nat := 9223372036854775807

def logLine : Option String → String
  | some path => Toml.line "event_log_path" (Toml.quote path)
  | none => ""

/-- The document that holds the settings; `none` if the latency is too great. -/
def toText? (s : Settings) : Option String :=
  if s.latency.toNat ≤ latencyBound then
    some (Toml.line "latency_ms" (Toml.whole s.latency.toNat) ++
      Toml.line "relative_age_step" (Toml.whole s.ageStep.toNat) ++
      Toml.line "single_age_window" (Toml.whole s.ageWindow.toNat) ++
      Toml.line "default_pain_point_priority" (Toml.quote s.painPointPriority.label) ++
      logLine s.eventLog)
  else none

end Settings

end PersonaDialogue
