import PersonaDialogue.Intent.Rule

/-!
# Classifying a message

The first rule whose pattern matches the message decides, even if it can make no command of it; the
rules after it are not asked.  A message of white space alone is decided by no rule.
-/

namespace PersonaDialogue.Intent

/-- What a rule made of a message. -/
structure Verdict where
  rule : String
  command : Option Command
deriving DecidableEq, Repr

/-- The verdict of the first rule of a list whose pattern matches. -/
def firstVerdict (window : UInt32) (searched message : List Char) : List Rule → Option Verdict
  | [] => none
  | r :: later =>
    match r.ask window searched message with
    | some command => some ⟨r.name, command⟩
    | none => firstVerdict window searched message later

def classifyBy (rs : List Rule) (window : UInt32) (message : String) : Option Verdict :=
  let trimmed := Text.trim message.toList
  if trimmed.isEmpty then none else firstVerdict window (Text.lowerAscii trimmed) trimmed rs

/-- The verdict of the rules on a message. -/
def classify (window : UInt32) (message : String) : Option Verdict := classifyBy rules window message

def command? (window : UInt32) (message : String) : Option Command :=
  (classify window message).bind Verdict.command

/-- Asks every rule on its own, and lists those whose pattern matches. -/
def askAll (window : UInt32) (searched message : List Char) : List Verdict :=
  rules.filterMap fun r => (r.ask window searched message).map fun command => ⟨r.name, command⟩

/-- The window of one age unless settings say otherwise. -/
def defaultWindow : UInt32 := 5

end PersonaDialogue.Intent
