import PersonaDialogue.Command.Basic
import PersonaDialogue.Intent.Cleaning
import PersonaDialogue.Intent.Pattern
import PersonaDialogue.Pattern.Find
import PersonaDialogue.Text.Fold

/-!
# The rules

A rule has a pattern, a confidence and a builder that makes a command of a match.  There are fourteen
rules, listed in the order in which they are asked.  A pattern may match although the builder can make
no command: an age is too great, or nothing is left of an operand after cleaning.
-/

namespace PersonaDialogue.Intent

structure Match where
  /-- The text that was searched. -/
  searched : List Char
  /-- The marks set by the match. -/
  trace : Trace
  /-- The message as it was written, without surrounding white space. -/
  message : List Char
  /-- The confidence of the rule. -/
  confidence : Confidence
  /-- The years on either side of a single age. -/
  window : UInt32

namespace Match

/-- The number that a group holds, if it is written in ASCII digits. -/
def number? (m : Match) (index : Nat) : Option UInt32 :=
  ((m.trace.text? index).bind Text.number?).bind fun n =>
    if n < UInt32.size then some (UInt32.ofNat n) else none

def word? (m : Match) (index : Nat) : Option String := (m.trace.text? index).map String.ofList

/-- The operand that a group marks out: the same bytes of the message as written, cleaned. -/
def operand? (m : Match) (index : Nat) : Option String := do
  let (start, stop) ← m.trace.span? index m.searched
  let text := cleaned (← Text.cut m.message start stop)
  if text.isEmpty then none else return String.ofList text

/-- A command read from the message, with the confidence of the rule. -/
def command (m : Match) (action : Action) (target : Target) : Command :=
  (Command.of action target (String.ofList m.message)).withConfidence m.confidence

def setRange (m : Match) (range : AgeRange) : Command :=
  (m.command .set .age).withOperand (.ageRange range)

end Match

structure Rule where
  name : String
  pattern : Pattern
  confidence : Confidence
  build : Match → Option Command

/-- Asks one rule: `none` if its pattern does not match, `some none` if it matches but gives no
command.  The pattern is matched against `searched`, and operands are cut from `message`. -/
def Rule.ask (r : Rule) (window : UInt32) (searched message : List Char) : Option (Option Command) :=
  (r.pattern.find searched).map fun trace => r.build ⟨searched, trace, message, r.confidence, window⟩

/-! ### Confidences -/

/-- The confidence of an explicit statement. -/
def explicit : Confidence := Confidence.ofRatio 9 10

/-- The confidence of a statement with one value. -/
def singleValue : Confidence := Confidence.ofRatio 85 100

/-- The confidence of a relative statement. -/
def relative : Confidence := Confidence.ofRatio 8 10

/-- The confidence of a range found in a general statement. -/
def embedded : Confidence := Confidence.ofRatio 7 10

/-- The confidence of a general statement. -/
def vague : Confidence := Confidence.ofRatio 5 10

/-! ### Builders -/

/-- Two ages in either order. -/
def buildAgeRange (m : Match) : Option Command := do
  return m.setRange (← AgeRange.between? (← m.number? 1) (← m.number? 2))

/-- One age and the window around it. -/
def buildSingleAge (m : Match) : Option Command := do
  return m.setRange (← AgeRange.around? (← m.number? 1) m.window)

def buildRelative (direction : Direction) (m : Match) : Option Command :=
  some ((m.command .update .age).withOperand (.relative direction))

/-- A trait of the persona that is named, or else of the primary one. -/
def buildTrait (m : Match) : Option Command := do
  let rank := if m.word? 1 = some "secondary" then Rank.secondary else .primary
  let trait ← Trait.ofWord? (← m.word? 2)
  let text ← m.operand? 3
  let confidence := if (m.word? 1).isSome then explicit else m.confidence
  return (((m.command .update (Target.ofRank rank)).withTrait trait).withText text).withConfidence
    confidence

def buildEdit (action : Action) (shelf : Shelf) (m : Match) : Option Command := do
  return (m.command action (Target.ofShelf shelf)).withText (← m.operand? 1)

/-- The range that a text contains, if the first pair of numbers is one. -/
def embeddedRange? (s : List Char) : Option AgeRange := do
  let trace ← embeddedRange.find s
  let m : Match := ⟨s, trace, s, embedded, 0⟩
  AgeRange.between? (← m.number? 1) (← m.number? 2)

/-- A range found in the message, or else a general update of the primary persona. -/
def buildGeneral (m : Match) : Option Command :=
  match embeddedRange? (Text.lowerAscii m.message) with
  | some range => some ((m.setRange range).withConfidence embedded)
  | none => some (m.command .update .primaryPersona)

def addRule (name : String) (collection : Pattern) (confidence : Confidence) (shelf : Shelf) : Rule :=
  ⟨name, adding collection, confidence, buildEdit .add shelf⟩

def removeRule (name : String) (collection lead : Pattern) (confidence : Confidence) (shelf : Shelf) :
    Rule :=
  ⟨name, removing collection lead, confidence, buildEdit .remove shelf⟩

/-- The rules in the order in which they are asked. -/
def rules : List Rule := [
  ⟨"age_range", ageRange, explicit, buildAgeRange⟩,
  ⟨"single_age", singleAge, singleValue, buildSingleAge⟩,
  ⟨"relative_younger", relativeAge "younger", relative, buildRelative .decrease⟩,
  ⟨"relative_older", relativeAge "older", relative, buildRelative .increase⟩,
  ⟨"persona_field", personaTrait, singleValue, buildTrait⟩,
  addRule "pain_point_add" painPoints explicit .painPoints,
  removeRule "pain_point_remove" painPoints painPointLead explicit .painPoints,
  addRule "jtbd_add" jobs singleValue .jobs,
  removeRule "jtbd_remove" jobs .nothing singleValue .jobs,
  addRule "behavior_add" behaviors singleValue .behaviors,
  removeRule "behavior_remove" behaviors .nothing singleValue .behaviors,
  addRule "journey_add" stages singleValue .stages,
  removeRule "journey_remove" stages .nothing singleValue .stages,
  ⟨"persona_generic", general, vague, buildGeneral⟩]

end PersonaDialogue.Intent
