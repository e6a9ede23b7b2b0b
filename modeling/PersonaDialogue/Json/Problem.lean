import PersonaDialogue.Json.Source

/-!
# What can be wrong with a document

A document is refused for a fault of its text or for its content.  The complaints about content name
what was found and what was expected; `Complaint.message` is their wording.
-/

namespace PersonaDialogue.Json

open Number (Binary)

/-- What stands where something else was expected. -/
inductive Found
  | null
  | boolean (b : Bool)
  | whole (n : Int)
  | real (x : Binary)
  | text (s : String)
  | sequence
  | map
deriving DecidableEq, Repr

def Found.describe : Found → String
  | null => "null"
  | boolean b => "boolean `" ++ (if b then "true" else "false") ++ "`"
  | whole n => "integer `" ++ String.ofList (wholeText n) ++ "`"
  | real x => "floating point `" ++ String.ofList (Numeric.double x).text ++ "`"
  | text s => "string " ++ Text.quoted s
  | sequence => "sequence"
  | map => "map"

/-- A reason to refuse the content of a document. -/
inductive Complaint
  | missingField (name : String)
  | duplicateField (name : String)
  | unknownVariant (name : String) (known : List String)
  | invalidType (found : Found) (expected : String)
  | invalidValue (found : Found) (expected : String)
  | invalidLength (length : Nat) (expected : String)
  | notA (what : String)
deriving DecidableEq, Repr

/-- A name between backticks. -/
def ticked (name : String) : String := "`" ++ name ++ "`"

def choices : List String → String
  | [] => "nothing"
  | [a] => ticked a
  | [a, b] => ticked a ++ " or " ++ ticked b
  | names => "one of " ++ String.intercalate ", " (names.map ticked)

def decimal (n : Nat) : String := String.ofList (Nat.toDigits 10 n)

def Complaint.message : Complaint → String
  | missingField name => "missing field " ++ ticked name
  | duplicateField name => "duplicate field " ++ ticked name
  | unknownVariant name known => "unknown variant " ++ ticked name ++ ", expected " ++ choices known
  | invalidType found expected => "invalid type: " ++ found.describe ++ ", expected " ++ expected
  | invalidValue found expected => "invalid value: " ++ found.describe ++ ", expected " ++ expected
  | invalidLength n expected => "invalid length " ++ decimal n ++ ", expected " ++ expected
  | notA what => "not " ++ what

inductive Problem
  | fault (f : Fault)
  | content (c : Complaint)
deriving DecidableEq, Repr

/-- The result of reading a document, or the first problem in it. -/
abbrev Reading (α : Type) := Except Problem α

/-- Turns a fault of the text into a problem. -/
def lift {α : Type} : Except Fault α → Reading α
  | .ok a => .ok a
  | .error f => .error (.fault f)

def complain {α : Type} (c : Complaint) : Reading α := .error (.content c)

/-- A text that is not JSON, as a result. -/
def malformed {α : Type} : Reading α := .error (.fault .malformed)

end PersonaDialogue.Json
