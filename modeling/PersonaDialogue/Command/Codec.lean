import PersonaDialogue.Canvas.Codec
import PersonaDialogue.Command.Basic

/-!
# Commands as documents

A command is one line of JSON: an object whose members stand in a fixed order, absent trait and
operand left out.  An operand is an object with its kind and its value.  When it is read, the two may
come in either order; a value that comes before its kind is first read as any value, and only then
taken for what the kind says.
-/

namespace PersonaDialogue

open Json

namespace Operand

def toJson : Operand → Value
  | ageRange r => .object [("kind", .text "age_range"), ("value", r.toJson)]
  | relative d => .object [("kind", .text "relative"), ("value", .text d.label)]
  | text s => .object [("kind", .text "text"), ("value", .text s)]

inductive Kind
  | ageRange
  | relative
  | text
deriving DecidableEq, Repr

def kinds : List (String × Kind) :=
  [("age_range", .ageRange), ("relative", .relative), ("text", .text)]

/-- What an operand is called in messages. -/
def title : String := "adjacently tagged enum CommandValue"

def decodeValueOf (kind : Kind) : Decoder Operand := fun depth v =>
  match kind with
  | .ageRange => do return .ageRange (← AgeRange.decode depth v)
  | .relative => do return .relative (← decodeVariant Direction.table depth v)
  | .text => do return .text (← decodeText depth v)

/-- The empty content of a name in a value that was read before: `null` or an empty object. -/
def unitOf : Node → Reading Unit
  | .null => .ok ()
  | .object [] _ => .ok ()
  | v => v.mismatch "unit"

/-- One of several names in a value that was read before. -/
def variantOf {α : Type} (table : List (String × α)) : Node → Reading α
  | .text l => do variant table (← lift l.read)
  | .object [(key, v)] _ => do
    let a ← variant table (← lift key.read)
    unitOf v
    return a
  | .object _ _ => complain (.invalidValue .map "map with a single key")
  | v => v.mismatch "string or map"

/-- A range in a value that was read before: an array may not be too long. -/
def rangeOf (depth : Nat) : Node → Reading AgeRange
  | .array (min :: max :: further :: more) _ => do
    let _ ← AgeRange.decode depth (.array [min, max] none)
    complain (.invalidLength (2 + (further :: more).length) "2 elements in sequence")
  | v => AgeRange.decode depth v

/-- Takes a value that was read before for the value of an operand. -/
def ofValue (kind : Kind) (depth : Nat) (v : Node) : Reading Operand :=
  match kind with
  | .ageRange => do return .ageRange (← rangeOf depth v)
  | .relative => do return .relative (← variantOf Direction.table v)
  | .text => do return .text (← decodeText depth v)

/-- The members of an operand that matter. -/
inductive Part
  | kind
  | value
deriving DecidableEq, Repr

def part? (name : String) : Option Part :=
  if name = "kind" then some .kind else if name = "value" then some .value else none

/-- Passes over members until one matters: which part it is, its value, and the members after it. -/
def nextPart (ending : Ending) :
    List (Literal × Node) → Reading (Option (Part × Node × List (Literal × Node)))
  | [] => do lift ending.raise; return none
  | (key, v) :: rest => do
    match part? (← lift key.read) with
    | some p => return some (p, v, rest)
    | none => do lift v.skip; nextPart ending rest

/-- Refuses a part that comes once more. -/
def noMoreParts (ending : Ending) (members : List (Literal × Node)) : Reading Unit := do
  match ← nextPart ending members with
  | none => return ()
  | some (.kind, _) => complain (.duplicateField "kind")
  | some (.value, _) => complain (.duplicateField "value")

def decodeParts (depth : Nat) (ending : Ending) (members : List (Literal × Node)) :
    Reading Operand := do
  match ← nextPart ending members with
  | none => complain (.missingField "kind")
  | some (.kind, tag, rest) => do
    let kind ← decodeVariant kinds depth tag
    match ← nextPart ending rest with
    | none => complain (.missingField "value")
    | some (.kind, _) => complain (.duplicateField "kind")
    | some (.value, v, rest) => do
      let operand ← decodeValueOf kind depth v
      noMoreParts ending rest
      return operand
  | some (.value, v, rest) => do
    let _ ← Json.decodeValue depth v
    match ← nextPart ending rest with
    | none => complain (.missingField "kind")
    | some (.value, _) => complain (.duplicateField "value")
    | some (.kind, tag, rest) => do
      let kind ← decodeVariant kinds depth tag
      let operand ← ofValue kind depth v
      noMoreParts ending rest
      return operand

/-- Reads an operand: an object, or the array of kind and value, in which the kind is a string. -/
def decode : Decoder Operand
  | depth, .object members ending => do decodeParts (← enter depth) ending members
  | depth, .array items ending => do
    let depth ← enter depth
    match items with
    | [] => do lift (raise ending); complain (.invalidLength 0 title)
    | tag :: items => do
      let kind ← decodeName kinds depth tag
      match items with
      | [] => do lift (raise ending); complain (.invalidLength 1 title)
      | v :: items => do
        let operand ← decodeValueOf kind depth v
        match items with
        | [] => do lift (raise ending); return operand
        | _ :: _ => malformed
  | _, v => v.mismatch title

end Operand

namespace Command

/-- A member that is left out if there is nothing to say. -/
def present (name : String) (v : Option Value) : List (String × Value) :=
  (v.map fun v => (name, v)).toList

def toJson (c : Command) : Value :=
  .object ([("action", .text c.action.label), ("target", .text c.target.label)] ++
    present "field" (c.trait.map fun t => .text t.label) ++
    present "value" (c.operand.map Operand.toJson) ++
    [("confidence", .number (.single c.confidence)), ("raw_command", .text c.raw)])

def fields :
    Fields (Action × Target × Option Trait × Option Operand × Confidence × String × Unit) :=
  .field "action" (decodeVariant Action.table) .required <|
  .field "target" (decodeVariant Target.table) .required <|
  .field "field" (decodeOption (decodeVariant Trait.table)) (.anywhere none) <|
  .field "value" (decodeOption Operand.decode) (.anywhere none) <|
  .field "confidence" decodeSingle .required <|
  .field "raw_command" decodeText .required .nil

def decode : Decoder Command := fun depth v => do
  let (action, target, trait, operand, confidence, raw, ()) ←
    fields.decode "struct Command" depth v
  return ⟨action, target, trait, operand, confidence, raw⟩

def toLine (c : Command) : String := c.toJson.compact

def ofLine (line : String) : Reading Command := Json.read decode line

end Command

end PersonaDialogue
