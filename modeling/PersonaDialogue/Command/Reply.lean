import PersonaDialogue.Command.Basic
import PersonaDialogue.Json.Problem

/-!
# Replies

Every command has a one-sentence reply that says what it asked for.  A command whose parts do not fit
together gets the general one.
-/

namespace PersonaDialogue

/-- The reply to a command that says nothing in particular. -/
def acknowledgement : String := "I've made the requested changes."

/-- The reply to a message that holds no command. -/
def noMatchReply : String :=
  "I didn't quite understand that. Try something like \"change age to 18-30\", " ++
    "\"make them younger\", \"change name to Sam\", or \"add pain point Too slow\"."

/-- A text between double quotes, as it is. -/
def inQuotes (s : String) : String := "\"" ++ s ++ "\""

namespace Command

def describeAge : Option Operand → String
  | some (.ageRange r) =>
    "I've updated the age range to " ++ Json.decimal r.min.toNat ++ "-" ++ Json.decimal r.max.toNat ++
      " years."
  | some (.relative .decrease) => "I've made the persona younger."
  | some (.relative .increase) => "I've made the persona older."
  | _ => acknowledgement

def describePersona (rank : Rank) : Option Trait → Option Operand → String
  | some t, some (.text s) =>
    "I've updated the " ++ rank.label ++ " persona's " ++ t.label ++ " to " ++ inQuotes s ++ "."
  | _, _ => acknowledgement

def describeShelf (shelf : Shelf) : Action → Option Operand → String
  | .add, some (.text s) => "I've added the " ++ shelf.label ++ ": " ++ inQuotes s ++ "."
  | .remove, some (.text s) =>
    "I've removed any " ++ shelf.label ++ "s matching " ++ inQuotes s ++ "."
  | _, _ => acknowledgement

def describe (c : Command) : String :=
  match c.target.subject with
  | .age => describeAge c.operand
  | .persona rank => describePersona rank c.trait c.operand
  | .shelf shelf => describeShelf shelf c.action c.operand

end Command

end PersonaDialogue
