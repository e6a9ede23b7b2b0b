import PersonaDialogue.Text.Blank

/-!
# Cleaning operands

The words of a message that become a text operand lose what surrounds them: white space, sentence
marks at the end, and then quotes on both sides.  Each of the five passes runs once, in this order.
-/

namespace PersonaDialogue.Intent

def isSentenceMark (c : Char) : Bool := c == '.' || c == '!' || c == '?' || c == ','

def isQuote (c : Char) : Bool := c == '"' || c == '\''

def stripQuotes (s : List Char) : List Char := Text.trimEndWhile isQuote (s.dropWhile isQuote)

/-- A text without what surrounds it. -/
def cleaned (s : List Char) : List Char :=
  Text.trim (stripQuotes (Text.trim (Text.trimEndWhile isSentenceMark (Text.trim s))))

end PersonaDialogue.Intent
