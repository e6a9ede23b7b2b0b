import PersonaDialogue.Text.Blank
import PersonaDialogue.Text.Digit

/-!
# Patterns

The syntax of patterns over characters: literals and classes, sequence, ordered choice, repetition
of a class, numbered groups, and the three places that can be asked for (a word boundary, the start
and the end of the text).  Repetition is of single characters only, which is all that the rules need
and keeps a pattern's meaning a recursion on its syntax.
-/

namespace PersonaDialogue

inductive CharClass
  | only (c : Char)
  | among (cs : List Char)
  | blank
  | digit
  | nonDigit
  | notNewline
deriving DecidableEq, Repr

def CharClass.accepts : CharClass → Char → Bool
  | only d, c => c == d
  | among ds, c => ds.contains c
  | blank, c => Text.isBlank c
  | digit, c => Text.isDigit c
  | nonDigit, c => !Text.isDigit c
  | notNewline, c => c != '\n'

/-- A pattern.  `either p q` prefers `p`; `run cls most eager` repeats `cls` up to `most` times, as
often as it can if `eager` and as seldom as it can otherwise. -/
inductive Pattern
  | nothing
  | char (cls : CharClass)
  | seq (p q : Pattern)
  | either (p q : Pattern)
  | run (cls : CharClass) (most : Option Nat) (eager : Bool)
  | group (index : Nat) (p : Pattern)
  | boundary
  | start
  | stop
deriving DecidableEq, Repr

namespace Pattern

instance : Append Pattern := ⟨seq⟩

def word (s : String) : Pattern := s.toList.foldr (fun c p => seq (char (.only c)) p) nothing

/-- The first of several patterns that leads to a match. -/
def oneOf : List Pattern → Pattern
  | [] => nothing
  | [p] => p
  | p :: ps => either p (oneOf ps)

/-- One of several words, earlier ones first. -/
def anyWord (words : List String) : Pattern := oneOf (words.map word)

/-- `p` if it leads to a match, and nothing otherwise. -/
def optional (p : Pattern) : Pattern := either p nothing

/-- Any number of characters of a class, as many as possible. -/
def many (cls : CharClass) : Pattern := run cls none true

/-- Any number of characters of a class, as few as possible. -/
def few (cls : CharClass) : Pattern := run cls none false

/-- One or more characters of a class, as many as possible. -/
def atLeastOne (cls : CharClass) : Pattern := char cls ++ many cls

/-- One to `most` characters of a class, as many as possible. -/
def upTo (most : Nat) (cls : CharClass) : Pattern := char cls ++ run cls (some (most - 1)) true

/-- White space between two words. -/
def gap : Pattern := atLeastOne .blank

/-- White space that may be absent. -/
def space : Pattern := many .blank

end Pattern

end PersonaDialogue
