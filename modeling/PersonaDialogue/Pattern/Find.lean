import PersonaDialogue.Pattern.Basic
import PersonaDialogue.Text.Utf8
import PersonaDialogue.Text.Word

/-!
# Finding a pattern in a text

Matching runs over all places of the text at once.  A *column* holds, for every place, how the match
goes on from there (or that it cannot), and `Pattern.column p k` turns the column `k` of what follows
the pattern into the column of the pattern and what follows it.  Each step is one pass over the text,
so the cost is the size of the pattern times the length of the text, and no choice is tried twice.
At every place the preferred way to match wins; `Pattern.find` takes the leftmost place that has one.
-/

namespace PersonaDialogue

/-- A place in a text: the character before it, and all that follows it. -/
structure Place where
  before : Option Char
  rest : List Char
deriving DecidableEq, Repr

namespace Place

/-- The places of `s` from its beginning to its end, when `before` precedes it. -/
def all (before : Option Char) : List Char → List Place
  | [] => [⟨before, []⟩]
  | c :: s => ⟨before, c :: s⟩ :: all (some c) s

/-- Does a character of the class come next? -/
def reads (cls : CharClass) (p : Place) : Bool :=
  match p.rest with
  | c :: _ => cls.accepts c
  | [] => false

/-- Is exactly one of the two neighbouring characters part of a word? -/
def isBoundary (p : Place) : Bool := p.before.any Text.isWord != p.rest.head?.any Text.isWord

def isStart (p : Place) : Bool := p.before.isNone

def isStop (p : Place) : Bool := p.rest.isEmpty

end Place

/-- A group was entered or left with `rest` still to come. -/
inductive Mark
  | enter (index : Nat) (rest : List Char)
  | leave (index : Nat) (rest : List Char)
deriving DecidableEq, Repr

/-- The marks that a match sets, in the order of the text. -/
abbrev Trace := List Mark

/-- For every place of a text, the trace of the preferred match from there. -/
abbrev Column := List (Option Trace)

namespace Column

/-- The column seen one place earlier: what a match finds after one more character. -/
def later (k : Column) : Column := k.tail ++ [none]

/-- Keeps the entries of the places that satisfy `keep`. -/
def only (keep : Place → Bool) (ps : List Place) (k : Column) : Column :=
  List.zipWith (fun p r => if keep p then r else none) ps k

/-- At every place the first column's entry, or else the second's. -/
def orElse (j k : Column) : Column := List.zipWith (fun a b => a <|> b) j k

def marked (mark : List Char → Mark) (ps : List Place) (k : Column) : Column :=
  List.zipWith (fun p r => r.map (mark p.rest :: ·)) ps k

/-- One character of the class, then `k`. -/
def afterOne (cls : CharClass) (ps : List Place) (k : Column) : Column :=
  k.later.only (Place.reads cls) ps

/-- Prefers to go on if `eager`, and to stop otherwise. -/
def prefer (eager : Bool) (goOn stop : Option Trace) : Option Trace :=
  if eager then goOn <|> stop else stop <|> goOn

/-- Up to `most` characters of the class, then `k`. -/
def afterUpTo (cls : CharClass) (eager : Bool) (ps : List Place) (k : Column) : Nat → Column
  | 0 => k
  | most + 1 =>
    List.zipWith (prefer eager) (afterOne cls ps (afterUpTo cls eager ps k most)) k

/-- Any number of characters of the class, then `k`: filled from the end of the text. -/
def afterMany (cls : CharClass) (eager : Bool) (ps : List Place) (k : Column) : Column :=
  (ps.zip k).foldr
    (fun (p, r) later =>
      prefer eager (if p.reads cls then later.head?.join else none) r :: later) []

end Column

namespace Pattern

/-- The column of a pattern in front of what the column `k` says. -/
def column (ps : List Place) : Pattern → Column → Column
  | nothing, k => k
  | char cls, k => k.afterOne cls ps
  | seq p q, k => column ps p (column ps q k)
  | either p q, k => (column ps p k).orElse (column ps q k)
  | run cls none eager, k => k.afterMany cls eager ps
  | run cls (some most) eager, k => k.afterUpTo cls eager ps most
  | group index p, k => (column ps p (k.marked (.leave index) ps)).marked (.enter index) ps
  | boundary, k => k.only Place.isBoundary ps
  | start, k => k.only Place.isStart ps
  | stop, k => k.only Place.isStop ps

/-- The trace of the leftmost, preferred match of a pattern in a text. -/
def find (p : Pattern) (s : List Char) : Option Trace :=
  let ps := Place.all none s
  (column ps p (ps.map fun _ => some [])).findSome? id

end Pattern

namespace Trace

/-- What follows the place where a group was entered. -/
def entered? (index : Nat) : Trace → Option (List Char)
  | [] => none
  | .enter i rest :: later => if i = index then some rest else entered? index later
  | .leave _ _ :: later => entered? index later

/-- What follows the place where a group was left. -/
def left? (index : Nat) : Trace → Option (List Char)
  | [] => none
  | .leave i rest :: later => if i = index then some rest else left? index later
  | .enter _ _ :: later => left? index later

def text? (index : Nat) (t : Trace) : Option (List Char) := do
  let start ← t.entered? index
  let stop ← t.left? index
  return start.take (start.length - stop.length)

/-- The byte offsets in `whole`, the text searched, at which a group begins and ends. -/
def span? (index : Nat) (whole : List Char) (t : Trace) : Option (Nat × Nat) := do
  let start ← t.entered? index
  let stop ← t.left? index
  return (Text.byteSize whole - Text.byteSize start, Text.byteSize whole - Text.byteSize stop)

end Trace

end PersonaDialogue
