import PersonaDialogue.Number.Shortest
import PersonaDialogue.Text.Quoted

/-!
# JSON values and their text

A value keeps the members of an object in the order in which they were given.  `compact` writes a
value without any space, `pretty` with one member or element on a line, indented by two spaces a
level.  Numbers are written with the fewest digits that read back, and what has no JSON form (not a
number, infinity) as `null`.
-/

namespace PersonaDialogue.Json

open Number (Binary Layout)

/-- A number: whole, or of one of the two binary formats. -/
inductive Numeric
  | whole (n : Int)
  | single (x : Binary)
  | double (x : Binary)
deriving DecidableEq, Repr

inductive Value
  | null
  | boolean (b : Bool)
  | number (n : Numeric)
  | text (s : String)
  | array (items : List Value)
  | object (members : List (String × Value))
deriving Repr

instance : Inhabited Value := ⟨.null⟩

def wholeText (n : Int) : List Char :=
  if n < 0 then '-' :: Nat.toDigits 10 n.natAbs else Nat.toDigits 10 n.natAbs

/-- Numbers of 32 bits are written out in places from a millionth up to a million millions. -/
def singleLayout : Layout := ⟨-6, 12⟩

/-- Numbers of 64 bits are written out in places from `0.00001` up to sixteen digits. -/
def doubleLayout : Layout := ⟨-5, 15⟩

def Numeric.text : Numeric → List Char
  | whole n => wholeText n
  | single x => (singleLayout.text? Number.single x).getD "null".toList
  | double x => (doubleLayout.text? Number.double x).getD "null".toList

/-- A character inside a JSON string: quote and backslash are escaped, the controls of ASCII have a
name or are given by their code point, and everything else stands for itself. -/
def escapeChar (c : Char) : List Char :=
  if c = '"' then ['\\', '"']
  else if c = '\\' then ['\\', '\\']
  else if c.toNat = 8 then ['\\', 'b']
  else if c.toNat = 9 then ['\\', 't']
  else if c.toNat = 10 then ['\\', 'n']
  else if c.toNat = 12 then ['\\', 'f']
  else if c.toNat = 13 then ['\\', 'r']
  else if c.toNat < 32 then
    ['\\', 'u', '0', '0', Text.hexDigit (c.toNat / 16), Text.hexDigit (c.toNat % 16)]
  else [c]

def textLiteral (s : String) : List Char := ['"'] ++ s.toList.flatMap escapeChar ++ ['"']

namespace Value

mutual

/-- A value without any space. -/
def compactChars : Value → List Char
  | null => "null".toList
  | boolean b => if b then "true".toList else "false".toList
  | number n => n.text
  | text s => textLiteral s
  | array items => '[' :: compactItems items
  | object members => '\x7b' :: compactMembers members

def compactItems : List Value → List Char
  | [] => [']']
  | v :: rest => compactChars v ++ compactMoreItems rest

def compactMoreItems : List Value → List Char
  | [] => [']']
  | v :: rest => ',' :: (compactChars v ++ compactMoreItems rest)

def compactMembers : List (String × Value) → List Char
  | [] => ['\x7d']
  | (key, v) :: rest => textLiteral key ++ ':' :: (compactChars v ++ compactMoreMembers rest)

def compactMoreMembers : List (String × Value) → List Char
  | [] => ['\x7d']
  | (key, v) :: rest => ',' :: (textLiteral key ++ ':' :: (compactChars v ++ compactMoreMembers rest))

end

/-- The beginning of a line at a level of nesting. -/
def newLine (level : Nat) : List Char := '\n' :: List.replicate (2 * level) ' '

mutual

/-- A value whose first line begins at a level of nesting. -/
def prettyChars (level : Nat) : Value → List Char
  | array [] => ['[', ']']
  | array (v :: rest) =>
    '[' :: (newLine (level + 1) ++ prettyChars (level + 1) v ++ prettyMoreItems level rest)
  | object [] => ['\x7b', '\x7d']
  | object ((key, v) :: rest) =>
    '\x7b' :: (newLine (level + 1) ++ textLiteral key ++ [':', ' '] ++ prettyChars (level + 1) v ++
      prettyMoreMembers level rest)
  | null => compactChars null
  | boolean b => compactChars (boolean b)
  | number n => compactChars (number n)
  | text s => compactChars (text s)

/-- The elements after the first, and the closing bracket on a line of its own. -/
def prettyMoreItems (level : Nat) : List Value → List Char
  | [] => newLine level ++ [']']
  | v :: rest =>
    ',' :: (newLine (level + 1) ++ prettyChars (level + 1) v ++ prettyMoreItems level rest)

/-- The members after the first, and the closing brace on a line of its own. -/
def prettyMoreMembers (level : Nat) : List (String × Value) → List Char
  | [] => newLine level ++ ['\x7d']
  | (key, v) :: rest =>
    ',' :: (newLine (level + 1) ++ textLiteral key ++ [':', ' '] ++ prettyChars (level + 1) v ++
      prettyMoreMembers level rest)

end

def compact (v : Value) : String := String.ofList v.compactChars

/-- The text of a value with one member or element on a line. -/
def pretty (v : Value) : String := String.ofList (v.prettyChars 0)

/-- Puts a member into a list sorted by key; a key that is there already gets the new value. -/
def insertMember (key : String) (v : Value) : List (String × Value) → List (String × Value)
  | [] => [(key, v)]
  | (k, w) :: rest =>
    if key < k then (key, v) :: (k, w) :: rest
    else if key = k then (key, v) :: rest
    else (k, w) :: insertMember key v rest

mutual

/-- The form in which a value is held as data: the members of every object sorted by key, of equal
keys the last, and every number of 32 bits as the number of 64 bits that it is. -/
def canonical : Value → Value
  | null => null
  | boolean b => boolean b
  | number (.single x) => number (.double (x.convert Number.double))
  | number n => number n
  | text s => text s
  | array items => array (canonicalItems items)
  | object members => object (canonicalMembers [] members)

def canonicalItems : List Value → List Value
  | [] => []
  | v :: rest => canonical v :: canonicalItems rest

/-- The members of an object in canonical form, added to a sorted list. -/
def canonicalMembers (sorted : List (String × Value)) : List (String × Value) → List (String × Value)
  | [] => sorted
  | (key, v) :: rest => canonicalMembers (insertMember key (canonical v) sorted) rest

end

/-- The first member of an object with a key. -/
def member? (key : String) : Value → Option Value
  | object members => members.lookup key
  | _ => none

def ofNat (n : Nat) : Value := number (.whole n)

/-- A text, or null. -/
def ofText? (s : Option String) : Value := (s.map text).getD null

end Value

end PersonaDialogue.Json
