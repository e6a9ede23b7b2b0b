import PersonaDialogue.Json.Source

/-!
# Strings in TOML

There are four ways to quote a string: between double quotes with escapes, between single quotes as
it stands, and both of these over several lines between three quotes.  `Quoting.body` reads what
follows the opening quotes, up to and with the closing ones.
-/

namespace PersonaDialogue.Toml

/-- A space or a tab. -/
def isSpace (c : Char) : Bool := c == ' ' || c == '\t'

/-- A character that may stand in a comment: a tab, or no control character of ASCII. -/
def isPlain (c : Char) : Bool := c == '\t' || (0x20 ≤ c.toNat && c.toNat != 0x7f)

/-- A text without the spaces and tabs that it begins with. -/
def skipSpace (s : List Char) : List Char := s.dropWhile isSpace

def atLineFeed (s : List Char) : Bool := s.head? == some '\n'

/-- What follows a line break, if the text begins with one. -/
def lineBreak? : List Char → Option (List Char)
  | [] => none
  | c :: s => if c = '\n' then some s else if c = '\r' ∧ atLineFeed s then some (s.drop 1) else none

structure Quoting where
  /-- The quotation mark. -/
  mark : Char
  /-- Does a backslash escape? -/
  escapes : Bool
  /-- Between three marks, with line breaks? -/
  lines : Bool
deriving DecidableEq, Repr

/-- What the reader of a string is amid. -/
inductive Amid
  /-- Anything may come. -/
  | text
  /-- A line break was escaped, and all blank that follows is passed over. -/
  | gap
  /-- A backslash was read. -/
  | escape
  /-- A backslash and spaces were read, and a line break must follow. -/
  | breaking
  /-- Digits of a code point are read: after the next one, `missing` more. -/
  | code (missing soFar : Nat)
deriving DecidableEq, Repr

/-- The character that a backslash and a letter give. -/
def named? (c : Char) : Option Char :=
  if c = 'b' then some (Char.ofNat 8)
  else if c = 't' then some '\t'
  else if c = 'n' then some '\n'
  else if c = 'f' then some (Char.ofNat 12)
  else if c = 'r' then some '\r'
  else if c = '"' then some '"'
  else if c = '\\' then some '\\'
  else none

def scalar? (n : Nat) : Option Char :=
  if n < 0xD800 ∨ (0xE000 ≤ n ∧ n < 0x110000) then some (Char.ofNat n) else none

/-- What the reader is amid after a blank character of an escaped line break; `rest` follows it. -/
def breaking? (c : Char) (rest : List Char) : Option Amid :=
  if isSpace c then some .breaking
  else if c = '\n' then some .gap
  else if c = '\r' ∧ atLineFeed rest then some .breaking
  else none

/-- Is this blank that follows an escaped line break? -/
def isGap (c : Char) (rest : List Char) : Bool :=
  isSpace c || c == '\n' || (c == '\r' && atLineFeed rest)

def emit (c : Char) (r : Option (List Char × List Char)) : Option (List Char × List Char) :=
  r.map fun (text, rest) => (c :: text, rest)

namespace Quoting

/-- What a mark in a string over several lines does: with two more it closes the string, and of the
marks that follow up to two belong to the text; `none` if it stands for itself. -/
def close? (q : Quoting) (rest : List Char) : Option (List Char × List Char) :=
  if rest.take 2 = [q.mark, q.mark] then
    let extra := ((rest.drop 2).take 2).takeWhile (· == q.mark)
    some (extra, rest.drop (2 + extra.length))
  else none

/-- Reads a string after its opening marks: its text, and what follows the closing marks. -/
def body (q : Quoting) : Amid → List Char → Option (List Char × List Char)
  | _, [] => none
  | .code missing soFar, c :: s => do
    let n := soFar * 16 + (← Json.hexValue? c)
    match missing with
    | 0 => emit (← scalar? n) (q.body .text s)
    | m + 1 => q.body (.code m n) s
  | .escape, c :: s =>
    if c = 'u' then q.body (.code 3 0) s
    else if c = 'U' then q.body (.code 7 0) s
    else
      match named? c with
      | some x => emit x (q.body .text s)
      | none => if q.lines then (breaking? c s).bind fun amid => q.body amid s else none
  | .breaking, c :: s => (breaking? c s).bind fun amid => q.body amid s
  | amid, c :: s =>
    if amid = .gap ∧ isGap c s then q.body .gap s
    else if c = q.mark then
      if q.lines then
        match q.close? s with
        | some closed => some closed
        | none => emit c (q.body .text s)
      else some ([], s)
    else if c = '\\' ∧ q.escapes then q.body .escape s
    else if c = '\n' ∧ q.lines then emit c (q.body .text s)
    else if c = '\r' ∧ q.lines ∧ atLineFeed s then q.body .text s
    else if isPlain c then emit c (q.body .text s)
    else none

end Quoting

/-- Double quotes, with escapes. -/
def basic : Quoting := ⟨'"', true, false⟩

/-- Single quotes, without escapes. -/
def literal : Quoting := ⟨'\'', false, false⟩

/-- Three double quotes, with escapes and line breaks. -/
def basicLines : Quoting := ⟨'"', true, true⟩

/-- Three single quotes, with line breaks. -/
def literalLines : Quoting := ⟨'\'', false, true⟩

/-- Reads a string over several lines after its opening marks; a line break right after them does not
belong to the text. -/
def Quoting.bodyOfLines (q : Quoting) (s : List Char) : Option (List Char × List Char) :=
  q.body .text ((lineBreak? s).getD s)

/-- Reads a string on one line; `none` if the text begins with no quotation mark. -/
def shortString? : List Char → Option (List Char × List Char)
  | [] => none
  | c :: s =>
    if c = '"' then basic.body .text s else if c = '\'' then literal.body .text s else none

/-- Reads a string of any kind; `none` if the text begins with no quotation mark. -/
def string? (s : List Char) : Option (List Char × List Char) :=
  if s.take 3 = ['"', '"', '"'] then basicLines.bodyOfLines (s.drop 3)
  else if s.take 3 = ['\'', '\'', '\''] then literalLines.bodyOfLines (s.drop 3)
  else shortString? s

end PersonaDialogue.Toml
