import PersonaDialogue.Toml.Scalar

/-!
# Reading TOML

A document is read line by line into statements, which then make a table.  At most 79 arrays and
tables may be nested in one value, and a key has at most 79 parts.
-/

namespace PersonaDialogue.Toml

/-! ### Keys -/

/-- A character that a key may hold without quotes. -/
def isBare (c : Char) : Bool := c.isAlphanum || c == '-' || c == '_'

def keyPart? (s : List Char) : Option (String × List Char) :=
  let bare := s.takeWhile isBare
  if bare.isEmpty then (shortString? s).map fun (text, rest) => (String.ofList text, rest)
  else some (String.ofList bare, s.dropWhile isBare)

/-- Reads a key of at most `limit` parts, and the space around it. -/
def key? : (limit : Nat) → List Char → Option (List String × List Char)
  | 0, _ => none
  | limit + 1, s => do
    let (part, s) ← keyPart? (skipSpace s)
    let s := skipSpace s
    if s.head? = some '.' then
      let (more, s) ← key? limit (s.drop 1)
      return (part :: more, s)
    else return ([part], s)

/-- The most parts that a key can have, and the most arrays and tables that can be nested. -/
def limit : Nat := 79

/-! ### Space between values -/

/-- Passes over spaces, line breaks and comments; `comment` tells that a comment is open, which a line
break must end. -/
def skipGap : (comment : Bool) → List Char → Option (List Char)
  | comment, [] => if comment then none else some []
  | comment, c :: s =>
    if c = '\n' then skipGap false s
    else if c = '\r' ∧ atLineFeed s then skipGap comment s
    else if comment then (if isPlain c then skipGap true s else none)
    else if isSpace c then skipGap false s
    else if c = '#' then skipGap true s
    else some (c :: s)

/-- Passes over the end of a line: spaces, perhaps a comment, and a line break or the end. -/
def endLine? (s : List Char) : Option (List Char) :=
  let s := skipSpace s
  let s := if s.head? = some '#' then (s.drop 1).dropWhile isPlain else s
  if s.isEmpty then some [] else lineBreak? s

/-! ### Values -/

abbrev ValueReader := List Char → Option (Value × List Char)

/-- Reads the rest of an array, of at most `fuel` values, after its bracket or a comma. -/
def items? (value : ValueReader) : (fuel : Nat) → List Char → Option (List Value × List Char)
  | 0, _ => none
  | fuel + 1, s => do
    let s ← skipGap false s
    if s.head? = some ']' then return ([], s.drop 1)
    else
      let (v, s) ← value s
      let s ← skipGap false s
      if s.head? = some ',' then
        let (more, s) ← items? value fuel (s.drop 1)
        return (v :: more, s)
      else return ([v], ← exactly? ']' s)

def pair? (value : ValueReader) (s : List Char) : Option ((List String × Value) × List Char) := do
  let (path, s) ← key? limit s
  let (v, s) ← value (skipSpace (← exactly? '=' s))
  return ((path, v), s)

/-- Reads the rest of a table on one line, of at most `fuel` members, after its brace or a comma. -/
def members? (value : ValueReader) :
    (fuel : Nat) → List Char → Option (List (List String × Value) × List Char)
  | 0, _ => none
  | fuel + 1, s => do
    let (p, s) ← pair? value s
    let s := skipSpace s
    if s.head? = some ',' then
      let (more, s) ← members? value fuel (s.drop 1)
      return (p :: more, s)
    else return ([p], ← exactly? '\x7d' s)

def inlineTable? (value : ValueReader) (s : List Char) : Option (Value × List Char) := do
  let inner := skipSpace s
  if inner.head? = some '\x7d' then return (.table .inline [], inner.drop 1)
  else
    let (pairs, s) ← members? value s.length s
    let table ← pairs.foldlM (fun (ms : Members) p => ms.assign p.1 p.2) []
    return (.table .inline table, s)

/-- Reads a value in which at most `depth` arrays and tables are nested. -/
def value? : (depth : Nat) → ValueReader
  | _, [] => none
  | depth, c :: s =>
    if c = '"' ∨ c = '\'' then
      (string? (c :: s)).map fun (text, rest) => (.text (String.ofList text), rest)
    else if c = '[' then
      match depth with
      | 0 => none
      | depth + 1 => (items? (value? depth) (s.length + 1) s).map fun (vs, rest) => (.array vs, rest)
    else if c = '\x7b' then
      match depth with
      | 0 => none
      | depth + 1 => inlineTable? (value? depth) s
    else (boolean? (c :: s)).or (figure? (c :: s))

/-! ### Statements -/

def header? (s : List Char) : Option (Statement × List Char) := do
  if s.head? = some '[' then
    let (path, s) ← key? limit (s.drop 1)
    return (.row path, ← exactly? ']' (← exactly? ']' s))
  else
    let (path, s) ← key? limit s
    return (.header path, ← exactly? ']' s)

def statement? (s : List Char) : Option (Statement × List Char) :=
  if s.head? = some '[' then header? (s.drop 1)
  else (pair? (value? limit) s).map fun ((path, v), rest) => (.entry path v, rest)

/-- Is there no statement on this line? -/
def atEnd (s : List Char) : Bool :=
  s.isEmpty || s.head? == some '#' || (lineBreak? s).isSome

/-- Reads statements on at most `fuel` lines. -/
def statements? : (fuel : Nat) → List Char → Option (List Statement)
  | 0, s => if s.isEmpty then some [] else none
  | fuel + 1, s => do
    let s := skipSpace s
    if s.isEmpty then return []
    else if atEnd s then statements? fuel (← endLine? s)
    else
      let (st, s) ← statement? s
      return st :: (← statements? fuel (← endLine? s))

/-- The mark at the beginning of a document that says it is Unicode. -/
def byteOrderMark : Char := '\uFEFF'

def readChars (s : List Char) : Option Members := do
  let s := if s.head? = some byteOrderMark then s.drop 1 else s
  build (← statements? s.length s)

def read (text : String) : Option Members := readChars text.toList

end PersonaDialogue.Toml
