import PersonaDialogue.Number.Binary
import PersonaDialogue.Text.Digit
import PersonaDialogue.Toml.Quoting
import PersonaDialogue.Toml.Table

/-!
# Numbers, truth values, dates and times in TOML

A whole number is decimal with an optional sign, or has a base of sixteen, eight or two; single
underscores may stand between digits, and it must fit 64 bits.  Any other number must not exceed the
finite numbers of 64 bits.  A date or a time must be one of the calendar and of the clock.
-/

namespace PersonaDialogue.Toml

-- Powers are the built-in ones, also where others are in scope.
attribute [local instance (20000)] instPowNat

def word? (word : String) (s : List Char) : Option (List Char) :=
  let w := word.toList
  if s.take w.length = w then some (s.drop w.length) else none

/-! ### Digits -/

def isDigitIn (base : Nat) (c : Char) : Bool :=
  match Json.hexValue? c with
  | some d => d < base
  | none => false

/-- Reads digits after a digit; an underscore must stand between two. -/
def moreDigits (base : Nat) : List Char → Option (List Char × List Char)
  | [] => some ([], [])
  | c :: s =>
    if isDigitIn base c then emit c (moreDigits base s)
    else if c = '_' then
      match s with
      | [] => none
      | d :: s => if isDigitIn base d then emit d (moreDigits base s) else none
    else some ([], c :: s)

/-- Reads digits, at least one. -/
def digits? (base : Nat) : List Char → Option (List Char × List Char)
  | [] => none
  | c :: s => if isDigitIn base c then emit c (moreDigits base s) else none

def valueFrom (base soFar : Nat) (ds : List Char) : Nat :=
  ds.foldl (fun n c => n * base + (Json.hexValue? c).getD 0) soFar

def valueOf (base : Nat) (ds : List Char) : Nat := valueFrom base 0 ds

/-- Reads exactly `count` decimal digits as a number. -/
def fixed? (count : Nat) (s : List Char) : Option (Nat × List Char) :=
  let ds := s.take count
  if ds.length = count ∧ ds.all (isDigitIn 10) then some (valueOf 10 ds, s.drop count) else none

/-! ### Numbers -/

def sign : List Char → Bool × List Char
  | [] => (false, [])
  | c :: s => if c = '-' then (true, s) else if c = '+' then (false, s) else (false, c :: s)

/-- Reads the digits of a decimal number: a lone zero, or digits that begin with no zero. -/
def decimal? (s : List Char) : Option (List Char × List Char) :=
  if s.head? = some '0' then some (['0'], s.drop 1) else digits? 10 s

/-- A whole number, if it fits 64 bits. -/
def wholeValue (n : Int) : Option Value :=
  if -9223372036854775808 ≤ n ∧ n ≤ 9223372036854775807 then some (.whole n) else none

/-- Reads a whole number in a base other than ten, after the mark of the base. -/
def based? (base : Nat) (s : List Char) : Option (Value × List Char) := do
  let (ds, s) ← digits? base s
  return (← wholeValue (valueOf base ds), s)

def exponent? : List Char → Option (Option Int × List Char)
  | [] => some (none, [])
  | c :: s =>
    if c = 'e' ∨ c = 'E' then do
      let (negative, s) := sign s
      let (ds, s) ← digits? 10 s
      let n : Int := valueOf 10 ds
      return (some (if negative then -n else n), s)
    else some (none, c :: s)

/-- Is the number `m · 10^e` at most the greatest finite number of 64 bits, as far as rounding goes?
Its digits tell where it is far from that. -/
def isBounded (m : Nat) (e : Int) : Bool :=
  let magnitude : Int := (Nat.toDigits 10 m).length + e
  if m = 0 ∨ magnitude < 300 then true
  else if 320 < magnitude then false
  else if 0 ≤ e then (Number.double.nearest false (m * 10 ^ e.toNat) 1).isFinite
  else (Number.double.nearest false m (10 ^ (-e).toNat)).isFinite

/-- A number that is not whole, unless it is too great. -/
def realValue (negative : Bool) (m : Nat) (e : Int) : Option Value :=
  if negative || isBounded m e then some .real else none

def unsigned? (negative : Bool) (s : List Char) : Option (Value × List Char) := do
  let (ds, s) ← decimal? s
  if s.head? = some '.' then
    let (fs, s) ← digits? 10 (s.drop 1)
    let (e, s) ← exponent? s
    return (← realValue negative (valueOf 10 (ds ++ fs)) (e.getD 0 - fs.length), s)
  else
    match ← exponent? s with
    | (some e, s) => return (← realValue negative (valueOf 10 ds) e, s)
    | (none, s) =>
      let n : Int := valueOf 10 ds
      return (← wholeValue (if negative then -n else n), s)

/-- Reads what is no number but stands for one: infinity, or that there is none. -/
def special? (s : List Char) : Option (Value × List Char) :=
  ((word? "inf" s).or (word? "nan" s)).map fun s => (.real, s)

def number? (s : List Char) : Option (Value × List Char) :=
  match word? "0x" s, word? "0o" s, word? "0b" s with
  | some s, _, _ => based? 16 s
  | _, some s, _ => based? 8 s
  | _, _, some s => based? 2 s
  | none, none, none =>
    let (negative, s) := sign s
    (special? s).or (unsigned? negative s)

def boolean? (s : List Char) : Option (Value × List Char) :=
  ((word? "true" s).map fun s => (.boolean true, s)).or
    ((word? "false" s).map fun s => (.boolean false, s))

/-! ### Dates and times -/

/-- Reads two digits that make a number within bounds. -/
def twoDigits? (least most : Nat) (s : List Char) : Option (Nat × List Char) := do
  let (n, s) ← fixed? 2 s
  if least ≤ n ∧ n ≤ most then return (n, s) else none

def exactly? (c : Char) : List Char → Option (List Char)
  | [] => none
  | d :: s => if d = c then some s else none

def fraction (s : List Char) : List Char :=
  if s.head? = some '.' ∧ ((s.drop 1).head?.map (isDigitIn 10)).getD false then
    (s.drop 1).dropWhile (isDigitIn 10)
  else s

def time? (s : List Char) : Option (List Char) := do
  let (_, s) ← twoDigits? 0 23 s
  let (_, s) ← twoDigits? 0 59 (← exactly? ':' s)
  let (_, s) ← twoDigits? 0 60 (← exactly? ':' s)
  return fraction s

def atTime (s : List Char) : Bool := (fixed? 2 s).isSome && s[2]? == some ':'

def atDate (s : List Char) : Bool := (fixed? 4 s).isSome && s[4]? == some '-'

/-- Reads an offset from universal time, if there is one. -/
def offset? : List Char → Option (List Char)
  | [] => some []
  | c :: s =>
    if c = 'Z' ∨ c = 'z' then some s
    else if c = '+' ∨ c = '-' then do
      let (_, s) ← twoDigits? 0 23 s
      let (_, s) ← twoDigits? 0 59 (← exactly? ':' s)
      return s
    else some (c :: s)

def monthLength (year month : Nat) : Nat :=
  if month = 2 then (if year % 4 = 0 ∧ (year % 100 ≠ 0 ∨ year % 400 = 0) then 29 else 28)
  else if month = 4 ∨ month = 6 ∨ month = 9 ∨ month = 11 then 30 else 31

/-- Reads a date, and a time of day with its offset if one follows. -/
def date? (s : List Char) : Option (List Char) := do
  let (year, s) ← fixed? 4 s
  let (month, s) ← twoDigits? 1 12 (← exactly? '-' s)
  let (_, s) ← twoDigits? 1 (monthLength year month) (← exactly? '-' s)
  match s with
  | [] => return []
  | c :: rest =>
    if (c = 'T' ∨ c = 't' ∨ c = ' ') ∧ atTime rest then do offset? (← time? rest)
    else return s

/-- Reads a number, a date or a time. -/
def figure? (s : List Char) : Option (Value × List Char) :=
  if atDate s then (date? s).map fun s => (.moment, s)
  else if atTime s then (time? s).map fun s => (.moment, s)
  else number? s

end PersonaDialogue.Toml
