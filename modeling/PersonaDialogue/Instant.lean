import PersonaDialogue.Json.Decode
import PersonaDialogue.Text.Blank

/-!
# Instants of time

An `Instant` is a date and a time of day in universal time, down to the nanosecond.  A second that is
inserted at the end of a minute counts as a further thousand million nanoseconds of the 59th.  An
instant is written as `YYYY-MM-DDThh:mm:ss`, a fraction of three, six or nine digits if there is
one, and `Z`; it is read with any offset from universal time, and the reader is lenient about blanks
and the width of numbers.
-/

namespace PersonaDialogue

structure Date where
  year : Int
  month : Nat
  day : Nat
deriving DecidableEq, Repr

namespace Date

/-- Does the year have a 29th of February? -/
def isLeap (year : Int) : Bool := year % 4 == 0 && (year % 100 != 0 || year % 400 == 0)

def monthLength (year : Int) (month : Nat) : Nat :=
  if month = 2 then (if isLeap year then 29 else 28)
  else if month = 4 ∨ month = 6 ∨ month = 9 ∨ month = 11 then 30 else 31

def yearBound : Int := 262143

def isValid (d : Date) : Bool :=
  -yearBound ≤ d.year && d.year < yearBound && 1 ≤ d.month && d.month ≤ 12 && 1 ≤ d.day &&
    d.day ≤ monthLength d.year d.month

def next (d : Date) : Date :=
  if d.day < monthLength d.year d.month then { d with day := d.day + 1 }
  else if d.month < 12 then ⟨d.year, d.month + 1, 1⟩ else ⟨d.year + 1, 1, 1⟩

def previous (d : Date) : Date :=
  if 1 < d.day then { d with day := d.day - 1 }
  else if 1 < d.month then ⟨d.year, d.month - 1, monthLength d.year (d.month - 1)⟩
  else ⟨d.year - 1, 12, 31⟩

/-- The day that is `n` days after the first of January 1970. -/
def ofDayNumber (n : Int) : Date :=
  let z := n + 719468
  let era := z.fdiv 146097
  let dayOfEra := (z - era * 146097).toNat
  let yearOfEra := (dayOfEra - dayOfEra / 1460 + dayOfEra / 36524 - dayOfEra / 146096) / 365
  let dayOfYear := dayOfEra - (365 * yearOfEra + yearOfEra / 4 - yearOfEra / 100)
  let shifted := (5 * dayOfYear + 2) / 153
  let month := if shifted < 10 then shifted + 3 else shifted - 9
  ⟨era * 400 + yearOfEra + (if month ≤ 2 then 1 else 0), month, dayOfYear - (153 * shifted + 2) / 5 + 1⟩

end Date

/-- A moment in universal time; from `nano = 1000000000` on it lies in an inserted second. -/
structure Instant where
  date : Date
  hour : Nat
  minute : Nat
  second : Nat
  nano : Nat
deriving DecidableEq, Repr

namespace Instant

-- Powers are the built-in ones, also where others are in scope.
attribute [local instance (20000)] instPowNat

/-! ### Writing -/

/-- The last `width` decimal digits of a number. -/
def padded (width n : Nat) : List Char :=
  match width with
  | 0 => []
  | width + 1 => padded width (n / 10) ++ [Char.ofNat (48 + n % 10)]

/-- A year of four digits, or with a sign and at least four digits beyond. -/
def yearText (year : Int) : List Char :=
  if 0 ≤ year ∧ year ≤ 9999 then padded 4 year.toNat
  else
    let ds := Nat.toDigits 10 year.natAbs
    (if year < 0 then '-' else '+') :: (List.replicate (4 - ds.length) '0' ++ ds)

/-- The fraction of a second: none, or three, six or nine digits. -/
def fractionText (nano : Nat) : List Char :=
  if nano = 0 then []
  else if nano % 1000000 = 0 then '.' :: padded 3 (nano / 1000000)
  else if nano % 1000 = 0 then '.' :: padded 6 (nano / 1000)
  else '.' :: padded 9 nano

/-- The seconds as they are written: an inserted second is the 60th. -/
def writtenSecond (t : Instant) : Nat := if 1000000000 ≤ t.nano then t.second + 1 else t.second

def text (t : Instant) : String :=
  String.ofList (yearText t.date.year ++ '-' :: padded 2 t.date.month ++ '-' :: padded 2 t.date.day ++
    'T' :: padded 2 t.hour ++ ':' :: padded 2 t.minute ++ ':' :: padded 2 t.writtenSecond ++
    fractionText (t.nano % 1000000000) ++ ['Z'])

/-- Hours, minutes and seconds. -/
def clock (t : Instant) : String :=
  String.ofList
    (padded 2 t.hour ++ ':' :: padded 2 t.minute ++ ':' :: padded 2 t.writtenSecond)

/-! ### Reading -/

/-- Up to `most` digits, at least one, as a number, and what follows them. -/
def number? (most : Nat) (s : List Char) : Option (Nat × List Char) :=
  let ds := (s.take most).takeWhile fun c => (Text.digitValue? c).isSome
  (Text.number? ds).map fun n => (n, s.drop ds.length)

/-- A number of up to two digits after blanks, at most `limit`. -/
def field? (limit : Nat) (s : List Char) : Option (Nat × List Char) := do
  let (n, rest) ← number? 2 (Text.trimStart s)
  if n ≤ limit then return (n, rest) else none

/-- A certain character after blanks. -/
def sign? (c : Char) (s : List Char) : Option (List Char) :=
  match Text.trimStart s with
  | d :: rest => if c = d then some rest else none
  | [] => none

/-- A year: up to four digits, or a sign and any number of digits. -/
def year? (s : List Char) : Option (Int × List Char) :=
  match Text.trimStart s with
  | '-' :: rest => (number? rest.length rest).map fun (n, s) => (-(n : Int), s)
  | '+' :: rest => (number? rest.length rest).map fun (n, s) => ((n : Int), s)
  | s => (number? 4 s).map fun (n, s) => ((n : Int), s)

/-- A fraction of a second in nanoseconds; digits beyond the ninth are dropped. -/
def fraction? : List Char → Option (Nat × List Char)
  | '.' :: s =>
    let ds := s.takeWhile fun c => (Text.digitValue? c).isSome
    let kept := ds.take 9
    (Text.number? kept).map fun n => (n * 10 ^ (9 - kept.length), s.drop ds.length)
  | s => some (0, s)

/-- Two digits in a row, the first at most `tens`. -/
def twoDigits? (tens : Nat) : List Char → Option (Nat × List Char)
  | a :: b :: s => do
    let m ← Text.digitValue? a
    let n ← Text.digitValue? b
    if m ≤ tens then return (10 * m + n, s) else none
  | _ => none

/-- Hours and minutes after the sign of an offset; colons and blanks may stand between them. -/
def offsetMinutes? (negative : Bool) (s : List Char) : Option (Int × List Char) := do
  let (hours, s) ← twoDigits? 9 s
  let (minutes, s) ← twoDigits? 5 (s.dropWhile fun c => c == ':' || Text.isBlank c)
  let total : Int := 60 * hours + minutes
  return (if negative then -total else total, s)

/-- The minutes by which local time is ahead of universal time. -/
def offset? (s : List Char) : Option (Int × List Char) :=
  if (s.take 3).map Char.toLower = ['u', 't', 'c'] then some (0, s.drop 3)
  else
    match s with
    | c :: rest =>
      if c = 'Z' ∨ c = 'z' then some (0, rest)
      else if c = '+' then offsetMinutes? false rest
      else if c = '-' ∨ c = '\u2212' then offsetMinutes? true rest
      else none
    | [] => none

def date? (s : List Char) : Option (Date × List Char) := do
  let (year, s) ← year? s
  let (month, s) ← field? 12 (← sign? '-' s)
  let (day, s) ← field? 31 (← sign? '-' s)
  let date : Date := ⟨year, month, day⟩
  if date.isValid then return (date, s) else none

/-- The letter or the space between date and time. -/
def separator? : List Char → Option (List Char)
  | c :: s => if c = 'T' ∨ c = 't' ∨ c = ' ' then some s else none
  | [] => none

/-- The same moment when the clock is set back by some minutes, less than a day. -/
def setBack (t : Instant) (minutes : Int) : Instant :=
  let total : Int := 60 * t.hour + t.minute - minutes
  let (date, total) :=
    if total < 0 then (t.date.previous, total + 1440)
    else if 1440 ≤ total then (t.date.next, total - 1440)
    else (t.date, total)
  { t with date := date, hour := total.toNat / 60, minute := total.toNat % 60 }

def ofChars? (s : List Char) : Option Instant := do
  let (date, s) ← date? s
  let (hour, s) ← field? 23 (← separator? s)
  let (minute, s) ← field? 59 (← sign? ':' s)
  let (second, s) ← field? 60 (← sign? ':' s)
  let (nano, s) ← fraction? s
  let (offset, s) ← offset? (Text.trimStart s)
  if Text.isAllBlank s ∧ -1440 < offset ∧ offset < 1440 then
    let inserted := second = 60
    let t : Instant :=
      ⟨date, hour, minute, if inserted then 59 else second,
        if inserted then nano + 1000000000 else nano⟩
    let t := t.setBack offset
    if t.date.isValid then return t else none
  else none

def decode : Json.Decoder Instant
  | _, .text l => do
    match ofChars? (← Json.lift l.read).toList with
    | some t => return t
    | none => Json.complain (.notA "a date and time")
  | _, v => v.mismatch "an RFC 3339 formatted date and time string"

/-- The instant a number of seconds after the beginning of 1970. -/
def ofSeconds (seconds : Int) (nano : Nat) : Instant :=
  let days := seconds.fdiv 86400
  let ofDay := (seconds - days * 86400).toNat
  ⟨Date.ofDayNumber days, ofDay / 3600, ofDay / 60 % 60, ofDay % 60, nano⟩

end Instant

end PersonaDialogue
