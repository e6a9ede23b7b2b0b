import PersonaDialogue.Number.Binary

/-!
# The shortest decimal text of a floating-point number

A decimal is `digits · 10^exponent`.  Of all decimals that round to a given binary number,
`shortest?` gives one with the fewest digits, and of those the nearest to the number: for one digit,
two digits and so on it tests the two neighbours of the number on that decimal grid.  `Layout` says
which exponents are written out in places and which with an `e`.
-/

namespace PersonaDialogue.Number

-- Powers are the built-in ones, also where others are in scope.
attribute [local instance (20000)] instPowNat

/-- A decimal number `digits · 10^exponent`. -/
structure Decimal where
  digits : Nat
  exponent : Int
deriving DecidableEq, Repr

/-- Is `a / b ≤ d · 10^k`? -/
def fractionLe (a b d : Nat) (k : Int) : Bool :=
  if 0 ≤ k then a ≤ d * 10 ^ k.toNat * b else a * 10 ^ (-k).toNat ≤ d * b

/-- Is `d · 10^k ≤ a / b`? -/
def leFraction (d : Nat) (k : Int) (a b : Nat) : Bool :=
  if 0 ≤ k then d * 10 ^ k.toNat * b ≤ a else d * b ≤ a * 10 ^ (-k).toNat

/-- The greatest whole multiple of `10^k` that is at most `a / b`, as a multiplier. -/
def gridFloor (a b : Nat) (k : Int) : Nat :=
  if 0 ≤ k then a / (b * 10 ^ k.toNat) else a * 10 ^ (-k).toNat / b

/-- The exponent of the leading decimal digit of `a / b`, which is not zero.  A guess from the binary
length is off by at most one. -/
def leadingExponent (a b : Nat) : Int :=
  let guess : Int := (((a.log2 : Int) - b.log2 - 1) * 30103).fdiv 100000
  if leFraction 1 (guess + 1) a b then guess + 1
  else if leFraction 1 guess a b then guess else guess - 1

/-- The numbers that round to `m · 2^e`, as quarters of its last place: the two ends, and whether
they belong to it. -/
structure Interval where
  low : Nat
  high : Nat
  closed : Bool

/-- The interval of a significand: half a place on either side, but a quarter below a power of two
that is not at the bottom of the range. -/
def Format.interval (f : Format) (m : Nat) (e : Int) : Interval :=
  let tight := m = 2 ^ (f.bits - 1) ∧ f.least < e
  ⟨if tight then 4 * m - 1 else 4 * m - 2, 4 * m + 2, m % 2 = 0⟩

/-- Does `d · 10^k` lie in the interval, measured in units of `2^(e - 2)`? -/
def Interval.admits (i : Interval) (e : Int) (d : Nat) (k : Int) : Bool :=
  let low := Binary.fraction i.low (e - 2)
  let high := Binary.fraction i.high (e - 2)
  if i.closed then fractionLe low.1 low.2 d k && leFraction d k high.1 high.2
  else !leFraction d k low.1 low.2 && !fractionLe high.1 high.2 d k

/-- Is `d · 10^k` the nearer of itself and its successor to `a / b`?  A tie goes to the even one. -/
def floorIsNearer (d : Nat) (k : Int) (a b : Nat) : Bool :=
  if d % 2 = 0 then fractionLe (2 * a) b (2 * d + 1) k
  else !leFraction (2 * d + 1) k (2 * a) b

/-- The decimal on the grid of `10^k` that reads back as `m · 2^e`, if there is one. -/
def Format.onGrid (f : Format) (m : Nat) (e k : Int) : Option Decimal :=
  let v := Binary.fraction m e
  let i := f.interval m e
  let d := gridFloor v.1 v.2 k
  match d != 0 && i.admits e d k, i.admits e (d + 1) k with
  | true, true => some ⟨if floorIsNearer d k v.1 v.2 then d else d + 1, k⟩
  | true, false => some ⟨d, k⟩
  | false, true => some ⟨d + 1, k⟩
  | false, false => none

/-- The first grid, from `count` digits on, that has a decimal for `m · 2^e`. -/
def Format.searchGrids (f : Format) (m : Nat) (e leading : Int) (count : Nat) :
    Nat → Option Decimal
  | 0 => none
  | tries + 1 =>
    match f.onGrid m e (leading - count) with
    | some d => some d
    | none => searchGrids f m e leading (count + 1) tries

/-- Writes a power of ten with one digit. -/
def Decimal.trimmed (d : Decimal) : Decimal :=
  let zeros := ((Nat.toDigits 10 d.digits).reverse.takeWhile (· == '0')).length
  ⟨d.digits / 10 ^ zeros, d.exponent + zeros⟩

/-- The shortest decimal that reads back as `m · 2^e`, which is not zero.  Seventeen digits are
enough for every number of 64 bits. -/
def Format.shortest? (f : Format) (m : Nat) (e : Int) : Option Decimal :=
  let v := Binary.fraction m e
  (f.searchGrids m e (leadingExponent v.1 v.2) 0 17).map Decimal.trimmed

/-- How numbers are laid out: those whose leading digit has an exponent from `least` to `most` are
written out in places, the others with an exponent. -/
structure Layout where
  least : Int
  most : Int
deriving DecidableEq, Repr

/-- Digits with a decimal point and zeros where there are no digits; whole numbers end in `.0`. -/
def placed (ds : List Char) (leading : Int) : List Char :=
  if leading < 0 then
    ['0', '.'] ++ List.replicate ((-leading).toNat - 1) '0' ++ ds
  else
    let whole := leading.toNat + 1
    if ds.length ≤ whole then ds ++ List.replicate (whole - ds.length) '0' ++ ['.', '0']
    else ds.take whole ++ ['.'] ++ ds.drop whole

/-- Digits with the point after the first, and the exponent with its sign. -/
def withExponent (ds : List Char) (leading : Int) : List Char :=
  let point := match ds with
    | d :: e :: more => d :: '.' :: e :: more
    | short => short
  point ++ ['e', if leading < 0 then '-' else '+'] ++ Nat.toDigits 10 leading.natAbs

def Layout.decimal (l : Layout) (d : Decimal) : List Char :=
  let ds := Nat.toDigits 10 d.digits
  let leading := d.exponent + ds.length - 1
  if l.least ≤ leading ∧ leading ≤ l.most then placed ds leading else withExponent ds leading

/-- The text of a finite number of a format; `none` for the others. -/
def Layout.text? (l : Layout) (f : Format) : Binary → Option (List Char)
  | .finite s m e =>
    let sign := if s then ['-'] else []
    if m = 0 then some (sign ++ ['0', '.', '0'])
    else (f.shortest? m e).map fun d => sign ++ l.decimal d
  | _ => none

end PersonaDialogue.Number
