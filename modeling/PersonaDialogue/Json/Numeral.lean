import PersonaDialogue.Json.Value

/-!
# The value of a written number

A number in a JSON text is kept as its digits until somebody asks for its value.  A whole number that
fits 64 bits is exact.  Any other is a number of 64 bits reached by a fixed route: as many digits as
fit an unsigned word of 64 bits are taken, the word is rounded, and the power of ten is multiplied or
divided in with one more rounding (two for very small numbers).  So the result can be off in the last
place, and which last place it is, is part of the rule.
-/

namespace PersonaDialogue.Json

open Number (Binary)

-- Powers are the built-in ones, also where others are in scope.
attribute [local instance (20000)] instPowNat

/-- A number as written: the digits before and after the point, and the exponent with its sign. -/
structure Numeral where
  negative : Bool
  whole : List Nat
  fraction : List Nat
  exponent : Option (Bool × List Nat)
deriving DecidableEq, Repr

/-- Takes digits as long as the number they make fits 64 bits; the rest is left over. -/
def takeDigits (soFar : Nat) : List Nat → Nat × List Nat
  | [] => (soFar, [])
  | d :: ds => if soFar * 10 + d < UInt64.size then takeDigits (soFar * 10 + d) ds else (soFar, d :: ds)

/-- A power of ten as a number of 64 bits. -/
def powerOfTen (k : Nat) : Binary := Number.double.nearest false (10 ^ k) 1

/-- `significand · 10^exponent` by the fixed route; `none` if it exceeds every finite number. -/
def scaleWord (significand : Nat) (exponent : Int) : Option Binary :=
  let word := Number.double.nearest false significand 1
  if 0 ≤ exponent then
    if exponent ≤ 308 then
      let x := word.scaleBy Number.double (powerOfTen exponent.toNat)
      if x.isFinite then some x else none
    else if significand = 0 then some word else none
  else if -308 ≤ exponent then some (word.divideBy Number.double (powerOfTen (-exponent).toNat))
  else if -616 ≤ exponent then
    some ((word.divideBy Number.double (powerOfTen 308)).divideBy Number.double
      (powerOfTen (-exponent - 308).toNat))
  else some (Binary.zero Number.double)

def digitsValue (ds : List Nat) : Nat := ds.foldl (fun n d => n * 10 + d) 0

/-- The exponents beyond which a number is zero or too large, whatever its digits. -/
def exponentLimit : Nat := 2147483648

/-- `± significand · 10^(shift ± exponent)`; `none` if it is too large. -/
def scaled (negative : Bool) (significand : Nat) (shift : Int) (exponent : Option (Bool × List Nat)) :
    Option Numeric :=
  let signed (x : Binary) : Numeric := .double (if negative then x.negate else x)
  match exponent with
  | none => (scaleWord significand shift).map signed
  | some (down, ds) =>
    let e := digitsValue ds
    if exponentLimit ≤ e then
      if significand = 0 ∨ down then some (signed (Binary.zero Number.double)) else none
    else (scaleWord significand (if down then shift - e else shift + e)).map signed

/-- A whole number without point and exponent.  Negative zero and what lies below the signed words of
64 bits are numbers of 64 bits. -/
def wholeNumeral (negative : Bool) (n : Nat) : Numeric :=
  if !negative then .whole n
  else if 0 < n ∧ n ≤ 9223372036854775808 then .whole (-(n : Int))
  else .double (Number.double.nearest true n 1)

/-- The value of a written number; `none` if it is too large for every format. -/
def Numeral.value? (n : Numeral) : Option Numeric :=
  let (head, left) := takeDigits 0 n.whole
  match n.fraction, n.exponent, left with
  | [], none, [] => some (wholeNumeral n.negative head)
  | fraction, exponent, left =>
    let (significand, unused) := takeDigits head fraction
    scaled n.negative significand (left.length - (fraction.length - unused.length : Nat)) exponent

end PersonaDialogue.Json
