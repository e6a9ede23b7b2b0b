/-!
# Binary floating-point numbers

A number of a binary format is an exact value `m · 2^e` with a sign, or infinite, or not a number at
all.  `Format.nearest` rounds a fraction to the format, ties to the even significand, and is the only
place where rounding happens: products, quotients and conversions are taken exactly and rounded once.
-/

namespace PersonaDialogue.Number

-- Powers are the built-in ones, also where others are in scope.
attribute [local instance (20000)] instPowNat

/-- A binary format: the bits of a significand, and the exponents of the last place of the least and
of the greatest finite value. -/
structure Format where
  bits : Nat
  least : Int
  most : Int
deriving DecidableEq, Repr

/-- The format of 32 bits. -/
def single : Format := ⟨24, -149, 104⟩

/-- The format of 64 bits. -/
def double : Format := ⟨53, -1074, 971⟩

/-- A floating-point number; `finite s m e` stands for `m · 2^e`, negated if `s`. -/
inductive Binary
  | nan
  | infinite (negative : Bool)
  | finite (negative : Bool) (significand : Nat) (exponent : Int)
deriving DecidableEq, Repr

/-- The whole number nearest to `num / den`; a half goes to the even neighbour. -/
def roundHalfEven (num den : Nat) : Nat :=
  let whole := num / den
  let twice := 2 * (num % den)
  if twice < den then whole
  else if den < twice then whole + 1
  else if whole % 2 = 0 then whole else whole + 1

/-- The fraction `num / den · 2^(-e)`, as numerator and denominator. -/
def scaleDown (num den : Nat) (e : Int) : Nat × Nat :=
  if 0 ≤ e then (num, den * 2 ^ e.toNat) else (num * 2 ^ (-e).toNat, den)

/-- Adjusts a significand that rounding carried one bit too far, and an exponent out of range. -/
def Format.finish (f : Format) (negative : Bool) (m : Nat) (e : Int) : Binary :=
  let (m, e) := if m = 2 ^ f.bits then (2 ^ (f.bits - 1), e + 1) else (m, e)
  if f.most < e then .infinite negative else .finite negative m e

/-- The exponent of the last place of `num / den`, which is not zero, in a format. -/
def Format.exponentOf (f : Format) (num den : Nat) : Int :=
  let guess : Int := (num.log2 : Int) - den.log2 - f.bits
  let scaled := scaleDown num den guess
  max f.least (if scaled.1 < scaled.2 * 2 ^ f.bits then guess else guess + 1)

/-- The number of the format nearest to `num / den`, negated if asked. -/
def Format.nearest (f : Format) (negative : Bool) (num den : Nat) : Binary :=
  if num = 0 then .finite negative 0 f.least
  else
    let e := f.exponentOf num den
    let scaled := scaleDown num den e
    f.finish negative (roundHalfEven scaled.1 scaled.2) e

namespace Binary

def fraction (m : Nat) (e : Int) : Nat × Nat :=
  if 0 ≤ e then (m * 2 ^ e.toNat, 1) else (m, 2 ^ (-e).toNat)

/-- Is this neither infinite nor undefined? -/
def isFinite : Binary → Bool
  | finite .. => true
  | _ => false

def negate : Binary → Binary
  | nan => nan
  | infinite s => infinite (!s)
  | finite s m e => finite (!s) m e

/-- The nearest number of another format. -/
def convert (f : Format) : Binary → Binary
  | nan => nan
  | infinite s => infinite s
  | finite s m e => f.nearest s (fraction m e).1 (fraction m e).2

/-- `x · n`, rounded. -/
def scaleBy (f : Format) (x y : Binary) : Binary :=
  match x, y with
  | finite s m e, finite t n d =>
    let a := fraction m e
    let b := fraction n d
    f.nearest (s != t) (a.1 * b.1) (a.2 * b.2)
  | _, _ => nan

/-- `x / y`, rounded, for a divisor that is finite and not zero. -/
def divideBy (f : Format) (x y : Binary) : Binary :=
  match x, y with
  | finite s m e, finite t n d =>
    let a := fraction m e
    let b := fraction n d
    if n = 0 then nan else f.nearest (s != t) (a.1 * b.2) (a.2 * b.1)
  | _, _ => nan

def zero (f : Format) : Binary := finite false 0 f.least

def one (f : Format) : Binary := finite false (2 ^ (f.bits - 1)) (1 - f.bits)

/-- The number moved into the interval from 0 to 1.  Negative zero counts as zero and stays, and
what is not a number stays so. -/
def clampUnit (f : Format) : Binary → Binary
  | nan => nan
  | infinite s => if s then zero f else one f
  | finite s m e =>
    if s && m != 0 then zero f
    else if (fraction m e).2 < (fraction m e).1 then one f
    else finite s m e

end Binary

end PersonaDialogue.Number
