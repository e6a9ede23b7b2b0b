/-!
# Ages and age ranges

Ages are words of 32 bits, and 120 is the greatest age that commands accept.  An `AgeRange` holds any
two bounds, since a document may; it is *valid* when the bounds are in order and at most 120, and the
constructors here give valid ranges only.
-/

namespace PersonaDialogue

def maxAge : UInt32 := 120

/-- A range of ages, both bounds included. -/
structure AgeRange where
  min : UInt32
  max : UInt32
deriving DecidableEq, Repr

/-- The age that lies `years` away, kept between 0 and the greatest age. -/
def shiftAge (age : UInt32) (years : Int) : UInt32 :=
  UInt32.ofNat (min (max 0 ((age.toNat : Int) + years)) maxAge.toNat).toNat

namespace AgeRange

/-- Are the bounds in order and no greater than the greatest age? -/
def isValid (r : AgeRange) : Bool := r.min ≤ r.max && r.max ≤ maxAge

/-- The range between two bounds given in either order, if neither exceeds the greatest age. -/
def between? (a b : UInt32) : Option AgeRange :=
  let r : AgeRange := if a ≤ b then ⟨a, b⟩ else ⟨b, a⟩
  if r.max ≤ maxAge then some r else none

/-- The range `window` years to either side of an age, cut off at 0 and at the greatest age. -/
def around? (age window : UInt32) : Option AgeRange :=
  if age ≤ maxAge then
    some ⟨UInt32.ofNat (age.toNat - window.toNat),
      UInt32.ofNat (Nat.min (age.toNat + window.toNat) maxAge.toNat)⟩
  else none

/-- The middle of the range; a half is rounded up. -/
def midpoint (r : AgeRange) : UInt32 := (r.min + r.max + 1) / 2

/-- Both bounds moved by some years, each kept between 0 and the greatest age. -/
def shifted (r : AgeRange) (years : Int) : AgeRange := ⟨shiftAge r.min years, shiftAge r.max years⟩

end AgeRange

end PersonaDialogue
