import PersonaDialogue.Canvas.Age
import PersonaDialogue.Proofs.Text.Digit

/-!
# Arithmetic of the machine

Ages and the years between them are given elsewhere as what they come to.  Here the same results are worked
out as a machine does it, in words of 32 bits and in signed words of 64, and a computation keeps a list of
all the operations that it made (`Worked`).  Any of them might lose something: a word is too small for a sum,
for a number that is read, or for a signed number that is put into it.  An operation is safe if it loses
nothing, and if what it is made on lies within the bounds that ages have (`Operation.IsSafe`).  Computations
put together from safe ones are safe (`Worked.Ensures.bind`).
-/

namespace PersonaDialogue

/-! ### Words -/

/-- The signed word of 64 bits with the value of a word of 32. -/
def widened (a : UInt32) : Int64 := Int64.ofNat a.toNat

/-- The lower 32 bits of a signed word. -/
def lowerHalf (a : Int64) : UInt32 := a.toUInt64.toUInt32

/-- The difference, or zero if it would be below. -/
def lessened (a b : UInt32) : UInt32 := if b ≤ a then a - b else 0

/-- The sum, or the greatest word if it would be above. -/
def raised (a b : UInt32) : UInt32 := if a ≤ 4294967295 - b then a + b else 4294967295

/-- A signed word, kept between 0 and the greatest age. -/
def clamped (a : Int64) : Int64 := if a < 0 then 0 else if widened maxAge < a then widened maxAge else a

theorem widened_toInt (a : UInt32) : (widened a).toInt = a.toNat :=
  Int64.toInt_ofNat_of_lt (Nat.lt_trans a.toNat_lt (by decide))

theorem lessened_toNat (a b : UInt32) : (lessened a b).toNat = a.toNat - b.toNat := by
  unfold lessened
  split
  · next h => exact UInt32.toNat_sub_of_le _ _ h
  · next h =>
    rw [UInt32.le_iff_toNat_le] at h
    have hzero : (0 : UInt32).toNat = 0 := rfl
    omega

theorem raised_toNat (a b : UInt32) : (raised a b).toNat = min (a.toNat + b.toNat) (2 ^ 32 - 1) := by
  have hb := b.toNat_lt
  have hroom : (4294967295 - b).toNat = 2 ^ 32 - 1 - b.toNat :=
    UInt32.toNat_sub_of_le _ _ (UInt32.le_iff_toNat_le.2 (Nat.le_sub_one_of_lt hb))
  unfold raised
  split
  · next h =>
    rw [UInt32.le_iff_toNat_le, hroom] at h
    rw [UInt32.toNat_add, Nat.mod_eq_of_lt (by omega)]
    omega
  · next h =>
    rw [UInt32.le_iff_toNat_le, hroom] at h
    have hgreatest : (4294967295 : UInt32).toNat = 2 ^ 32 - 1 := rfl
    omega

theorem clamped_toInt (a : Int64) : (clamped a).toInt = min (max 0 a.toInt) 120 := by
  have hzero : (0 : Int64).toInt = 0 := rfl
  have hmax : (widened maxAge).toInt = 120 := rfl
  unfold clamped
  simp only [Int64.lt_iff_toInt_lt]
  split
  · omega
  · split <;> omega

/-! ### Operations -/

/-- An operation of the machine that might lose something. -/
inductive Operation where
  /-- Digits are read into a word. -/
  | read (digits : List Char)
  /-- Two words are added. -/
  | add (a b : UInt32)
  /-- A word is taken from another, down to zero at most. -/
  | lessen (a b : UInt32)
  /-- A word is added to another, up to the greatest word at most. -/
  | raise (a b : UInt32)
  /-- A word is put into a signed word of 64 bits. -/
  | widen (a : UInt32)
  /-- The sign of a signed word is changed. -/
  | negate (a : Int64)
  /-- Two signed words are added. -/
  | shift (a b : Int64)
  /-- A signed word is put into one of 32 bits. -/
  | narrow (a : Int64)
deriving DecidableEq

namespace Operation

/-- The operation gives the result that it has on numbers of any size. -/
def IsExact : Operation → Prop
  | read digits => ∀ n, Text.number? digits = some n → n < 2 ^ 32
  | add a b => (a + b).toNat = a.toNat + b.toNat
  | lessen a b => (lessened a b).toNat = a.toNat - b.toNat
  | raise a b => (raised a b).toNat = min (a.toNat + b.toNat) (2 ^ 32 - 1)
  | widen a => (widened a).toInt = a.toNat
  | negate a => (-a).toInt = -a.toInt
  | shift a b => (a + b).toInt = a.toInt + b.toInt
  | narrow a => ((lowerHalf a).toNat : Int) = a.toInt

example : ¬ (add 4294967295 1).IsExact ∧ ¬ (narrow (-1)).IsExact := by
  constructor
  · exact (by decide : ¬ (4294967295 + 1 : UInt32).toNat = 4294967295 + 1)
  · exact (by decide : ¬ ((lowerHalf (-1)).toNat : Int) = -1)

/-- The operation is made on what ages allow: at most three digits are read, words are added only for the
middle of a valid range, and only an age is put into a smaller word. -/
def IsConfined : Operation → Prop
  | read digits => digits.length ≤ 3
  | add a b => ∃ r : AgeRange, r.isValid = true ∧ (a = r.min ∧ b = r.max ∨ a = r.min + r.max ∧ b = 1)
  | narrow a => 0 ≤ a.toInt ∧ a.toInt ≤ maxAge.toNat
  | _ => True

/-- The operation loses nothing and is made on what ages allow. -/
structure IsSafe (o : Operation) : Prop where
  exact : o.IsExact
  confined : o.IsConfined

end Operation

/-! ### Computations -/

/-- A result, and the operations made for it. -/
structure Worked (α : Type) where
  value : α
  operations : List Operation

namespace Worked

variable {α β : Type}

instance : Monad Worked where
  pure x := ⟨x, []⟩
  bind w f := ⟨(f w.value).value, w.operations ++ (f w.value).operations⟩

/-- A result that one operation gives. -/
def after (o : Operation) (x : α) : Worked α := ⟨x, [o]⟩

def add (a b : UInt32) : Worked UInt32 := after (.add a b) (a + b)

/-- The difference of two words, or zero. -/
def lessen (a b : UInt32) : Worked UInt32 := after (.lessen a b) (lessened a b)

/-- The sum of two words, or the greatest word. -/
def raise (a b : UInt32) : Worked UInt32 := after (.raise a b) (raised a b)

def widen (a : UInt32) : Worked Int64 := after (.widen a) (widened a)

def negate (a : Int64) : Worked Int64 := after (.negate a) (-a)

def shift (a b : Int64) : Worked Int64 := after (.shift a b) (a + b)

def narrow (a : Int64) : Worked UInt32 := after (.narrow a) (lowerHalf a)

/-- The number that digits stand for, if a word can hold it. -/
def read (digits : List Char) : Worked (Option UInt32) :=
  after (.read digits) ((Text.number? digits).bind fun n => if n < 2 ^ 32 then some (UInt32.ofNat n) else none)

/-- The result has a property, and it was worked out by safe operations. -/
structure Ensures (w : Worked α) (P : α → Prop) : Prop where
  holds : P w.value
  safe : ∀ o ∈ w.operations, o.IsSafe

variable {P : α → Prop} {Q : β → Prop}

theorem ensures_pure {x : α} (h : P x) : (pure x : Worked α).Ensures P :=
  ⟨h, fun _ ho => nomatch ho⟩

theorem ensures_after {o : Operation} {x : α} (ho : o.IsSafe) (h : P x) : (after o x).Ensures P :=
  ⟨h, List.forall_mem_singleton.2 ho⟩

/-- What safe computations make of each other's results is safe. -/
theorem Ensures.bind {w : Worked α} {f : α → Worked β} (hw : w.Ensures P)
    (hf : ∀ x, P x → (f x).Ensures Q) : (w >>= f).Ensures Q := by
  refine ⟨(hf _ hw.holds).holds, fun o ho => ?_⟩
  rcases List.mem_append.1 ho with ho | ho
  · exact hw.safe o ho
  · exact (hf _ hw.holds).safe o ho

/-! ### Single operations -/

theorem ensures_lessen (a b : UInt32) : (lessen a b).Ensures fun x => x.toNat = a.toNat - b.toNat :=
  ensures_after ⟨lessened_toNat a b, trivial⟩ (lessened_toNat a b)

theorem ensures_raise (a b : UInt32) :
    (raise a b).Ensures fun x => x.toNat = min (a.toNat + b.toNat) (2 ^ 32 - 1) :=
  ensures_after ⟨raised_toNat a b, trivial⟩ (raised_toNat a b)

theorem ensures_widen (a : UInt32) : (widen a).Ensures fun x => x.toInt = a.toNat :=
  ensures_after ⟨widened_toInt a, trivial⟩ (widened_toInt a)

theorem ensures_negate {a : Int64} (h : a.toInt.natAbs < 2 ^ 32) :
    (negate a).Ensures fun x => x.toInt = -a.toInt := by
  have hneg : (-a).toInt = -a.toInt := by
    rw [Int64.toInt_neg]
    exact Int.bmod_eq_of_le (by omega) (by omega)
  exact ensures_after ⟨hneg, trivial⟩ hneg

/-- A signed word has room for the sum of two numbers whose sizes fit into 32 bits. -/
theorem ensures_shift {a b : Int64} (ha : a.toInt.natAbs < 2 ^ 32) (hb : b.toInt.natAbs < 2 ^ 32) :
    (shift a b).Ensures fun x => x.toInt = a.toInt + b.toInt := by
  have hsum : (a + b).toInt = a.toInt + b.toInt := by
    rw [Int64.toInt_add]
    exact Int.bmod_eq_of_le (by omega) (by omega)
  exact ensures_after ⟨hsum, trivial⟩ hsum

theorem lowerHalf_toNat {a : Int64} (h : 0 ≤ a.toInt ∧ a.toInt ≤ 120) :
    ((lowerHalf a).toNat : Int) = a.toInt := by
  have hnat : a.toUInt64.toNat = a.toInt.toNat :=
    (Int64.toNat_toUInt64_of_le (Int64.le_iff_toInt_le.2 h.1)).trans rfl
  rw [lowerHalf, UInt64.toNat_toUInt32, hnat, Nat.mod_eq_of_lt (by omega)]
  omega

/-- Clamping leaves an age, and 32 bits have room for it. -/
theorem ensures_narrow (a : Int64) :
    (narrow (clamped a)).Ensures fun x => (x.toNat : Int) = min (max 0 a.toInt) 120 := by
  have hage : 0 ≤ (clamped a).toInt ∧ (clamped a).toInt ≤ 120 := by
    rw [clamped_toInt]
    omega
  have hvalue := lowerHalf_toNat hage
  exact ensures_after ⟨hvalue, hage⟩ (hvalue.trans (clamped_toInt a))

/-- A word has room for every number of at most three digits. -/
theorem ensures_read {digits : List Char} (h : digits.length ≤ 3) :
    (read digits).Ensures
      (· = (Text.number? digits).bind fun n => if n < 2 ^ 32 then some (UInt32.ofNat n) else none) := by
  refine ensures_after ⟨fun n hn => ?_, h⟩ rfl
  obtain ⟨-, hascii, rfl⟩ := Text.number?_eq_some_iff.1 hn
  have hdigit : ∀ d ∈ digits.reverse.map fun c => c.toNat - 48, d < 10 := by
    intro d hd
    obtain ⟨c, hc, rfl⟩ := List.mem_map.1 hd
    have := hascii c (List.mem_reverse.1 hc)
    omega
  calc Text.decimalValue digits
      < 10 ^ (digits.reverse.map fun c => c.toNat - 48).length := Nat.ofDigits_lt_base_pow_length (by decide) hdigit
    _ = 10 ^ digits.length := by rw [List.length_map, List.length_reverse]
    _ ≤ 10 ^ 3 := Nat.pow_le_pow_right (by decide) h
    _ < 2 ^ 32 := by decide

end Worked

end PersonaDialogue
