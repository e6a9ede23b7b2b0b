import PersonaDialogue.Json.Decode

/-!
# Universally unique identifiers

A `Uuid` is a word of 128 bits.  It is written with 32 digits in base sixteen, plain or in the five
groups 8-4-4-4-12, and read in either form and in two wrappings of the second, in any case of the
letters.
-/

namespace PersonaDialogue

/-- An identifier of 128 bits. -/
structure Uuid where
  bits : BitVec 128
deriving DecidableEq, Repr

namespace Uuid

/-- The last `count` digits of `n` in base sixteen. -/
def hexDigits (n : Nat) : Nat → List Char
  | 0 => []
  | count + 1 => hexDigits (n / 16) count ++ [Text.hexDigit (n % 16)]

def digits (u : Uuid) : List Char := hexDigits u.bits.toNat 32

/-- The digits without a separator. -/
def plain (u : Uuid) : String := String.ofList u.digits

/-- The digits in groups of 8, 4, 4, 4 and 12. -/
def hyphenated (u : Uuid) : String :=
  let ds := u.digits
  String.ofList (ds.take 8 ++ '-' :: (ds.drop 8).take 4 ++ '-' :: (ds.drop 12).take 4 ++
    '-' :: (ds.drop 16).take 4 ++ '-' :: ds.drop 20)

/-- Reads digits in base sixteen to the right of a number. -/
def valueFrom? (soFar : Nat) : List Char → Option Nat
  | [] => some soFar
  | c :: s => (Json.hexValue? c).bind fun d => valueFrom? (soFar * 16 + d) s

/-- Reads exactly 32 digits. -/
def ofDigits? (s : List Char) : Option Uuid :=
  if s.length = 32 then (valueFrom? 0 s).map fun n => ⟨BitVec.ofNat 128 n⟩ else none

def ofGroups? (s : List Char) : Option Uuid :=
  if s.length = 36 ∧ s[8]? = some '-' ∧ s[13]? = some '-' ∧ s[18]? = some '-' ∧ s[23]? = some '-' then
    ofDigits? (s.take 8 ++ (s.drop 9).take 4 ++ (s.drop 14).take 4 ++ (s.drop 19).take 4 ++ s.drop 24)
  else none

/-- What introduces an identifier in the name space of resource names. -/
def urnStart : List Char := "urn:uuid:".toList

/-- Reads an identifier: 32 digits, the five groups, the groups in braces, or as a resource name. -/
def ofChars? (s : List Char) : Option Uuid :=
  if s.length = 32 then ofDigits? s
  else if s.length = 36 then ofGroups? s
  else if s.length = 38 ∧ s.head? = some '\x7b' ∧ s.getLast? = some '\x7d' then
    ofGroups? (s.drop 1).dropLast
  else if s.length = 45 ∧ (s.take 9).map Char.toLower = urnStart then ofGroups? (s.drop 9)
  else none

def decode : Json.Decoder Uuid
  | _, .text l => do
    match ofChars? (← Json.lift l.read).toList with
    | some u => return u
    | none => Json.complain (.notA "a UUID")
  | _, v => v.mismatch "a UUID string"

/-- Marks a word as a random identifier: version 4, variant 1. -/
def random (bits : BitVec 128) : Uuid :=
  ⟨(bits &&& 0xffffffffffff0fff3fffffffffffffff#128) ||| 0x00000000000040008000000000000000#128⟩

end Uuid

end PersonaDialogue
