import PersonaDialogue.Json.Problem

/-!
# Reading typed values from the tree of a text

A `Decoder` reads a value of its type from a node, given the number of arrays and objects that are
open around it.  It reports the first problem in the order of the text.  At most 127 arrays and
objects may be nested in what is read; what is skipped may be nested at will.
-/

namespace PersonaDialogue.Json

open Number (Binary)

/-- Reads a node at a depth of nesting. -/
abbrev Decoder (α : Type) := (depth : Nat) → Node → Reading α

/-- The depth inside one more array or object. -/
def enter (depth : Nat) : Reading Nat := if depth < 127 then .ok (depth + 1) else malformed

def Numeral.read (n : Numeral) : Reading Numeric :=
  match n.value? with
  | some v => .ok v
  | none => malformed

def Numeric.found : Numeric → Found
  | whole n => .whole n
  | single x => .real x
  | double x => .real x

/-- The problem with a node of the wrong kind. -/
def Node.mismatch {α : Type} (expected : String) : Node → Reading α
  | null => complain (.invalidType .null expected)
  | boolean b => complain (.invalidType (.boolean b) expected)
  | numeral n => do complain (.invalidType (← n.read).found expected)
  | text l => do complain (.invalidType (.text (← lift l.read)) expected)
  | array _ _ => complain (.invalidType .sequence expected)
  | object _ _ => complain (.invalidType .map expected)
  | broken _ f => .error (.fault f)

def decodeText : Decoder String
  | _, .text l => lift l.read
  | _, v => v.mismatch "a string"

/-- A whole number of 32 bits without sign, given its value. -/
def wordOfNumeric : Numeric → Reading UInt32
  | .whole n =>
    if 0 ≤ n ∧ n < UInt32.size then .ok (UInt32.ofNat n.toNat)
    else complain (.invalidValue (.whole n) "u32")
  | .single x => complain (.invalidType (.real x) "u32")
  | .double x => complain (.invalidType (.real x) "u32")

def decodeWord : Decoder UInt32
  | _, .numeral n => do wordOfNumeric (← n.read)
  | _, v => v.mismatch "u32"

/-- The nearest number of 32 bits. -/
def Numeric.toSingle : Numeric → Binary
  | whole n => Number.single.nearest (n < 0) n.natAbs 1
  | single x => x
  | double x => x.convert Number.single

def decodeSingle : Decoder Binary
  | _, .numeral n => do return (← n.read).toSingle
  | _, v => v.mismatch "f32"

/-- A value, or `null` for none; what begins like `null` has to be it. -/
def decodeOption {α : Type} (decode : Decoder α) : Decoder (Option α)
  | _, .null => .ok none
  | _, .broken .null f => .error (.fault f)
  | depth, v => do return some (← decode depth v)

def decodeItems {α : Type} (decode : Decoder α) (depth : Nat) (ending : Option Fault) :
    List Node → Reading (List α)
  | [] => do lift (raise ending); return []
  | v :: rest => do
    let a ← decode depth v
    return a :: (← decodeItems decode depth ending rest)

def decodeList {α : Type} (decode : Decoder α) : Decoder (List α)
  | depth, .array items ending => do decodeItems decode (← enter depth) ending items
  | _, v => v.mismatch "a sequence"

def variant {α : Type} (table : List (String × α)) (name : String) : Reading α :=
  match table.lookup name with
  | some a => .ok a
  | none => complain (.unknownVariant name (table.map Prod.fst))

/-- The `null` that stands for an empty content. -/
def decodeUnit : Decoder Unit
  | _, .null => .ok ()
  | _, v => v.mismatch "unit"

def decodeName {α : Type} (table : List (String × α)) : Decoder α
  | _, .text l => do variant table (← lift l.read)
  | _, v => v.mismatch "variant identifier"

/-- One of several names: a string, or an object with the name as its only key and `null` as value. -/
def decodeVariant {α : Type} (table : List (String × α)) : Decoder α
  | _, .text l => do variant table (← lift l.read)
  | depth, .object members ending => do
    let depth ← enter depth
    match members with
    | [] => do lift ending.raise; malformed
    | (key, v) :: more => do
      let a ← variant table (← lift key.read)
      decodeUnit depth v
      match more, ending with
      | [], .closed => return a
      | [], .cut f => .error (.fault f)
      | _, _ => malformed
  | _, .broken attempt f => .error (.fault (attempt.glanced f))
  | _, _ => malformed

/-! ### Values of any kind -/

mutual

def decodeValue (depth : Nat) : Node → Reading Value
  | .null => .ok .null
  | .boolean b => .ok (.boolean b)
  | .numeral n => do return .number (← n.read)
  | .text l => do return .text (← lift l.read)
  | .array items ending => do
    return .array (← decodeValues (← enter depth) ending items)
  | .object members ending => do
    return .object (← decodeMembers (← enter depth) ending members)
  | .broken _ f => .error (.fault f)

def decodeValues (depth : Nat) (ending : Option Fault) : List Node → Reading (List Value)
  | [] => do lift (raise ending); return []
  | v :: rest => do
    let a ← decodeValue depth v
    return a :: (← decodeValues depth ending rest)

def decodeMembers (depth : Nat) (ending : Ending) :
    List (Literal × Node) → Reading (List (String × Value))
  | [] => do lift ending.raise; return []
  | (key, v) :: rest => do
    let name ← lift key.read
    let a ← decodeValue depth v
    return (name, a) :: (← decodeMembers depth ending rest)

end

/-! ### Whole texts -/

/-- Reads a text that holds one value and nothing else but space. -/
def readChars {α : Type} (decode : Decoder α) (s : List Char) : Reading α := do
  let document := Document.ofChars s
  let a ← decode 0 document.root
  if document.trailing then malformed else return a

/-- Reads a text that holds one value and nothing else but space. -/
def read {α : Type} (decode : Decoder α) (s : String) : Reading α := readChars decode s.toList

end PersonaDialogue.Json
