import PersonaDialogue.Json.Numeral
import PersonaDialogue.Text.Digit
import PersonaDialogue.Text.Utf8

/-!
# The tree of a JSON text

Reading a text gives a tree whether or not the text is well formed: where the text breaks off or goes
wrong, the tree ends in a leaf or an ending that carries the fault.  Whoever walks the tree in the
order of the text meets the first fault of the text first, and a walk that has reason to complain
about the content earlier does so.  Two walks are told apart throughout: *reading* a value, and
*skipping* one that nobody asked for, which looks at less (not at the range of numbers, nor at the
pairing of surrogates).
-/

namespace PersonaDialogue.Json

/-- What is wrong with a text: it ended too early, or it is not JSON. -/
inductive Fault
  | ended
  | malformed
deriving DecidableEq, Repr

/-- A piece of a string: a character, or a UTF-16 unit given by its code. -/
inductive Piece
  | plain (c : Char)
  | unit (n : Nat)
deriving DecidableEq, Repr

/-- A string as written, up to its closing quote or to a fault. -/
structure Literal where
  pieces : List Piece
  fault : Option Fault
deriving DecidableEq, Repr

/-- What a value that breaks off began as, told by its first character. -/
inductive Attempt
  /-- No value begins here. -/
  | nothing
  | null
  | boolean
  | number
deriving DecidableEq, Repr

inductive Ending
  | closed
  /-- With a fault after its brace or after a member. -/
  | cut (f : Fault)
  /-- With a fault after a comma. -/
  | dangling (f : Fault)
deriving DecidableEq, Repr

/-- A value as written.  `broken` stands where no value can be read, with the fault that a reader
meets.  An array ends well (`none`) or with a fault. -/
inductive Node
  | null
  | boolean (b : Bool)
  | numeral (n : Numeral)
  | text (l : Literal)
  | array (items : List Node) (ending : Option Fault)
  | object (members : List (Literal × Node)) (ending : Ending)
  | broken (attempt : Attempt) (f : Fault)
deriving Repr

instance : Inhabited Node := ⟨.null⟩

/-- The fault that skipping a broken value meets: the digits that a number lacks count as wrong even
at the end of the text. -/
def Attempt.skipped (a : Attempt) (f : Fault) : Fault := if a = .number then .malformed else f

/-- The fault of a broken value where a value of its kind cannot stand: the first character decides,
if there is one. -/
def Attempt.glanced (a : Attempt) (f : Fault) : Fault := if a = .nothing then f else .malformed

/-! ### Strings -/

/-- Is `n` the first unit of a surrogate pair? -/
def isHighUnit (n : Nat) : Bool := 0xD800 ≤ n && n ≤ 0xDBFF

/-- Is `n` the second unit of a surrogate pair? -/
def isLowUnit (n : Nat) : Bool := 0xDC00 ≤ n && n ≤ 0xDFFF

def pairedChar (high low : Nat) : Char :=
  Char.ofNat (0x10000 + (high - 0xD800) * 0x400 + (low - 0xDC00))

/-- The characters of a string, surrogates paired. -/
def readPieces (fault : Option Fault) : List Piece → Except Fault (List Char)
  | [] => match fault with
    | some f => .error f
    | none => .ok []
  | .plain c :: rest => (readPieces fault rest).map (c :: ·)
  | [.unit n] =>
    if isHighUnit n then .error (fault.getD .malformed)
    else if isLowUnit n then .error .malformed
    else (readPieces fault []).map (Char.ofNat n :: ·)
  | .unit n :: .plain c :: rest =>
    if isHighUnit n ∨ isLowUnit n then .error .malformed
    else (readPieces fault (.plain c :: rest)).map (Char.ofNat n :: ·)
  | .unit n :: .unit m :: rest =>
    if isHighUnit n then
      if isLowUnit m then (readPieces fault rest).map (pairedChar n m :: ·) else .error .malformed
    else if isLowUnit n then .error .malformed
    else (readPieces fault (.unit m :: rest)).map (Char.ofNat n :: ·)

def Literal.read (l : Literal) : Except Fault String := (readPieces l.fault l.pieces).map String.ofList

def Literal.skip (l : Literal) : Except Fault Unit :=
  match l.fault with
  | some f => .error f
  | none => .ok ()

def hexValue? (c : Char) : Option Nat :=
  let n := c.toNat
  if 48 ≤ n ∧ n ≤ 57 then some (n - 48)
  else if 97 ≤ n ∧ n ≤ 102 then some (n - 87)
  else if 65 ≤ n ∧ n ≤ 70 then some (n - 55)
  else none

/-- The unit that four digits in base sixteen give. -/
def unit? (a b c d : Char) : Option Nat := do
  return (((← hexValue? a) * 16 + (← hexValue? b)) * 16 + (← hexValue? c)) * 16 + (← hexValue? d)

/-- The character that a backslash and a letter give. -/
def escaped? (c : Char) : Option Char :=
  if c = '"' ∨ c = '\\' ∨ c = '/' then some c
  else if c = 'b' then some (Char.ofNat 8)
  else if c = 'f' then some (Char.ofNat 12)
  else if c = 'n' then some '\n'
  else if c = 'r' then some '\r'
  else if c = 't' then some '\t'
  else none

/-- A string cut off by a fault, after which nothing is read. -/
def cutLiteral (f : Fault) : Literal × Option (List Char) := (⟨[], some f⟩, none)

def consPiece (p : Piece) (l : Literal × Option (List Char)) : Literal × Option (List Char) :=
  (⟨p :: l.1.pieces, l.1.fault⟩, l.2)

/-- The string whose opening quote was just read, and what follows its closing quote.  A unit is four
digits in at least four bytes; a text with fewer has ended too early. -/
def literal : List Char → Literal × Option (List Char)
  | [] => cutLiteral .ended
  | c :: s =>
    if c = '"' then (⟨[], none⟩, some s)
    else if c = '\\' then
      match s with
      | [] => cutLiteral .ended
      | e :: s =>
        if e = 'u' then
          match s with
          | a :: b :: c :: d :: s =>
            match unit? a b c d with
            | some n => consPiece (.unit n) (literal s)
            | none => cutLiteral .malformed
          | short => cutLiteral (if Text.byteSize short < 4 then .ended else .malformed)
        else
          match escaped? e with
          | some c => consPiece (.plain c) (literal s)
          | none => cutLiteral .malformed
    else if c.toNat < 32 then cutLiteral .malformed
    else consPiece (.plain c) (literal s)

/-! ### Numbers and words -/

/-- The digits that a text begins with, and what follows them. -/
def digits : List Char → List Nat × List Char
  | [] => ([], [])
  | c :: s =>
    match Text.digitValue? c with
    | some d => (d :: (digits s).1, (digits s).2)
    | none => ([], c :: s)

def noDigits (rest : List Char) : Node × Option (List Char) :=
  (.broken .number (if rest.isEmpty then .ended else .malformed), none)

def numeralExponent (negative : Bool) (whole fraction : List Nat) (s : List Char) :
    Node × Option (List Char) :=
  let plain := (Node.numeral ⟨negative, whole, fraction, none⟩, some s)
  match s with
  | [] => plain
  | c :: s =>
    if c = 'e' ∨ c = 'E' then
      let (down, s) := match s with
        | '-' :: s => (true, s)
        | '+' :: s => (false, s)
        | s => (false, s)
      match digits s with
      | ([], rest) => noDigits rest
      | (ds, rest) => (.numeral ⟨negative, whole, fraction, some (down, ds)⟩, some rest)
    else plain

def unsignedNumeral (negative : Bool) (s : List Char) : Node × Option (List Char) :=
  match digits s with
  | ([], rest) => noDigits rest
  | (0 :: _ :: _, _) => (.broken .number .malformed, none)
  | (whole, '.' :: s) =>
    match digits s with
    | ([], rest) => noDigits rest
    | (fraction, rest) => numeralExponent negative whole fraction rest
  | (whole, rest) => numeralExponent negative whole [] rest

def restOfWord (node : Node) (attempt : Attempt) :
    List Char → List Char → Node × Option (List Char)
  | [], s => (node, some s)
  | _ :: _, [] => (.broken attempt .ended, none)
  | w :: ws, c :: s =>
    if w = c then restOfWord node attempt ws s else (.broken attempt .malformed, none)

/-! ### Values -/

/-- The four characters that may stand between the parts of a text. -/
def isSpace (c : Char) : Bool := c == ' ' || c == '\n' || c == '\t' || c == '\r'

def skipSpace (s : List Char) : List Char := s.dropWhile isSpace

/-- The members that were read, how they end, and what follows them if reading can go on. -/
abbrev MembersRead := List (Literal × Node) × Ending × Option (List Char)

/-- A member that ends before its value. -/
def lostMember (key : Literal) (f : Fault) : MembersRead :=
  ([(key, .broken .nothing f)], .closed, none)

mutual

/-- The value that a text begins with, and what follows it if reading can go on.  The first argument
bounds the nesting of calls; the length of the text is always enough. -/
def valueWithin : Nat → List Char → Node × Option (List Char)
  | 0, _ => (.broken .nothing .ended, none)
  | bound + 1, s =>
    match skipSpace s with
    | [] => (.broken .nothing .ended, none)
    | c :: s =>
      if c = '"' then ((literal s).1 |> Node.text, (literal s).2)
      else if c = '[' then
        let (items, ending, rest) := itemsWithin bound s
        (.array items ending, rest)
      else if c = '\x7b' then
        let (members, ending, rest) := membersWithin bound s
        (.object members ending, rest)
      else if c = 'n' then restOfWord .null .null ['u', 'l', 'l'] s
      else if c = 't' then restOfWord (.boolean true) .boolean ['r', 'u', 'e'] s
      else if c = 'f' then restOfWord (.boolean false) .boolean ['a', 'l', 's', 'e'] s
      else if c = '-' then unsignedNumeral true s
      else if (Text.digitValue? c).isSome then unsignedNumeral false (c :: s)
      else (.broken .nothing .malformed, none)

/-- The elements of an array whose bracket was just read. -/
def itemsWithin : Nat → List Char → List Node × Option Fault × Option (List Char)
  | 0, _ => ([], some .ended, none)
  | bound + 1, s =>
    match skipSpace s with
    | [] => ([], some .ended, none)
    | c :: s => if c = ']' then ([], none, some s) else moreItemsWithin bound (c :: s)

def moreItemsWithin : Nat → List Char → List Node × Option Fault × Option (List Char)
  | 0, _ => ([], some .ended, none)
  | bound + 1, s =>
    match valueWithin bound s with
    | (v, none) => ([v], none, none)
    | (v, some s) =>
      match skipSpace s with
      | [] => ([v], some .ended, none)
      | c :: s =>
        if c = ']' then ([v], none, some s)
        else if c = ',' then
          let (vs, ending, rest) := moreItemsWithin bound s
          (v :: vs, ending, rest)
        else ([v], some .malformed, none)

/-- The members of an object whose brace was just read. -/
def membersWithin : Nat → List Char → MembersRead
  | 0, _ => ([], .cut .ended, none)
  | bound + 1, s =>
    match skipSpace s with
    | [] => ([], .cut .ended, none)
    | c :: s =>
      if c = '\x7d' then ([], .closed, some s)
      else if c = '"' then memberWithin bound s
      else ([], .cut .malformed, none)

/-- A member of an object, the quote of whose key was just read, and those after it. -/
def memberWithin : Nat → List Char → MembersRead
  | 0, _ => ([], .cut .ended, none)
  | bound + 1, s =>
    match literal s with
    | (key, none) => lostMember key .malformed
    | (key, some s) =>
      match skipSpace s with
      | [] => lostMember key .ended
      | c :: s =>
        if c = ':' then
          match valueWithin bound s with
          | (v, none) => ([(key, v)], .closed, none)
          | (v, some s) =>
            let (more, ending, rest) := moreMembersWithin bound s
            ((key, v) :: more, ending, rest)
        else lostMember key .malformed

def moreMembersWithin : Nat → List Char → MembersRead
  | 0, _ => ([], .cut .ended, none)
  | bound + 1, s =>
    match skipSpace s with
    | [] => ([], .cut .ended, none)
    | c :: s =>
      if c = '\x7d' then ([], .closed, some s)
      else if c = ',' then
        match skipSpace s with
        | [] => ([], .dangling .ended, none)
        | c :: s => if c = '"' then memberWithin bound s else ([], .dangling .malformed, none)
      else ([], .cut .malformed, none)

end

/-- A text as a tree, and whether anything but space follows the value. -/
structure Document where
  root : Node
  trailing : Bool
deriving Repr

def Document.ofChars (s : List Char) : Document :=
  match valueWithin (3 * s.length + 3) s with
  | (root, none) => ⟨root, false⟩
  | (root, some rest) => ⟨root, !rest.all isSpace⟩

/-! ### Skipping -/

def raise : Option Fault → Except Fault Unit
  | some f => .error f
  | none => .ok ()

def Ending.raise : Ending → Except Fault Unit
  | closed => .ok ()
  | cut f => .error f
  | dangling f => .error f

mutual

/-- Passes over a value. -/
def Node.skip : Node → Except Fault Unit
  | .text l => l.skip
  | .array items ending => do skipItems items; raise ending
  | .object members ending => do skipMembers members; ending.raise
  | .broken attempt f => .error (attempt.skipped f)
  | .null => .ok ()
  | .boolean _ => .ok ()
  | .numeral _ => .ok ()

def skipItems : List Node → Except Fault Unit
  | [] => .ok ()
  | v :: rest => do v.skip; skipItems rest

def skipMembers : List (Literal × Node) → Except Fault Unit
  | [] => .ok ()
  | (key, v) :: rest => do key.skip; v.skip; skipMembers rest

end

end PersonaDialogue.Json
