import PersonaDialogue.Json.Decode

/-!
# Records

A record is an object with known fields.  They may come in any order, unknown members are skipped,
a field that comes twice is refused, and what is missing is reported after the whole object was read,
in the order of the fields.  A record may also be written as the array of its fields.  `Fields ρ`
lists the fields of a record whose values make up the product `ρ`.
-/

namespace PersonaDialogue.Json

/-- What to do when a field is absent. -/
inductive Presence (α : Type)
  /-- The field has to be there. -/
  | required
  /-- An object may leave the field out. -/
  | inObject (default : α)
  /-- An object may leave the field out, and an array may end before it. -/
  | anywhere (default : α)

/-- The fields of a record, in order; `ρ` is the product of their types. -/
inductive Fields : Type → Type 1
  | nil : Fields Unit
  | field {α ρ : Type} (name : String) (decode : Decoder α) (presence : Presence α)
      (later : Fields ρ) : Fields (α × ρ)

namespace Fields

/-- The values read so far. -/
def Draft : {ρ : Type} → Fields ρ → Type
  | _, nil => Unit
  | _, field (α := α) _ _ _ later => Option α × later.Draft

def blank : {ρ : Type} → (fs : Fields ρ) → fs.Draft
  | _, nil => ()
  | _, field _ _ _ later => (none, later.blank)

def size : {ρ : Type} → Fields ρ → Nat
  | _, nil => 0
  | _, field _ _ _ later => later.size + 1

/-- Reads the value of the field `name` into a draft; `none` if there is no such field. -/
def put (depth : Nat) (name : String) (v : Node) :
    {ρ : Type} → (fs : Fields ρ) → fs.Draft → Option (Reading fs.Draft)
  | _, nil, _ => none
  | _, field (α := α) key decode _ later, draft =>
    let draft : Option α × later.Draft := draft
    if key = name then
      some <| if draft.1.isSome then complain (.duplicateField name)
        else do return (some (← decode depth v), draft.2)
    else (put depth name v later draft.2).map fun r => r.map fun others => (draft.1, others)

/-- The record of a draft, once the whole object was read. -/
def complete : {ρ : Type} → (fs : Fields ρ) → fs.Draft → Reading ρ
  | _, nil, _ => .ok ()
  | _, field (α := α) name _ presence later, draft => do
    let draft : Option α × later.Draft := draft
    let a ← match draft.1, presence with
      | some a, _ => Except.ok a
      | none, .inObject a => .ok a
      | none, .anywhere a => .ok a
      | none, .required => complain (.missingField name)
    return (a, ← later.complete draft.2)

def readMembers {ρ : Type} (fs : Fields ρ) (depth : Nat) (ending : Ending) :
    List (Literal × Node) → fs.Draft → Reading fs.Draft
  | [], draft => do lift ending.raise; return draft
  | (key, v) :: rest, draft => do
    let name ← lift key.read
    let draft ← match fs.put depth name v draft with
      | some r => r
      | none => do lift v.skip; pure draft
    fs.readMembers depth ending rest draft

/-- Reads the elements of an array, the field with number `index` first. -/
def readItems (depth : Nat) (ending : Option Fault) (expected : String) :
    {ρ : Type} → (fs : Fields ρ) → Nat → List Node → Reading ρ
  | _, nil, _, [] => do lift (raise ending); return ()
  | _, nil, _, _ :: _ => malformed
  | _, field _ decode _ later, index, v :: rest => do
    let a ← decode depth v
    return (a, ← readItems depth ending expected later (index + 1) rest)
  | _, field _ _ presence later, index, [] => do
    lift (raise ending)
    match presence with
    | .anywhere a => do return (a, ← readItems depth ending expected later (index + 1) [])
    | _ => complain (.invalidLength index expected)

/-- A record called `title`. -/
def decode {ρ : Type} (title : String) (fs : Fields ρ) : Decoder ρ
  | depth, .object members ending => do
    fs.complete (← fs.readMembers (← enter depth) ending members fs.blank)
  | depth, .array items ending => do
    readItems (← enter depth) ending (title ++ " with " ++ decimal fs.size ++ " elements") fs 0 items
  | _, v => v.mismatch title

end Fields

end PersonaDialogue.Json
