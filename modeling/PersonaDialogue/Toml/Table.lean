/-!
# Tables

A TOML document is a table.  It is built one statement at a time, and every table remembers how it
came to be, because that decides what may still be added to it: a table with a header of its own and
one written on a line are closed to dotted keys, one that only came up on the way to another may
still get its header, and one made by dotted keys may only be extended by dotted keys.
-/

namespace PersonaDialogue.Toml

/-- How a table came to be. -/
inductive Origin
  /-- By a header of its own. -/
  | header
  /-- On the way to the table of another header. -/
  | implied
  /-- By dotted keys. -/
  | dotted
  /-- As a value on one line. -/
  | inline
deriving DecidableEq, Repr

/-- A value.  Of a number that is not whole, and of a date or time, only the kind is kept. -/
inductive Value
  | text (s : String)
  | whole (n : Int)
  | real
  | boolean (b : Bool)
  | moment
  | array (items : List Value)
  | table (origin : Origin) (members : List (String × Value))
  /-- The tables of a header in double brackets, each time it came. -/
  | tables (rows : List (List (String × Value)))
deriving Repr

instance : Inhabited Value := ⟨.real⟩

abbrev Members := List (String × Value)

namespace Members

/-- The members with a new value for a key that is there. -/
def replace (key : String) (v : Value) (ms : Members) : Members :=
  ms.map fun (k, w) => if k = key then (k, v) else (k, w)

/-- Adds a member; a key that is there already is refused. -/
def add (key : String) (v : Value) (ms : Members) : Option Members :=
  if (ms.lookup key).isSome then none else some (ms ++ [(key, v)])

/-- Applies a change to the last of several tables. -/
def changeLast (f : Members → Option Members) :
    List Members → Option (List Members)
  | [] => none
  | [row] => (f row).map ([·])
  | row :: rest => (changeLast f rest).map (row :: ·)

/-- Gives a value to a key, which may be dotted. -/
def assign : List String → Value → Members → Option Members
  | [], _, _ => none
  | [key], v, ms => ms.add key v
  | key :: next :: path, v, ms =>
    match ms.lookup key with
    | none => do return ms ++ [(key, .table .dotted (← assign (next :: path) v []))]
    | some (.table .dotted inner) => do
      return ms.replace key (.table .dotted (← assign (next :: path) v inner))
    | some (.table .implied inner) =>
      if path.isEmpty then none
      else do return ms.replace key (.table .implied (← assign (next :: path) v inner))
    | some (.tables rows) =>
      if path.isEmpty then none
      else do return ms.replace key (.tables (← changeLast (assign (next :: path) v) rows))
    | some _ => none

/-- Applies a change to the table that a path of a header leads to; of several tables under one key
the last is meant, and tables that are missing on the way are implied. -/
def within (f : Members → Option Members) : List String → Members → Option Members
  | [], ms => f ms
  | key :: path, ms =>
    match ms.lookup key with
    | none => do return ms ++ [(key, .table .implied (← within f path []))]
    | some (.table origin inner) =>
      if origin = .inline then none
      else do return ms.replace key (.table origin (← within f path inner))
    | some (.tables rows) => do
      return ms.replace key (.tables (← changeLast (within f path) rows))
    | some _ => none

/-- Opens the table with a key, whose header has come: it must be new or implied so far. -/
def openTable (key : String) (ms : Members) : Option Members :=
  match ms.lookup key with
  | none => some (ms ++ [(key, .table .header [])])
  | some (.table .implied inner) => some (ms.replace key (.table .header inner))
  | some _ => none

/-- Opens one more table under a key, whose header in double brackets has come. -/
def openRow (key : String) (ms : Members) : Option Members :=
  match ms.lookup key with
  | none => some (ms ++ [(key, .tables [[]])])
  | some (.tables rows) => some (ms.replace key (.tables (rows ++ [[]])))
  | some _ => none

end Members

/-- A statement of a document; no path is empty. -/
inductive Statement
  | entry (path : List String) (v : Value)
  | header (path : List String)
  | row (path : List String)
deriving Repr

/-- A document while it is built: the whole table, and the path of the header that holds. -/
structure Draft where
  root : Members
  current : List String

namespace Draft

def blank : Draft := ⟨[], []⟩

def step (d : Draft) : Statement → Option Draft
  | .entry path v => do return { d with root := ← Members.within (Members.assign path v) d.current d.root }
  | .header path => do
    let key ← path.getLast?
    return ⟨← Members.within (Members.openTable key) path.dropLast d.root, path⟩
  | .row path => do
    let key ← path.getLast?
    return ⟨← Members.within (Members.openRow key) path.dropLast d.root, path⟩

end Draft

def build (statements : List Statement) : Option Members :=
  (statements.foldlM Draft.step .blank).map Draft.root

end PersonaDialogue.Toml
