import PersonaDialogue.Disk.Route

/-!
# A disk

A disk is a tree of folders and files, seen as a function from places to what is there.  A place is
the list of names on the way from the root, the last name first, so that the folder that holds a
place is its tail.  Everything may be written that is not in the way of something else.
-/

namespace PersonaDialogue

/-- A way from the root, the last name first. -/
abbrev Location := List String

/-- The content of a file: a text, or bytes that are no text in UTF-8. -/
inductive Content
  | text (s : String)
  | bytes (raw : List UInt8)
deriving DecidableEq, Repr

inductive Entry
  | folder
  | file (content : Content)
deriving DecidableEq, Repr

namespace Content

def ofBytes (raw : List UInt8) : Content :=
  match String.fromUTF8? (ByteArray.mk raw.toArray) with
  | some s => text s
  | none => bytes raw

def append (more : String) : Content → Content
  | text s => text (s ++ more)
  | bytes raw => bytes (raw ++ more.toUTF8.toList)

end Content

/-- What is found when a file is to be read. -/
inductive Found
  | nothing
  | unreadable
  | text (s : String)
deriving DecidableEq, Repr

/-- Folders and files, and the folder in which paths begin that do not begin at the root. -/
structure Disk where
  find : Location → Option Entry
  here : Location

namespace Disk

/-- A disk with nothing but the folders on the way to a place. -/
def withFolders (here : Location) : Disk :=
  ⟨fun p => if p.isSuffixOf here then some .folder else none, here⟩

def put (d : Disk) (place : Location) (e : Entry) : Disk :=
  { d with find := fun p => if p = place then some e else d.find p }

/-- The longest name that an entry can have, in bytes. -/
def nameBound : Nat := 255

def isName (name : String) : Bool :=
  name.utf8ByteSize ≤ nameBound && !name.toList.any fun c => c.toNat == 0

/-- Follows names from a place; every place that is left must be a folder. -/
def follow (d : Disk) (place : Location) : List String → Option Location
  | [] => some place
  | name :: rest =>
    if d.find place = some .folder ∧ isName name then
      d.follow (if name = ".." then place.tail else name :: place) rest
    else none

def start (d : Disk) (r : Route) : Location := if r.fromRoot then [] else d.here

/-- The place that a route leads to; nothing need be there. -/
def arrive (d : Disk) (r : Route) : Option Location :=
  if r.isEmpty then none else d.follow (d.start r) r.names

def entry? (d : Disk) (path : String) : Option Entry :=
  let r := Route.ofPath path
  match (d.arrive r).bind d.find with
  | some (.file content) => if r.folderOnly then none else some (.file content)
  | e => e

def read (d : Disk) (path : String) : Found :=
  match d.entry? path with
  | none => .nothing
  | some (.file (.text s)) => .text s
  | some _ => .unreadable

/-- Makes the folders along names from a place, where they are not there yet. -/
def makeAlong (d : Disk) (place : Location) : List String → Option Disk
  | [] => if d.find place = some .folder then some d else none
  | name :: rest =>
    if d.find place = some .folder ∧ isName name then
      if name = ".." then d.makeAlong place.tail rest
      else
        match d.find (name :: place) with
        | some _ => d.makeAlong (name :: place) rest
        | none => (d.put (name :: place) .folder).makeAlong (name :: place) rest
    else none

/-- Makes the folders along a route; the disk with them, or `none` if something is in the way. -/
def makeFolders (d : Disk) (r : Route) : Option Disk :=
  if r.isEmpty then some d else d.makeAlong (d.start r) r.names

/-- Changes the content of the file that a path names; a file that is not there begins empty. -/
def change (d : Disk) (path : String) (f : Content → Content) : Option Disk :=
  let r := Route.ofPath path
  if r.folderOnly then none
  else
    match d.arrive r with
    | none => none
    | some place =>
      match d.find place with
      | some .folder => none
      | some (.file content) => some (d.put place (.file (f content)))
      | none =>
        if d.find place.tail = some .folder then some (d.put place (.file (f (.text "")))) else none

/-- Writes a text to a file in place of what was there. -/
def write (d : Disk) (path text : String) : Option Disk := d.change path fun _ => .text text

def append (d : Disk) (path text : String) : Option Disk := d.change path (Content.append text)

end Disk

end PersonaDialogue
