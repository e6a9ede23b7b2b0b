/-!
# Paths

A path is a text.  Its names are the pieces between slashes, `..` among them; an empty piece and `.`
name nothing.  A path begins at the root if it begins with a slash, and it can only name a folder if
it ends in a slash or in `.`.
-/

namespace PersonaDialogue

/-- The pieces of a text between slashes, the first of which `piece`, reversed, was read already. -/
def slashPieces (piece : List Char) : List Char → List (List Char)
  | [] => [piece.reverse]
  | c :: s => if c = '/' then piece.reverse :: slashPieces [] s else slashPieces (c :: piece) s

structure Route where
  /-- The names on the way. -/
  names : List String
  /-- Does the way begin at the root? -/
  fromRoot : Bool
  /-- Can the path only name a folder? -/
  folderOnly : Bool
deriving DecidableEq, Repr

namespace Route

def ofPath (path : String) : Route :=
  let pieces := (slashPieces [] path.toList).map String.ofList
  let last := pieces.getLast?.getD ""
  { names := pieces.filter fun p => p != "" && p != "."
    fromRoot := path.toList.head? == some '/'
    folderOnly := path != "" && (last == "" || last == ".") }

/-- Does the path name nothing at all? -/
def isEmpty (r : Route) : Bool := r.names.isEmpty && !r.fromRoot && !r.folderOnly

/-- The way to the folder that holds what the path names, if the path has a name. -/
def parent? (r : Route) : Option Route :=
  if r.names.isEmpty then none else some ⟨r.names.dropLast, r.fromRoot, true⟩

end Route

/-- The path of `inner` seen from `base`. -/
def joinPaths (base inner : String) : String :=
  if inner.toList.head? = some '/' ∨ base = "" then inner
  else if base.toList.getLast? = some '/' then base ++ inner
  else base ++ "/" ++ inner

end PersonaDialogue
