import PersonaDialogue.Disk.Basic
import PersonaDialogue.Text.Line
import PersonaDialogue.Turn.Event

/-!
# The event log

The events of a conversation may be written to a file as well, one a line.  Writing never fails: what
cannot be written is left out.  Reading passes over blank lines and refuses a log of which any other
line is no event.
-/

namespace PersonaDialogue

inductive LogProblem
  | unreadable (path : String)
  | malformed
deriving DecidableEq, Repr

def LogProblem.message : LogProblem → String
  | unreadable path => "Failed reading event log " ++ Text.quotedPath path
  | malformed => "Failed parsing turn event"

namespace Event

/-- An event as it stands in a log. -/
def entry (e : Event) : String := e.toLine ++ "\n"

def ofLines? : List (List Char) → Option (List Event)
  | [] => some []
  | line :: rest =>
    if Text.isAllBlank line then ofLines? rest
    else
      match ofLine (String.ofList line) with
      | .ok e => (ofLines? rest).map (e :: ·)
      | .error _ => none

def ofLog? (text : String) : Option (List Event) := ofLines? (Text.lines text.toList)

/-- The events of a log, given what was found at its path; a missing log holds none. -/
def ofFound (path : String) : Found → Except LogProblem (List Event)
  | .nothing => .ok []
  | .unreadable => .error (.unreadable path)
  | .text s =>
    match ofLog? s with
    | some events => .ok events
    | none => .error .malformed

end Event

namespace Disk

def readLog (d : Disk) (path : String) : Except LogProblem (List Event) :=
  Event.ofFound path (d.read path)

/-- Makes the folder that is to hold a file. -/
def makeParent (d : Disk) (path : String) : Option Disk :=
  match (Route.ofPath path).parent? with
  | some folder => d.makeFolders folder
  | none => some d

/-- Writes an event behind the log at a path, as far as that is possible. -/
def writeEvent (path : String) (d : Disk) (e : Event) : Disk :=
  match d.makeParent path with
  | none => d
  | some d => (d.append path e.entry).getD d

def writeEvents (d : Disk) (path : String) (events : List Event) : Disk :=
  events.foldl (writeEvent path) d

end Disk

end PersonaDialogue
