import PersonaDialogue.Disk.Basic
import PersonaDialogue.Settings.Document
import PersonaDialogue.Text.Quoted

/-!
# Where settings are kept

Settings are kept in the file `config/config.toml` under a root.  The root is what the user says it is,
or else the folder of the program among the data of the user.  A file that is missing means the
default settings.
-/

namespace PersonaDialogue

/-- What decides about the root. -/
structure Home where
  /-- The root that the user asks for. -/
  root? : Option String
  /-- The folder of the user. -/
  user : String
  /-- The folder for data that the user asks for. -/
  data? : Option String
deriving DecidableEq, Repr

namespace Home

/-- The folder for the data of the user; one that does not begin at the root is not heeded. -/
def data (h : Home) : String :=
  match h.data? with
  | some path => if path.toList.head? = some '/' then path else joinPaths h.user ".local/share"
  | none => joinPaths h.user ".local/share"

def root (h : Home) : String := h.root?.getD (joinPaths h.data "PersonaCanvas")

def folder (h : Home) : String := joinPaths h.root "config"

def file (h : Home) : String := joinPaths h.folder "config.toml"

end Home

inductive LoadProblem
  | unreadable (path : String)
  | invalid (path : String)
deriving DecidableEq, Repr

def LoadProblem.message : LoadProblem → String
  | unreadable path => "Failed to read config file " ++ Text.quotedPath path
  | invalid path => "Failed to parse config file " ++ Text.quotedPath path

inductive SaveProblem
  | folder (path : String)
  | latency
  | file (path : String)
deriving DecidableEq, Repr

def SaveProblem.message : SaveProblem → String
  | folder path => "Failed creating config directory " ++ Text.quotedPath path
  | latency => "out-of-range value for u64 type"
  | file path => "Failed writing config file " ++ Text.quotedPath path

namespace Settings

/-- The settings, given what was found at the path of their file. -/
def ofFound (path : String) : Found → Except LoadProblem Settings
  | .nothing => .ok default
  | .unreadable => .error (.unreadable path)
  | .text s =>
    match ofText? s with
    | some settings => .ok settings
    | none => .error (.invalid path)

def load (d : Disk) (path : String) : Except LoadProblem Settings := ofFound path (d.read path)

/-- Saves settings: the disk afterwards, and the path of the file or why nothing was written. -/
def save (s : Settings) (h : Home) (d : Disk) : Disk × Except SaveProblem String :=
  match d.makeFolders (Route.ofPath h.folder) with
  | none => (d, .error (.folder h.folder))
  | some d =>
    match s.toText? with
    | none => (d, .error .latency)
    | some text =>
      match d.write h.file text with
      | none => (d, .error (.file h.file))
      | some d => (d, .ok h.file)

end Settings

end PersonaDialogue
