import PersonaDialogue.Digest
import PersonaDialogue.Terminal
import Std.Time.DateTime.Timestamp

/-!
# The program

The outermost layer: it looks at the arguments and the environment, reads and writes real files,
waits, and leaves everything else to `Terminal`.
-/

namespace PersonaDialogue.Main

def find (path : String) : IO Found := do
  let place := (← IO.currentDir) / path
  if path.isEmpty || !(← place.pathExists) then return .nothing
  try
    match Content.ofBytes (← IO.FS.readBinFile place).data.toList with
    | .text s => return .text s
    | .bytes _ => return .unreadable
  catch _ => return .unreadable

/-- Logs events behind a file, as far as that is possible. -/
def log (path : Option String) (events : List Event) : IO Unit := do
  match path with
  | none => return
  | some path =>
    try
      let place := (← IO.currentDir) / path
      if let some folder := place.parent then IO.FS.createDirAll folder
      let handle ← IO.FS.Handle.mk place .append
      for e in events do
        handle.putStr e.entry
    catch _ => return

def now : IO Instant := do
  let t ← Std.Time.Timestamp.now
  return .ofSeconds t.val.second.val t.val.nano.val.toNat

/-- The next readings of the clock, as many as a step looks at. -/
def clock : IO Clock := do
  let first ← now
  let second ← now
  let third ← now
  return ⟨fun
    | 0 => first
    | 1 => second
    | _ => third⟩

/-- A supply of identifiers that nobody can foresee. -/
def supply : IO Supply := do
  let seed := (← IO.getRandomBytes 32).data.toList
  return .ofStream fun n =>
    let digits := (Digest.sha256 (seed ++ (Json.decimal n).toUTF8.toList)).toList.take 32
    .random (BitVec.ofNat 128 ((Uuid.valueFrom? 0 digits).getD 0))

def home : IO Home := do
  return ⟨← IO.getEnv "PERSONACANVAS_HOME", (← IO.getEnv "HOME").getD "/", ← IO.getEnv "XDG_DATA_HOME"⟩

def print (text : String) : IO Unit := do
  let out ← IO.getStdout
  out.putStr text
  out.flush

def fail (p : Terminal.Problem) : IO UInt32 := do
  IO.eprintln s!"Error: {p.message}"
  return 1

/-- Goes on with a later state of a session, and logs the events that it recorded. -/
def advance (before after : Session) : IO Unit :=
  log after.conversation.settings.eventLog (Desk.recordedSince before after)

def wait (s : Session) : IO Unit :=
  IO.sleep (min s.conversation.settings.latency 0xffffffff).toUInt32

/-- Reads the next line: nothing if there is none, and no text if it is not UTF-8. -/
def nextLine : IO (Option (Option String)) := do
  try
    let line ← (← IO.getStdin).getLine
    return (Text.streamLines line.toUTF8.toList).head?
  catch _ => return some none

partial def chat (s : Session) : IO UInt32 := do
  print Terminal.prompt
  match ← nextLine with
  | none => return 0
  | some none => fail .input
  | some (some line) =>
    let (t, reaction) := Terminal.react s (← clock) line
    advance s t
    match reaction with
    | .quit => return 0
    | .print text =>
      print text
      chat t
    | .await turn =>
      wait t
      let (u, text) := Terminal.answer t (← clock) turn
      advance t u
      print text
      chat u

def run (arguments : List String) : IO UInt32 := do
  match Terminal.Request.ofArguments arguments with
  | .error p => fail p
  | .ok .usage =>
    print (Terminal.usage (← home))
    return 0
  | .ok (.chat options) =>
    let file := options.file (← home)
    match Settings.ofFound file (← find file) with
    | .error p => fail (.settings p)
    | .ok settings =>
      print Terminal.banner
      chat (.start (options.override settings) (← supply))

end PersonaDialogue.Main

def main (arguments : List String) : IO UInt32 := PersonaDialogue.Main.run arguments
