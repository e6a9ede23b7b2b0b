import PersonaDialogue.Session
import PersonaDialogue.Settings.Store

/-!
# The program at a terminal

The program is called with options and then reads lines.  A line is one of a few commands that begin
with a slash, or a message for the session.  What a line does is said by `Terminal.react`; `Terminal.run`
runs the program over a whole input.
-/

namespace PersonaDialogue.Terminal

/-! ### Options -/

/-- What the program was asked to do differently. -/
structure Options where
  /-- The file of the settings. -/
  config : Option String
  /-- The latency in milliseconds. -/
  latency : Option UInt64
deriving DecidableEq, Repr

inductive Problem
  | noPath
  | noMilliseconds
  | badMilliseconds (value : String)
  | unknownArgument (argument : String)
  | settings (p : LoadProblem)
  | input
deriving DecidableEq, Repr

def Problem.message : Problem → String
  | noPath => "Expected a path after --config"
  | noMilliseconds => "Expected milliseconds after --latency-ms"
  | badMilliseconds value => "Invalid --latency-ms value '" ++ value ++ "'"
  | unknownArgument argument =>
    "Unknown argument '" ++ argument ++ "'. Run with --help for usage instructions."
  | settings p => p.message
  | input => "Failed reading stdin"

inductive Request
  | usage
  | chat (options : Options)
deriving DecidableEq, Repr

/-- A whole number of 64 bits without sign; a plus may stand before it. -/
def milliseconds? (value : String) : Option UInt64 :=
  let ds := match value.toList with
    | c :: s => if c = '+' then s else c :: s
    | [] => []
  (Text.number? ds).bind fun n => if n < UInt64.size then some (UInt64.ofNat n) else none

/-- Reads arguments in order, later ones over earlier ones. -/
def readArguments (o : Options) : List String → Except Problem Request
  | [] => .ok (.chat o)
  | argument :: rest =>
    if argument = "--config" then
      match rest with
      | [] => .error .noPath
      | path :: rest => readArguments { o with config := some path } rest
    else if argument = "--latency-ms" then
      match rest with
      | [] => .error .noMilliseconds
      | value :: rest =>
        match milliseconds? value with
        | some n => readArguments { o with latency := some n } rest
        | none => .error (.badMilliseconds value)
    else if argument = "--help" ∨ argument = "-h" then .ok .usage
    else .error (.unknownArgument argument)

def Request.ofArguments (arguments : List String) : Except Problem Request :=
  readArguments ⟨none, none⟩ arguments

def Options.file (o : Options) (h : Home) : String := o.config.getD h.file

def Options.override (o : Options) (s : Settings) : Settings :=
  { s with latency := o.latency.getD s.latency }

/-! ### Texts -/

def onLines (lines : List String) : String := String.join (lines.map (· ++ "\n"))

def usage (h : Home) : String :=
  onLines [
    "PersonaCanvas chat (persona command interpreter)",
    "Usage: cargo run --bin persona_chat -- [options]",
    "Options:",
    "  --config <path>      Read settings from this TOML file",
    "  --latency-ms <ms>    Override the simulated response latency",
    "Default config file: " ++ h.file]

def banner : String := onLines ["PersonaCanvas chat. Type /help for commands."]

/-- What stands before every line that is read. -/
def prompt : String := "> "

def help : String :=
  onLines [
    "/state  show the persona snapshot",
    "/log    show the conversation log",
    "/reset  restore the default personas",
    "/quit   exit"]

/-- The text of a refusal; an empty message is passed over in silence. -/
def refusalText : Refusal → String
  | .emptyInput => ""
  | .busy => onLines ["Still working on the previous message."]

/-! ### Lines -/

inductive Reaction
  | quit
  /-- Something is printed. -/
  | print (text : String)
  /-- A turn has started and waits for its answer. -/
  | await (turn : Turn)

def react (s : Session) (clock : Clock) (line : String) : Session × Reaction :=
  let word := String.ofList (Text.trim line.toList)
  if word = "/quit" ∨ word = "/exit" then (s, .quit)
  else if word = "/help" then (s, .print help)
  else if word = "/state" then (s, .print (onLines [s.canvas.toJson.pretty]))
  else if word = "/reset" then (s.reset, .print (onLines ["Persona state restored to defaults."]))
  else if word = "/log" then
    (s, .print (onLines (s.conversation.messages.map Message.transcript)))
  else
    match s.submit clock line with
    | (s, .ok turn) => (s, .await turn)
    | (s, .error refusal) => (s, .print (refusalText refusal))

def answer (s : Session) (clock : Clock) (turn : Turn) : Session × String :=
  let (s, report) := s.answer clock turn
  (s, onLines [report.reply.text])

/-! ### The whole program -/

structure Outcome where
  code : UInt32
  output : String
  /-- What is said about a failure. -/
  error : String
  disk : Disk

def fail (output : String) (p : Problem) (disk : Disk) : Outcome :=
  ⟨1, output, "Error: " ++ p.message ++ "\n", disk⟩

/-- Reads lines until one says to quit, one is no text, or there are no more. -/
def chat (clock : Clock) (output : String) (d : Desk) : List (Option String) → Outcome
  | [] => ⟨0, output ++ prompt, "", d.disk⟩
  | none :: _ => fail (output ++ prompt) .input d.disk
  | some line :: rest =>
    let output := output ++ prompt
    match react d.session clock line with
    | (s, .quit) => ⟨0, output, "", (d.advance s).disk⟩
    | (s, .print text) =>
      chat (clock.after Conversation.looks) (output ++ text) (d.advance s) rest
    | (s, .await turn) =>
      let d := d.advance s
      let (s, text) := answer d.session (clock.after Conversation.looks) turn
      chat (clock.after (2 * Conversation.looks)) (output ++ text) (d.advance s) rest

/-- Runs the program over arguments and all that is written to it. -/
def run (h : Home) (disk : Disk) (supply : Supply) (clock : Clock) (arguments : List String)
    (input : List UInt8) : Outcome :=
  match Request.ofArguments arguments with
  | .error p => fail "" p disk
  | .ok .usage => ⟨0, usage h, "", disk⟩
  | .ok (.chat options) =>
    match Settings.load disk (options.file h) with
    | .error p => fail "" (.settings p) disk
    | .ok settings =>
      chat clock banner ⟨disk, .start (options.override settings) supply⟩ (Text.streamLines input)

end PersonaDialogue.Terminal
