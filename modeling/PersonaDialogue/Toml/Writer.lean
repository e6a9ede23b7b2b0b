import PersonaDialogue.Json.Value
import PersonaDialogue.Toml.Quoting

/-!
# Writing strings in TOML

A string is written in the plainest of its forms: between double quotes if nothing has to be escaped,
else between single quotes, else over several lines, and only if all of these fail with escapes.
-/

namespace PersonaDialogue.Toml

def longestRun (mark : Char) (run : Nat) : List Char → Nat
  | [] => run
  | c :: s => if c = mark then longestRun mark (run + 1) s else max run (longestRun mark 0 s)

/-- A control character of ASCII that needs an escape: any but tab and line feed. -/
def isControl (c : Char) : Bool := (c.toNat < 0x20 && c != '\t' && c != '\n') || c.toNat == 0x7f

/-- What decides how a string is quoted. -/
structure Needs where
  singles : Nat
  doubles : Nat
  backslash : Bool
  control : Bool
  lineFeed : Bool
deriving DecidableEq, Repr

def Needs.of (s : List Char) : Needs where
  singles := longestRun '\'' 0 s
  doubles := longestRun '"' 0 s
  backslash := s.contains '\\'
  control := s.any isControl
  lineFeed := s.contains '\n'

def Needs.quoting (n : Needs) : Quoting :=
  if !n.control && !n.backslash && n.doubles == 0 && !n.lineFeed then basic
  else if !n.control && n.singles == 0 && !n.lineFeed then literal
  else if !n.control && !n.backslash && n.doubles ≤ 2 then basicLines
  else if !n.control && n.singles ≤ 2 then literalLines
  else if n.lineFeed then basicLines
  else basic

/-- An escaped character by its code point. -/
def codeEscape (c : Char) : List Char :=
  ['\\', 'u', '0', '0', Text.hexDigit (c.toNat / 16) |>.toUpper, Text.hexDigit (c.toNat % 16) |>.toUpper]

/-- A character of a string with escapes; `run` double quotes stand right before it. -/
def escapeChar (lines : Bool) (run : Nat) (c : Char) : List Char :=
  if c = '"' then (if lines ∧ run < 2 then [c] else ['\\', '"'])
  else if c = '\\' then ['\\', '\\']
  else if c = '\n' ∧ lines then [c]
  else if c = '\n' then ['\\', 'n']
  else if c = '\t' then ['\\', 't']
  else if c = '\r' then ['\\', 'r']
  else if c.toNat = 8 then ['\\', 'b']
  else if c.toNat = 12 then ['\\', 'f']
  else if isControl c then codeEscape c
  else [c]

/-- The double quotes that stand unescaped right before what follows a character. -/
def runAfter (run : Nat) (c : Char) : Nat := if c = '"' ∧ run < 2 then run + 1 else 0

/-- The text of a string with escapes; `run` double quotes stand right before it. -/
def escaped (lines : Bool) (run : Nat) : List Char → List Char
  | [] => []
  | c :: s => escapeChar lines run c ++ escaped lines (runAfter run c) s

def Quoting.marks (q : Quoting) : List Char := List.replicate (if q.lines then 3 else 1) q.mark

def quoteChars (s : List Char) : List Char :=
  let needs := Needs.of s
  let q := needs.quoting
  q.marks ++ (if q.lines ∧ needs.lineFeed then ['\n'] else []) ++
    (if q.escapes then escaped q.lines 0 s else s) ++ q.marks

def quote (s : String) : String := String.ofList (quoteChars s.toList)

def line (key value : String) : String := key ++ " = " ++ value ++ "\n"

def whole (n : Nat) : String := String.ofList (Json.wholeText n)

end PersonaDialogue.Toml
