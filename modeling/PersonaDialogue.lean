import PersonaDialogue.Main
import PersonaDialogue.Session
import PersonaDialogue.Terminal
import PersonaDialogue.Proofs.Age.Invariant
import PersonaDialogue.Proofs.Conversation.Chronicle
import PersonaDialogue.Proofs.Conversation.OneTurn
import PersonaDialogue.Proofs.Intent.Phrase
import PersonaDialogue.Proofs.Intent.Request
import PersonaDialogue.Proofs.Session.Replay
import PersonaDialogue.Proofs.Command.Frame
import PersonaDialogue.Proofs.Json.Pretty
import PersonaDialogue.Proofs.Canvas.Document
import PersonaDialogue.Proofs.Json.OneLine
import PersonaDialogue.Proofs.Command.Line
import PersonaDialogue.Proofs.Disk.Append
import PersonaDialogue.Proofs.Instant
import PersonaDialogue.Proofs.Json.Settled
import PersonaDialogue.Proofs.Turn.Event
import PersonaDialogue.Proofs.Turn.Log
import PersonaDialogue.Proofs.Conversation.Lasting
import PersonaDialogue.Proofs.Session.Logged
import PersonaDialogue.Proofs.Intent.Casing
import PersonaDialogue.Proofs.Session.Identity
import PersonaDialogue.Proofs.Settings.Store
import PersonaDialogue.Proofs.Command.Reread
import PersonaDialogue.Proofs.Pattern.Front
import PersonaDialogue.Proofs.Intent.Operand
import PersonaDialogue.Proofs.Intent.PlainWords
import PersonaDialogue.Proofs.Session.Verbatim
import PersonaDialogue.Proofs.Pattern.Digitless
import PersonaDialogue.Proofs.Intent.Number
import PersonaDialogue.Proofs.Intent.AgeNumber
import PersonaDialogue.Proofs.Command.Removal
import PersonaDialogue.Proofs.Turn.Noop
import PersonaDialogue.Proofs.Session.StatedAge
import PersonaDialogue.Proofs.Json.Thorough
import PersonaDialogue.Proofs.Turn.Reopened
import PersonaDialogue.Proofs.Pattern.Passes
import PersonaDialogue.Proofs.Intent.Lead
import PersonaDialogue.Proofs.Intent.Named
import PersonaDialogue.Proofs.Intent.Ending
import PersonaDialogue.Proofs.Intent.Compatible
import PersonaDialogue.Proofs.Session.Undone
import PersonaDialogue.Proofs.Intent.Precedence
import PersonaDialogue.Proofs.Command.Order
import PersonaDialogue.Proofs.Session.LastWriter
import PersonaDialogue.Proofs.Session.Aging
import PersonaDialogue.Proofs.Intent.NumberPair
import PersonaDialogue.Proofs.Intent.RangeRequest
import PersonaDialogue.Proofs.Intent.Stripped
import PersonaDialogue.Proofs.Word.Request
import PersonaDialogue.Proofs.Settings.Given
