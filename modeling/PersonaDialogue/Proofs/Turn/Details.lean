import PersonaDialogue.Proofs.Command.Codec
import PersonaDialogue.Proofs.Intent.Verdict
import PersonaDialogue.Turn.Details

/-!
# The journal gives back the commands

The details of an event hold a command in canonical form, in which its confidence, a number of 32 bits,
is written as the number of 64 bits that it is.  For the confidences that the rules give, reading this
number rounds to the confidence again, so the details are read back as they were (`ofValue_toValue`).
-/

namespace PersonaDialogue

open Json Json.Value

theorem decodeSingle_depth (depth : Nat) (v : Node) : decodeSingle depth v = decodeSingle 0 v := by
  cases v <;> rfl

namespace Details

def members (d : Details) : List (String × Value) :=
  [("command", d.command.toJson), ("hash_before", .ofText? d.hashBefore),
    ("hash_after", .ofText? d.hashAfter)]

section Form

variable {form : Value → Value} (hform : IsForm form) {depth : Nat}
include hform

theorem decodeHash (hash : Option String) :
    decodeOption decodeText depth (form (.ofText? hash)).node = .ok hash := by
  cases hash with
  | none => exact decodeOption_null hform depth decodeText
  | some s => exact decodeOption_text hform depth (decodeText_form hform depth s)

theorem decode_form (hdepth : depth < 124) {d : Details}
    (hconfidence : decodeSingle 0 (form (.number (.single d.command.confidence))).node =
      .ok d.command.confidence) : decode depth (form d.toJson).node = .ok d := by
  have hcommand : Command.decode (depth + 1) (form d.command.toJson).node = .ok d.command :=
    Command.decode_form hform (by omega) ((decodeSingle_depth _ _).trans hconfidence)
  have hreads : fields.Reads (depth + 1) (fun k => (d.toJson.member? k).map fun v => (form v).node)
      (d.command, d.hashBefore, d.hashAfter, ()) :=
    ⟨hcommand, decodeHash hform d.hashBefore, decodeHash hform d.hashAfter, trivial⟩
  have hread : fields.decode "struct CommandEventDetails" depth (form (.object d.members)).node =
      .ok (d.command, d.hashBefore, d.hashAfter, ()) :=
    Fields.decode_form hform _ (by decide) (by simp [members]) (by simp [members, fields, Fields.names])
      (by omega) hreads
  rw [show d.toJson = .object d.members from rfl]
  simp [decode, hread]

end Form

end Details

end PersonaDialogue
