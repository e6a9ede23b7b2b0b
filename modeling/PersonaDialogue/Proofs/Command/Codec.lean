import PersonaDialogue.Command.Codec
import PersonaDialogue.Proofs.Canvas.Codec

/-!
# Commands are read back

A command is read from any form of its object, as long as the form keeps the number that stands for
its confidence.  The kind of an operand is written before its value, and no form changes that order.
-/

namespace PersonaDialogue

open Json Json.Value

/-! ### Names -/

theorem Action.lookup_label (a : Action) : table.lookup a.label = some a := by cases a <;> rfl

theorem Target.lookup_label (t : Target) : table.lookup t.label = some t := by cases t <;> rfl

theorem Trait.lookup_label (t : Trait) : table.lookup t.label = some t := by cases t <;> rfl

theorem Direction.lookup_label (d : Direction) : table.lookup d.label = some d := by cases d <;> rfl

section Form

variable {form : Value → Value} (hform : IsForm form) {depth : Nat}
include hform

/-! ### Operands -/

namespace Operand

omit hform in
theorem decodeParts_of_kind {tag v : Node} {kind : Kind} {o : Operand}
    (hkind : decodeVariant kinds depth tag = .ok kind) (hvalue : decodeValueOf kind depth v = .ok o) :
    decodeParts depth .closed [(.ofText "kind", tag), (.ofText "value", v)] = .ok o := by
  simp [decodeParts, nextPart, part?, hkind, hvalue, noMoreParts, Ending.raise]

/-- An object of a kind and a value of that kind is read as the operand. -/
theorem decode_tagged {name : String} {kind : Kind} (hkind : kinds.lookup name = some kind) {v : Value}
    {o : Operand} (hvalue : decodeValueOf kind (depth + 1) (form v).node = .ok o)
    (hdepth : depth < 127) :
    decode depth (form (.object [("kind", .text name), ("value", v)])).node = .ok o := by
  have hparts := decodeParts_of_kind (decodeVariant_form hform (depth + 1) hkind) hvalue
  have hsorted : ["kind", "value"].Pairwise (· < ·) := by decide
  rw [hform.sorted [("kind", .text name), ("value", v)] hsorted]
  simpa [Value.node, decode, enter_of_lt hdepth, memberNodes_eq_map] using hparts

theorem decode_form (hdepth : depth < 126) (o : Operand) :
    decode depth (form o.toJson).node = .ok o := by
  have hinside : depth + 1 < 127 := by omega
  cases o with
  | ageRange r =>
    have hvalue : decodeValueOf .ageRange (depth + 1) (form r.toJson).node = .ok (.ageRange r) := by
      simp [decodeValueOf, AgeRange.decode_form hform hinside]
    exact decode_tagged hform rfl hvalue (by omega)
  | relative d =>
    have hvalue : decodeValueOf .relative (depth + 1) (form (.text d.label)).node =
        .ok (.relative d) := by
      simp [decodeValueOf, decodeVariant_form hform _ d.lookup_label]
    exact decode_tagged hform rfl hvalue (by omega)
  | text s =>
    have hvalue : decodeValueOf .text (depth + 1) (form (.text s)).node = .ok (.text s) := by
      simp [decodeValueOf, decodeText_form hform]
    exact decode_tagged hform rfl hvalue (by omega)

end Operand

/-! ### Commands -/

namespace Command

def members (c : Command) : List (String × Value) :=
  [("action", .text c.action.label), ("target", .text c.target.label)] ++
    present "field" (c.trait.map fun t => .text t.label) ++
    present "value" (c.operand.map Operand.toJson) ++
    [("confidence", .number (.single c.confidence)), ("raw_command", .text c.raw)]

omit hform in
theorem members_nodup (c : Command) : (c.members.map Prod.fst).Nodup := by
  obtain ⟨action, target, _ | trait, _ | operand, confidence, raw⟩ := c <;> simp [members, present]

omit hform in
theorem members_known (c : Command) : ∀ m ∈ c.members, m.1 ∈ fields.names := by
  obtain ⟨action, target, _ | trait, _ | operand, confidence, raw⟩ := c <;>
    simp [members, present, fields, Fields.names]

omit hform in
theorem toJson_member? (c : Command) :
    c.toJson.member? "action" = some (.text c.action.label) ∧
      c.toJson.member? "target" = some (.text c.target.label) ∧
      c.toJson.member? "field" = c.trait.map (fun t => .text t.label) ∧
      c.toJson.member? "value" = c.operand.map Operand.toJson ∧
      c.toJson.member? "confidence" = some (.number (.single c.confidence)) ∧
      c.toJson.member? "raw_command" = some (.text c.raw) := by
  obtain ⟨action, target, _ | trait, _ | operand, confidence, raw⟩ := c <;>
    exact ⟨rfl, rfl, rfl, rfl, rfl, rfl⟩

theorem supplies_trait (t : Option Trait) :
    Fields.Supplies depth (decodeOption (decodeVariant Trait.table)) (.anywhere none) t
      ((t.map fun t => Value.text t.label).map fun v => (form v).node) := by
  cases t with
  | none => rfl
  | some t => exact decodeOption_text hform _ (decodeVariant_form hform _ t.lookup_label)

theorem supplies_operand (hdepth : depth < 126) (o : Option Operand) :
    Fields.Supplies depth (decodeOption Operand.decode) (.anywhere none) o
      ((o.map Operand.toJson).map fun v => (form v).node) := by
  cases o with
  | none => rfl
  | some o =>
    have hread := Operand.decode_form hform hdepth o
    cases o <;> exact decodeOption_object hform _ (by simp) hread

/-- **A command is read from any form of its object**, with the confidence that the form has. -/
theorem decode_form_with (hdepth : depth < 125) {c : Command} {x : Confidence}
    (hconfidence : decodeSingle (depth + 1) (form (.number (.single c.confidence))).node = .ok x) :
    decode depth (form c.toJson).node = .ok { c with confidence := x } := by
  have hreads : fields.Reads (depth + 1) (fun k => (c.toJson.member? k).map fun v => (form v).node)
      (c.action, c.target, c.trait, c.operand, x, c.raw, ()) := by
    obtain ⟨haction, htarget, hfield, hvalue, hsure, hraw⟩ := c.toJson_member?
    simp only [fields, Fields.Reads, haction, htarget, hfield, hvalue, hsure, hraw]
    exact ⟨decodeVariant_form hform _ c.action.lookup_label,
      decodeVariant_form hform _ c.target.lookup_label, supplies_trait hform c.trait,
      supplies_operand hform (by omega) c.operand, hconfidence, decodeText_form hform _ c.raw, trivial⟩
  have hread := Fields.decode_form hform "struct Command" (by decide) c.members_nodup c.members_known
    (show depth < 127 by omega) hreads
  rw [show c.toJson = .object c.members from rfl]
  simp [decode, hread]

/-- A command is read from any form that keeps its confidence. -/
theorem decode_form (hdepth : depth < 125) {c : Command}
    (hconfidence : decodeSingle (depth + 1) (form (.number (.single c.confidence))).node =
      .ok c.confidence) :
    decode depth (form c.toJson).node = .ok c :=
  decode_form_with hform hdepth hconfidence

end Command

end Form

end PersonaDialogue
