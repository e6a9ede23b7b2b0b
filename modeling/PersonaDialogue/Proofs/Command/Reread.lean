import PersonaDialogue.Proofs.Json.Refusal
import PersonaDialogue.Proofs.Json.SingleText
import PersonaDialogue.Proofs.Turn.Details

/-!
# Which commands survive their line

A command is built and changed step by step, or read from a line (`Command.Made`).  Its confidence is then
any number of 32 bits, also one that is infinite or not a number: moving a number into the interval from
0 to 1 keeps what is not a number, and a line may hold a number that is too large.  The line of a command
is read back, with everything but the last digits of the confidence, if the confidence is finite, and it
is refused if it is not (`Command.rereads_of_made`).
-/

namespace PersonaDialogue

open Json Json.Value
open Number (Binary single)

/-! ### Confidences -/

namespace Confidence

variable {x : Confidence}

theorem unjudged_holds : single.Holds unjudged :=
  Number.nearest_holds (by decide) (by decide) false 3 (show 10 ≠ 0 by decide)

theorem clamped_holds (h : single.Holds x) : single.Holds x.clamped := by
  have hzero : single.Holds (Binary.zero single) := Number.fits_zero (by decide)
  have hone : single.Holds (Binary.one single) := ⟨by decide, by decide, by decide⟩
  unfold clamped Binary.clampUnit
  split
  · trivial
  · split <;> assumption
  · split
    · exact hzero
    · split <;> assumption

/-- Only what is not a number stays out of the interval from 0 to 1. -/
theorem clamped_isFinite : x.clamped.isFinite = true ↔ x ≠ .nan := by
  unfold clamped Binary.clampUnit
  split
  · simp [Binary.isFinite]
  · split <;> simp [Binary.isFinite, Binary.zero, Binary.one]
  · split_ifs <;> simp [Binary.isFinite, Binary.zero, Binary.one]

/-- A finite confidence is read back as a finite one. -/
theorem reread (hfinite : x.isFinite = true) (h : single.Holds x) :
    ∃ y : Confidence, y.isFinite = true ∧ decodeSingle 0 (Value.number (.single x)).node = .ok y := by
  cases x with
  | nan => cases hfinite
  | infinite negative => cases hfinite
  | finite negative m e =>
    obtain ⟨m', e', hread⟩ := decodeSingle_finite h
    exact ⟨_, rfl, hread⟩

/-- What is not finite is written as nothing. -/
theorem node_of_not_finite (hfinite : x.isFinite = false) :
    (Value.number (.single x)).node = .null := by
  have htext : (Numeric.single x).text = "null".toList := by
    cases x with
    | nan => rfl
    | infinite negative => rfl
    | finite negative m e => cases hfinite
  rw [Value.node, Numeric.node, htext, ofChars_of_spells_tight .null]

end Confidence

namespace Command

/-- The commands that can be made: a new command, a command that was changed, and what a line holds. -/
inductive Made : Command → Prop
  | new (action : Action) (target : Target) (raw : String) : Made (of action target raw)
  | withTrait {c : Command} (h : Made c) (trait : Trait) : Made (c.withTrait trait)
  | withOperand {c : Command} (h : Made c) (operand : Operand) : Made (c.withOperand operand)
  | withText {c : Command} (h : Made c) (text : String) : Made (c.withText text)
  | withConfidence {c : Command} (h : Made c) {x : Confidence} (hx : single.Holds x) :
      Made (c.withConfidence x)
  | read {line : String} {c : Command} (h : ofLine line = .ok c) : Made c

theorem confidence_of_ofLine {line : String} {c : Command} (h : Command.ofLine line = .ok c) :
    single.Holds c.confidence := by
  obtain ⟨d, hdecode, hwhole⟩ := bind_eq_ok h
  obtain ⟨r, hread, hd⟩ := bind_eq_ok hdecode
  obtain rfl := Except.ok.inj hd
  split at hwhole
  · cases hwhole
  · obtain rfl := Except.ok.inj hwhole
    obtain ⟨-, -, -, -, hconfidence, -⟩ := Fields.decode_parts hread
    obtain ⟨depth, v, hsingle⟩ | hdefault | hdefault := hconfidence
    · exact decodeSingle_holds hsingle
    · cases hdefault
    · cases hdefault

theorem Made.confidence_holds {c : Command} (h : c.Made) : single.Holds c.confidence := by
  induction h with
  | new => exact Confidence.unjudged_holds
  | withTrait _ _ ih => exact ih
  | withOperand _ _ ih => exact ih
  | withText _ _ ih => exact ih
  | withConfidence _ hx => exact Confidence.clamped_holds hx
  | read h => exact confidence_of_ofLine h

/-- **What becomes of a command that is written as a line and read back.** -/
structure Rereads (c : Command) : Prop where
  /-- With a finite confidence it comes back as it was, with a finite confidence. -/
  finite : c.confidence.isFinite = true →
    ∃ x : Confidence, x.isFinite = true ∧ Command.ofLine c.toLine = .ok { c with confidence := x }
  /-- Otherwise its line is refused. -/
  refused : c.confidence.isFinite = false →
    Command.ofLine c.toLine = .error (.content (.invalidType .null "f32"))

theorem ofLine_of_finite {c : Command} (hfinite : c.confidence.isFinite = true)
    (h : single.Holds c.confidence) :
    ∃ x : Confidence, x.isFinite = true ∧ Command.ofLine c.toLine = .ok { c with confidence := x } := by
  obtain ⟨x, hx, hread⟩ := Confidence.reread hfinite h
  refine ⟨x, hx, ?_⟩
  rw [Command.ofLine, toLine, read_compact]
  exact decode_form_with isForm_id (by omega) ((decodeSingle_depth _ _).trans hread)

/-- The members of a command before its confidence. -/
def opening (c : Command) : List (String × Value) :=
  [("action", .text c.action.label), ("target", .text c.target.label)] ++
    present "field" (c.trait.map fun t => .text t.label) ++ present "value" (c.operand.map Operand.toJson)

theorem outcome_opening (c : Command) : ∀ m ∈ c.opening.map fun m => (m.1, m.2.node),
    fields.outcome 1 m.1 m.2 = some (.ok ()) := by
  have haction := decodeVariant_form isForm_id 1 c.action.lookup_label
  have htarget := decodeVariant_form isForm_id 1 c.target.lookup_label
  intro m hm
  have hcases : m = ("action", (text c.action.label).node) ∨
      m = ("target", (text c.target.label).node) ∨
      (∃ t, c.trait = some t ∧ m = ("field", (text t.label).node)) ∨
      ∃ o, c.operand = some o ∧ m = ("value", o.toJson.node) := by
    simpa [opening, present, eq_comm] using hm
  simp only [id_eq] at haction htarget
  rcases hcases with rfl | rfl | ⟨t, -, rfl⟩ | ⟨o, -, rfl⟩
  · simp [fields, Fields.outcome, haction, Except.map]
  · simp [fields, Fields.outcome, htarget, Except.map]
  · have hread : decodeOption (decodeVariant Trait.table) 1 (text t.label).node = .ok (some t) :=
      supplies_trait isForm_id (some t)
    simp [fields, Fields.outcome, hread, Except.map]
  · have hread : decodeOption Operand.decode 1 o.toJson.node = .ok (some o) :=
      supplies_operand isForm_id (show 1 < 126 by omega) (some o)
    simp [fields, Fields.outcome, hread, Except.map]

theorem ofLine_of_not_finite {c : Command} (hfinite : c.confidence.isFinite = false) :
    Command.ofLine c.toLine = .error (.content (.invalidType .null "f32")) := by
  have hmembers : c.members.map (fun m => (m.1, m.2.node)) =
      (c.opening.map fun m => (m.1, m.2.node)) ++
        ("confidence", .null) :: [("raw_command", (Value.text c.raw).node)] := by
    rw [← Confidence.node_of_not_finite hfinite]
    simp [members, opening]
  have hnode : c.toJson.node =
      .object (Fields.asMembers (c.members.map fun m => (m.1, m.2.node))) .closed := by
    rw [show c.toJson = .object c.members from rfl, Value.node, memberNodes_eq_map, Fields.asMembers,
      List.map_map]
    rfl
  have hnames : ((c.members.map fun m => (m.1, m.2.node)).map Prod.fst).Nodup := by
    rw [List.map_map]
    exact c.members_nodup
  rw [hmembers] at hnode hnames
  have hrefused : fields.decode "struct Command" 0 c.toJson.node =
      .error (.content (.invalidType .null "f32")) := by
    rw [hnode]
    exact Fields.decode_refused _ (by omega) hnames c.outcome_opening rfl
  rw [Command.ofLine, toLine, read_compact, decode, hrefused]
  rfl

/-- **The line of a command is read back exactly if its confidence is finite**, however the command was
made.  A judgement leaves the confidence finite unless it is not a number itself. -/
theorem rereads_of_made {c : Command} (h : c.Made) :
    c.Rereads ∧ ∀ x : Confidence, (c.withConfidence x).confidence.isFinite = true ↔ x ≠ .nan := by
  refine ⟨⟨fun hfinite => ?_, ofLine_of_not_finite⟩, fun x => Confidence.clamped_isFinite⟩
  exact ofLine_of_finite hfinite h.confidence_holds

/-- A command with all its parts, judged with infinity, and one from a line, with the greatest confidence
that is finite. -/
theorem rereads_of_made_judged :
    let built := (((of .change .secondaryPersona "x").withTrait .goal).withText "\n\"").withConfidence
      (.infinite false)
    let line :=
      "\x7b\"confidence\":3.4028235e38,\"target\":\"age\",\"action\":\"set\",\"raw_command\":\"\"\x7d"
    let read : Command := ⟨.set, .age, none, none, .finite false (2 ^ 24 - 1) 104, ""⟩
    (built.Made ∧ built.Rereads) ∧ ofLine line = .ok read ∧ read.Rereads := by
  intro built line read
  have hbuilt : built.Made := .withConfidence (.withText (.withTrait (.new _ _ _) _) _) trivial
  have hread : ofLine line = .ok read := by decide +kernel
  exact ⟨⟨hbuilt, (rereads_of_made hbuilt).1⟩, hread, (rereads_of_made (.read hread)).1⟩

/-- Not a number stays what it is when a command is judged with it, and a line may hold a number that is
read as infinite: both commands are written as lines that are refused. -/
theorem made_line_refused :
    let built := (of .set .age "c").withConfidence .nan
    let line := "\x7b\"action\":\"set\",\"target\":\"age\",\"confidence\":1e39,\"raw_command\":\"c\"\x7d"
    let read : Command := ⟨.set, .age, none, none, .infinite false, "c"⟩
    (built.Made ∧ ofLine built.toLine = .error (.content (.invalidType .null "f32"))) ∧
      ofLine line = .ok read ∧ read.Made ∧
        ofLine read.toLine = .error (.content (.invalidType .null "f32")) := by
  intro built line read
  have hread : ofLine line = .ok read := by decide +kernel
  exact ⟨⟨.withConfidence (.new _ _ _) trivial, ofLine_of_not_finite rfl⟩, hread, .read hread,
    ofLine_of_not_finite rfl⟩

end Command

end PersonaDialogue
