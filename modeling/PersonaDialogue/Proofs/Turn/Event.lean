import PersonaDialogue.Proofs.Instant
import PersonaDialogue.Proofs.Json.OneLine
import PersonaDialogue.Proofs.Json.Settled
import PersonaDialogue.Proofs.Turn.Details
import PersonaDialogue.Proofs.Uuid
import PersonaDialogue.Turn.Event

/-!
# Events are read back

An event is read back from its line if its time is an instant of the calendar and the clock, and its
details are a value that a reader of values leaves as it is (`Event.Lasting`).
-/

namespace PersonaDialogue

open Json Json.Value

theorem EventKind.lookup_label (k : EventKind) : table.lookup k.label = some k := by cases k <;> rfl

theorem Uuid.decode_hyphenated (depth : Nat) (u : Uuid) :
    Uuid.decode depth (Value.text u.hyphenated).node = .ok u := by
  simp [Value.node, Uuid.decode, ofChars?_hyphenated, pure, Except.pure]

theorem Instant.decode_text (depth : Nat) {t : Instant} (h : t.Proper) :
    Instant.decode depth (Value.text t.text).node = .ok t := by
  simp [Value.node, Instant.decode, ofChars?_text h, pure, Except.pure]

/-! ### Details -/

/-- The confidences of the rules are read back from the text of the wider numbers that they are. -/
theorem restored_confidence : ∀ x ∈ Intent.confidences,
    (Numeric.double (x.convert Number.double)).restored = true := by
  decide +kernel

theorem settled_confidence (depth : Nat) {x : Confidence} (h : x ∈ Intent.confidences) :
    Settled depth (Value.number (.single x)).canonical :=
  settled_number depth (restored_confidence x h) rfl

/-- An object of two members. -/
theorem settled_pair {depth : Nat} (hdepth : depth < 127) {k l : String} {v w : Value}
    (hv : Settled (depth + 1) v.canonical) (hw : Settled (depth + 1) w.canonical) :
    Settled depth (Value.object [(k, v), (l, w)]).canonical := by
  refine settled_object hdepth fun m hm => ?_
  simp only [List.mem_cons, List.not_mem_nil, or_false] at hm
  rcases hm with rfl | rfl
  · exact hv
  · exact hw

theorem AgeRange.settled {depth : Nat} (hdepth : depth < 127) (r : AgeRange) :
    Settled depth r.toJson.canonical :=
  settled_pair hdepth (settled_word _ r.min) (settled_word _ r.max)

theorem Operand.settled {depth : Nat} (hdepth : depth < 126) (o : Operand) :
    Settled depth o.toJson.canonical := by
  have hpair : depth < 127 := by omega
  cases o with
  | ageRange r => exact settled_pair hpair (settled_text _ _) (r.settled (by omega))
  | relative d => exact settled_pair hpair (settled_text _ _) (settled_text _ _)
  | text s => exact settled_pair hpair (settled_text _ _) (settled_text _ _)

theorem present_settled {α : Type} {depth : Nat} {toJson : α → Value}
    (h : ∀ a, Settled depth (toJson a).canonical) (name : String) (a : Option α) :
    ∀ m ∈ Command.present name (a.map toJson), Settled depth m.2.canonical := by
  intro m hm
  cases a with
  | none => cases hm
  | some a =>
    obtain rfl := List.mem_singleton.1 hm
    exact h a

theorem Command.settled {depth : Nat} (hdepth : depth < 125) {c : Command}
    (h : c.confidence ∈ Intent.confidences) : Settled depth c.toJson.canonical := by
  have hlabel : ∀ t : Trait, Settled (depth + 1) (Value.text t.label).canonical :=
    fun t => settled_text _ t.label
  have htrait := present_settled hlabel "field" c.trait
  have hinside : ∀ o : Operand, Settled (depth + 1) o.toJson.canonical := fun o => o.settled (by omega)
  have hoperand := present_settled hinside "value" c.operand
  have hmembers : ∀ m ∈ c.members, Settled (depth + 1) m.2.canonical := by
    intro m hm
    simp only [members, List.mem_append, List.mem_cons, List.not_mem_nil, or_false] at hm
    rcases hm with (((rfl | rfl) | hm) | hm) | rfl | rfl
    · exact settled_text _ _
    · exact settled_text _ _
    · exact htrait m hm
    · exact hoperand m hm
    · exact settled_confidence _ h
    · exact settled_text _ _
  exact settled_object (by omega) hmembers

theorem settled_hash (depth : Nat) (hash : Option String) : Settled depth (ofText? hash).canonical := by
  have hsettled := settled_ofText? depth hash
  rwa [hsettled.stays]

/-- The details of an event about a command are held as they will be read. -/
theorem Details.settled_toValue {depth : Nat} (hdepth : depth < 124) {d : Details}
    (h : d.command.confidence ∈ Intent.confidences) : Settled depth d.toValue := by
  have hmembers : ∀ m ∈ d.members, Settled (depth + 1) m.2.canonical := by
    intro m hm
    simp only [members, List.mem_cons, List.not_mem_nil, or_false] at hm
    rcases hm with rfl | rfl | rfl
    · exact Command.settled (by omega) h
    · exact settled_hash _ _
    · exact settled_hash _ _
  exact settled_object (by omega) hmembers

namespace Event

/-- Can an event be read back from its line? -/
structure Lasting (e : Event) : Prop where
  time : e.time.Proper
  details : Settled 1 e.details

theorem decodeDetails_settled {depth : Nat} {v : Value} (h : Settled depth v) :
    decodeDetails depth v.node = .ok v := by
  simp [decodeDetails, h.read, h.stays]

def members (e : Event) : List (String × Value) :=
  [("event_id", .text e.id.hyphenated), ("turn_id", .text e.turn.hyphenated),
    ("event_type", .text e.kind.label), ("timestamp", .text e.time.text), ("details", e.details)]

/-- **A lasting event is read back from its line.** -/
theorem ofLine_toLine {e : Event} (h : e.Lasting) : ofLine e.toLine = .ok e := by
  have hreads : fields.Reads 1 (fun k => (e.toJson.member? k).map Value.node)
      (e.id, e.turn, e.kind, e.time, e.details, ()) :=
    ⟨Uuid.decode_hyphenated 1 e.id, Uuid.decode_hyphenated 1 e.turn,
      decodeVariant_form isForm_id 1 e.kind.lookup_label, Instant.decode_text 1 h.time,
      decodeDetails_settled h.details, trivial⟩
  have hread : fields.decode "struct TurnEvent" 0 (Value.object e.members).node =
      .ok (e.id, e.turn, e.kind, e.time, e.details, ()) :=
    Fields.decode_form isForm_id _ (by decide) (by simp [members]) (by simp [members, fields, Fields.names])
      (by omega) hreads
  rw [ofLine, toLine, read_compact, show e.toJson = .object e.members from rfl]
  simp [decode, hread]

theorem toLine_visible (e : Event) : Visible e.toLine.toList := e.toJson.compactText_visible

end Event

end PersonaDialogue
