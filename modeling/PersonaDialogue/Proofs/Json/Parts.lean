import PersonaDialogue.Proofs.Json.Record

/-!
# The parts of a record that was read

Whatever an object or an array looks like, every part of the record that is read from it is something
that the decoder of its field gave, or what stands for the field when it is left out (`decode_parts`).
-/

namespace PersonaDialogue.Json

theorem mismatch_ne_ok {α : Type} (expected : String) (v : Node) (a : α) :
    v.mismatch expected ≠ .ok a := by
  intro h
  cases v with
  | numeral n =>
    obtain ⟨found, hread, h⟩ := bind_eq_ok h
    cases h
  | text l =>
    obtain ⟨found, hread, h⟩ := bind_eq_ok h
    cases h
  | _ => cases h

namespace Fields

/-- Did the decoder of a field give `a`, or is it what stands for the field when it is left out? -/
def Obtained {α : Type} (decode : Decoder α) (presence : Presence α) (a : α) : Prop :=
  (∃ depth v, decode depth v = .ok a) ∨ presence = .inObject a ∨ presence = .anywhere a

/-- Is every part of a record obtained by its field? -/
def Parts : {ρ : Type} → Fields ρ → ρ → Prop
  | _, nil, _ => True
  | _, field _ decode presence later, r => Obtained decode presence r.1 ∧ later.Parts r.2

/-- Did the decoders of the fields give every part of a draft that is there? -/
def DraftParts : {ρ : Type} → (fs : Fields ρ) → fs.Draft → Prop
  | _, nil, _ => True
  | _, field (α := α) _ decode _ later, draft =>
    let draft : Option α × later.Draft := draft
    (∀ a ∈ draft.1, ∃ depth v, decode depth v = .ok a) ∧ later.DraftParts draft.2

section Object

variable {ρ : Type} {fs : Fields ρ} {depth : Nat}

theorem blank_parts : fs.DraftParts fs.blank := by
  induction fs with
  | nil => trivial
  | field name decode presence later ih => exact ⟨by simp [blank], ih⟩

theorem put_parts {name : String} {v : Node} {draft draft' : fs.Draft} (h : fs.DraftParts draft)
    (hput : put depth name v fs draft = some (.ok draft')) : fs.DraftParts draft' := by
  induction fs with
  | nil => simp [put] at hput
  | field key decode presence later ih =>
    obtain ⟨a, others⟩ := draft
    obtain ⟨hfirst, hothers⟩ := h
    obtain ⟨-, b, hdecode, rfl⟩ | ⟨-, others', hlater, rfl⟩ := put_ok hput
    · refine ⟨?_, hothers⟩
      rintro _ ⟨⟩
      exact ⟨depth, v, hdecode⟩
    · exact ⟨hfirst, ih hothers hlater⟩

theorem readMembers_parts {ending : Ending} {members : List (Literal × Node)} {draft draft' : fs.Draft}
    (h : fs.DraftParts draft) (hread : fs.readMembers depth ending members draft = .ok draft') :
    fs.DraftParts draft' := by
  induction members generalizing draft with
  | nil =>
    obtain ⟨-, -, hdraft⟩ := bind_eq_ok hread
    exact Except.ok.inj hdraft ▸ h
  | cons m rest ih =>
    obtain ⟨key, v⟩ := m
    obtain ⟨name, -, hread⟩ := bind_eq_ok hread
    simp only at hread
    split at hread
    · next r hr =>
      obtain ⟨next, rfl, hread⟩ := bind_eq_ok hread
      exact ih (put_parts h hr) hread
    · obtain ⟨-, -, hread⟩ := bind_eq_ok hread
      obtain ⟨next, hdraft, hread⟩ := bind_eq_ok hread
      exact ih (Except.ok.inj hdraft ▸ h) hread

theorem complete_parts {draft : fs.Draft} {r : ρ} (h : fs.DraftParts draft)
    (hcomplete : fs.complete draft = .ok r) : fs.Parts r := by
  induction fs with
  | nil => trivial
  | field name decode presence later ih =>
    obtain ⟨first, others⟩ := draft
    obtain ⟨hfirst, hothers⟩ := h
    simp only [complete] at hcomplete
    obtain ⟨a, ha, hlater⟩ : ∃ a, Obtained decode presence a ∧
        (later.complete others >>= fun s => pure (a, s)) = .ok r := by
      cases first with
      | some a => exact ⟨a, .inl (hfirst a rfl), hcomplete⟩
      | none =>
        cases presence with
        | required => cases hcomplete
        | inObject a => exact ⟨a, .inr (.inl rfl), hcomplete⟩
        | anywhere a => exact ⟨a, .inr (.inr rfl), hcomplete⟩
    obtain ⟨s, hs, hr⟩ := bind_eq_ok hlater
    obtain rfl := Except.ok.inj hr
    exact ⟨ha, ih hothers hs⟩

end Object

theorem readItems_parts {ρ : Type} {fs : Fields ρ} {depth index : Nat} {ending : Option Fault}
    {expected : String} {items : List Node} {r : ρ}
    (h : readItems depth ending expected fs index items = .ok r) : fs.Parts r := by
  induction fs generalizing index items with
  | nil => trivial
  | field name decode presence later ih =>
    cases items with
    | cons v rest =>
      obtain ⟨a, ha, h⟩ := bind_eq_ok h
      obtain ⟨later', hlater, hr⟩ := bind_eq_ok h
      obtain rfl := Except.ok.inj hr
      exact ⟨.inl ⟨depth, v, ha⟩, ih hlater⟩
    | nil =>
      obtain ⟨-, -, h⟩ := bind_eq_ok h
      cases presence with
      | required => cases h
      | inObject a => cases h
      | anywhere a =>
        obtain ⟨later', hlater, hr⟩ := bind_eq_ok h
        obtain rfl := Except.ok.inj hr
        exact ⟨.inr (.inr rfl), ih hlater⟩

/-- **Every part of a record that was read is obtained by its field.** -/
theorem decode_parts {ρ : Type} {fs : Fields ρ} {title : String} {depth : Nat} {v : Node} {r : ρ}
    (h : fs.decode title depth v = .ok r) : fs.Parts r := by
  cases v with
  | object members ending =>
    obtain ⟨inside, -, h⟩ := bind_eq_ok h
    obtain ⟨draft, hread, hcomplete⟩ := bind_eq_ok h
    exact complete_parts (readMembers_parts blank_parts hread) hcomplete
  | array items ending =>
    obtain ⟨inside, -, h⟩ := bind_eq_ok h
    exact readItems_parts h
  | null => exact absurd h (mismatch_ne_ok title .null r)
  | boolean b => exact absurd h (mismatch_ne_ok title (.boolean b) r)
  | numeral n => exact absurd h (mismatch_ne_ok title (.numeral n) r)
  | text l => exact absurd h (mismatch_ne_ok title (.text l) r)
  | broken attempt f => exact absurd h (mismatch_ne_ok title (.broken attempt f) r)

end Fields

end PersonaDialogue.Json
