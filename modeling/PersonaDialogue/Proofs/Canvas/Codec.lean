import PersonaDialogue.Canvas.Codec
import PersonaDialogue.Proofs.Json.Form

/-!
# Canvases are read back

A canvas is read from any form of its object, and so are its parts.  The deepest of them is the age range
of a persona, three objects inside the canvas.
-/

namespace PersonaDialogue

open Json Json.Value

section Form

variable {form : Value → Value} (hform : IsForm form)
include hform

theorem decodeWord_form (depth : Nat) (n : UInt32) :
    decodeWord depth (form (wordJson n)).node = .ok n := by
  have hchars : (Numeric.whole n.toNat).text = (Numeral.ofNat n.toNat).chars := by
    simp [Numeric.text, wholeText, Numeral.chars_ofNat]
  have hnode : (form (wordJson n)).node = .numeral (.ofNat n.toNat) := by
    rw [wordJson, Value.ofNat, hform.whole, Value.node]
    exact numericNode_of_chars (Numeral.ofNat_wellFormed n.toNat) hchars
  rw [hnode, decodeWord, Numeral.read_ofNat_toNat, ok_bind, wordOfNumeric_toNat]

theorem AgeRange.decode_form {depth : Nat} (hdepth : depth < 127) (r : AgeRange) :
    AgeRange.decode depth (form r.toJson).node = .ok r := by
  have hread : AgeRange.fields.decode "struct AgeRange" depth (form r.toJson).node =
      .ok (r.min, r.max, ()) := by
    refine Fields.decode_form hform _ (by decide) (by simp) (by simp [fields, Fields.names]) hdepth ?_
    exact ⟨decodeWord_form hform _ _, decodeWord_form hform _ _, trivial⟩
  simp [AgeRange.decode, hread]

theorem decodeTexts_form {depth : Nat} (hdepth : depth < 127) (texts : List String) :
    decodeList decodeText depth (form (textsJson texts)).node = .ok texts :=
  decodeList_form hform depth hdepth fun s _ => decodeText_form hform _ s

/-! ### Personas -/

theorem Demographics.decode_form {depth : Nat} (hdepth : depth < 126) (d : Demographics) :
    Demographics.decode depth (form d.toJson).node = .ok d := by
  have hrange := AgeRange.decode_form hform (show depth + 1 < 127 by omega) d.ageRange
  have hread : Demographics.fields.decode "struct Demographics" depth (form d.toJson).node =
      .ok (d.ageRange, d.location, d.income, d.education, ()) := by
    refine Fields.decode_form hform _ (by decide) (by simp) (by simp [fields, Fields.names])
      (by omega) ?_
    exact ⟨hrange, decodeText_form hform _ _, decodeText_form hform _ _, decodeText_form hform _ _,
      trivial⟩
  simp [Demographics.decode, hread]

theorem Environment.decode_form {depth : Nat} (hdepth : depth < 126) (e : Environment) :
    Environment.decode depth (form e.toJson).node = .ok e := by
  have hinside : depth + 1 < 127 := by omega
  have hread : Environment.fields.decode "struct Environment" depth (form e.toJson).node =
      .ok (e.devices, e.tools, e.context, ()) := by
    refine Fields.decode_form hform _ (by decide) (by simp) (by simp [fields, Fields.names])
      (by omega) ?_
    exact ⟨decodeTexts_form hform hinside _, decodeTexts_form hform hinside _,
      decodeText_form hform _ _, trivial⟩
  simp [Environment.decode, hread]

theorem Persona.decode_form {depth : Nat} (hdepth : depth < 125) (p : Persona) :
    Persona.decode depth (form p.toJson).node = .ok p := by
  have hdemographics :=
    Demographics.decode_form hform (show depth + 1 < 126 by omega) p.demographics
  have henvironment := Environment.decode_form hform (show depth + 1 < 126 by omega) p.environment
  have hread : Persona.fields.decode "struct Persona" depth (form p.toJson).node =
      .ok (p.name, p.role, p.age, p.occupation, p.goal, p.demographics, p.environment, ()) := by
    refine Fields.decode_form hform _ (by decide) (by simp) (by simp [fields, Fields.names])
      (by omega) ?_
    exact ⟨decodeText_form hform _ _, decodeText_form hform _ _, decodeWord_form hform _ _,
      decodeText_form hform _ _, decodeText_form hform _ _, hdemographics, henvironment, trivial⟩
  simp [Persona.decode, hread]

/-! ### Elements of collections -/

omit hform in
theorem Priority.lookup_label (p : Priority) : table.lookup p.label = some p := by cases p <;> rfl

theorem PainPoint.decode_form {depth : Nat} (hdepth : depth < 127) (p : PainPoint) :
    PainPoint.decode depth (form p.toJson).node = .ok p := by
  have hread : PainPoint.fields.decode "struct PainPoint" depth (form p.toJson).node =
      .ok (p.id, p.description, p.priority, ()) := by
    refine Fields.decode_form hform _ (by decide) (by simp) (by simp [fields, Fields.names]) hdepth ?_
    exact ⟨decodeText_form hform _ _, decodeText_form hform _ _,
      decodeVariant_form hform _ p.priority.lookup_label, trivial⟩
  simp [PainPoint.decode, hread]

theorem Job.decode_form {depth : Nat} (hdepth : depth < 127) (j : Job) :
    Job.decode depth (form j.toJson).node = .ok j := by
  have hread : Job.fields.decode "struct JobToBeDone" depth (form j.toJson).node =
      .ok (j.id, j.statement, ()) := by
    refine Fields.decode_form hform _ (by decide) (by simp) (by simp [fields, Fields.names]) hdepth ?_
    exact ⟨decodeText_form hform _ _, decodeText_form hform _ _, trivial⟩
  simp [Job.decode, hread]

theorem Stage.decode_form {depth : Nat} (hdepth : depth < 127) (s : Stage) :
    Stage.decode depth (form s.toJson).node = .ok s := by
  have hread : Stage.fields.decode "struct JourneyStage" depth (form s.toJson).node =
      .ok (s.id, s.name, s.description, ()) := by
    refine Fields.decode_form hform _ (by decide) (by simp) (by simp [fields, Fields.names]) hdepth ?_
    exact ⟨decodeText_form hform _ _, decodeText_form hform _ _, decodeText_form hform _ _, trivial⟩
  simp [Stage.decode, hread]

theorem Behavior.decode_form {depth : Nat} (hdepth : depth < 127) (b : Behavior) :
    Behavior.decode depth (form b.toJson).node = .ok b := by
  have hread : Behavior.fields.decode "struct Behavior" depth (form b.toJson).node =
      .ok (b.id, b.description, ()) := by
    refine Fields.decode_form hform _ (by decide) (by simp) (by simp [fields, Fields.names]) hdepth ?_
    exact ⟨decodeText_form hform _ _, decodeText_form hform _ _, trivial⟩
  simp [Behavior.decode, hread]

/-! ### Canvases -/

/-- **A canvas is read from any form of its object.** -/
theorem Canvas.decode_form {depth : Nat} (hdepth : depth < 124) (c : Canvas) :
    Canvas.decode depth (form c.toJson).node = .ok c := by
  have hpersona := Persona.decode_form hform (show depth + 1 < 125 by omega)
  have hinside : depth + 1 < 127 := by omega
  have helement : depth + 1 + 1 < 127 := by omega
  have hread : Canvas.fields.decode "struct PersonaState" depth (form c.toJson).node =
      .ok (c.primary, c.secondary, c.painPoints, c.jobs, c.stages, c.behaviors, ()) := by
    refine Fields.decode_form hform _ (by decide) (by simp) (by simp [fields, Fields.names])
      (by omega) ?_
    exact ⟨hpersona c.primary, hpersona c.secondary,
      decodeList_form hform _ hinside fun p _ => PainPoint.decode_form hform helement p,
      decodeList_form hform _ hinside fun j _ => Job.decode_form hform helement j,
      decodeList_form hform _ hinside fun s _ => Stage.decode_form hform helement s,
      decodeList_form hform _ hinside fun b _ => Behavior.decode_form hform helement b, trivial⟩
  simp [Canvas.decode, hread]

end Form

end PersonaDialogue
