import PersonaDialogue.Proofs.Intent.Arbitration
import PersonaDialogue.Proofs.Text.Case

/-!
# Case and surrounding white space do not matter

Two messages are *alike* if they are the same once they are trimmed, apart from the case of the letters
`A` to `Z`.  Patterns are matched against the trimmed text in lower case, so one rule decides both, with
one match.  The builder of the rule sees the message as it was written only where it cuts out an operand
or quotes the message, and there the case of a letter changes nothing but that letter
(`Rule.build_alike`).
-/

namespace PersonaDialogue

/-- Are two texts the same, apart from the case of the letters `A` to `Z`? -/
def Text.Alike (s t : List Char) : Prop := lowerAscii s = lowerAscii t

/-- Are two operands the same, apart from the case of the letters of a text? -/
def Operand.Alike : Operand → Operand → Prop
  | ageRange r, ageRange r' => r = r'
  | relative d, relative d' => d = d'
  | text s, text t => Text.Alike s.toList t.toList
  | _, _ => False

/-- Are two commands the same, apart from the case of the letters of a text and of the message? -/
structure Command.Alike (c d : Command) : Prop where
  action : c.action = d.action
  target : c.target = d.target
  trait : c.trait = d.trait
  operand : Option.Rel Operand.Alike c.operand d.operand
  confidence : c.confidence = d.confidence
  raw : Text.Alike c.raw.toList d.raw.toList

namespace Intent

/-- Do two verdicts name one rule, with commands that are alike or without a command? -/
structure Verdict.Alike (v w : Verdict) : Prop where
  rule : v.rule = w.rule
  command : Option.Rel Command.Alike v.command w.command

/-- Are two matches the same, apart from the case of the letters of the message? -/
structure Match.Alike (m n : Match) : Prop where
  searched : m.searched = n.searched
  trace : m.trace = n.trace
  message : Text.Alike m.message n.message
  confidence : m.confidence = n.confidence
  window : m.window = n.window

/-! ### Results that are alike -/

section Results

variable {α β γ δ : Type} {r : γ → δ → Prop}

theorem rel_bind {q : α → β → Prop} {x : Option α} {y : Option β} (h : Option.Rel q x y)
    {f : α → Option γ} {g : β → Option δ} (hfg : ∀ a b, q a b → Option.Rel r (f a) (g b)) :
    Option.Rel r (x.bind f) (y.bind g) := by
  cases h with
  | none => exact .none
  | some hab => exact hfg _ _ hab

theorem rel_bind_same (x : Option α) {f : α → Option γ} {g : α → Option δ}
    (hfg : ∀ a, Option.Rel r (f a) (g a)) : Option.Rel r (x.bind f) (x.bind g) := by
  cases x with
  | none => exact .none
  | some a => exact hfg a

theorem rel_of_map_eq {q : α → α → Prop} {f : α → γ} (hq : ∀ a b, f a = f b → q a b)
    {x y : Option α} (h : x.map f = y.map f) : Option.Rel q x y := by
  cases x with
  | none =>
    cases y with
    | none => exact .none
    | some b => simp at h
  | some a =>
    cases y with
    | none => simp at h
    | some b => exact .some (hq a b (by simpa using h))

end Results

/-! ### Builders -/

section Builders

variable {m n : Match} (h : m.Alike n)
include h

theorem number?_alike (index : Nat) : m.number? index = n.number? index := by
  rw [Match.number?, Match.number?, h.trace]

theorem word?_alike (index : Nat) : m.word? index = n.word? index := by
  rw [Match.word?, Match.word?, h.trace]

/-- The operand is cut at the same offsets, and cleaning it does not look at letters. -/
theorem operand?_alike (index : Nat) :
    Option.Rel (fun s t : String => Text.Alike s.toList t.toList) (m.operand? index)
      (n.operand? index) := by
  unfold Match.operand?
  rw [h.searched, h.trace]
  refine rel_bind_same _ fun span => ?_
  have hcut : Option.Rel Text.Alike (Text.cut m.message span.1 span.2)
      (Text.cut n.message span.1 span.2) := by
    refine rel_of_map_eq (f := Text.lowerAscii) (fun _ _ he => he) ?_
    rw [← Text.cut_lowerAscii, ← Text.cut_lowerAscii, show Text.lowerAscii m.message = _ from h.message]
  refine rel_bind hcut fun a b hab => ?_
  have hclean : Text.lowerAscii (cleaned a) = Text.lowerAscii (cleaned b) := by
    rw [← cleaned_lowerAscii, ← cleaned_lowerAscii, show Text.lowerAscii a = _ from hab]
  have hempty : (cleaned a).isEmpty = (cleaned b).isEmpty := by
    have hlength := congrArg List.length hclean
    simp only [Text.lowerAscii, List.length_map] at hlength
    cases ha : cleaned a <;> cases hb : cleaned b <;> simp_all
  simp only [hempty]
  split
  · exact .none
  · exact .some (by simpa [Text.Alike] using hclean)

theorem command_alike (action : Action) (target : Target) :
    (m.command action target).Alike (n.command action target) where
  action := rfl
  target := rfl
  trait := rfl
  operand := .none
  confidence := congrArg Confidence.clamped h.confidence
  raw := by simpa [Match.command, Command.withConfidence, Command.of] using h.message

omit h in
theorem withOperand_alike {c d : Command} (h : c.Alike d) {o p : Operand} (ho : o.Alike p) :
    (c.withOperand o).Alike (d.withOperand p) :=
  { h with operand := .some ho }

omit h in
theorem withText_alike {c d : Command} (h : c.Alike d) {s t : String}
    (hs : Text.Alike s.toList t.toList) : (c.withText s).Alike (d.withText t) :=
  withOperand_alike h (o := .text s) (p := .text t) hs

omit h in
theorem withTrait_alike {c d : Command} (h : c.Alike d) (trait : Trait) :
    (c.withTrait trait).Alike (d.withTrait trait) :=
  { h with trait := rfl }

omit h in
theorem withConfidence_alike {c d : Command} (h : c.Alike d) (confidence : Confidence) :
    (c.withConfidence confidence).Alike (d.withConfidence confidence) :=
  { h with confidence := rfl }

theorem setRange_alike (range : AgeRange) : (m.setRange range).Alike (n.setRange range) :=
  withOperand_alike (command_alike h _ _) (o := .ageRange range) (p := .ageRange range) rfl

theorem buildAgeRange_alike : Option.Rel Command.Alike (buildAgeRange m) (buildAgeRange n) := by
  unfold buildAgeRange
  rw [number?_alike h, number?_alike h]
  exact rel_bind_same _ fun a => rel_bind_same _ fun b => rel_bind_same _ fun range =>
    .some (setRange_alike h range)

theorem buildSingleAge_alike : Option.Rel Command.Alike (buildSingleAge m) (buildSingleAge n) := by
  unfold buildSingleAge
  rw [number?_alike h, h.window]
  exact rel_bind_same _ fun a => rel_bind_same _ fun range => .some (setRange_alike h range)

theorem buildRelative_alike (d : Direction) :
    Option.Rel Command.Alike (buildRelative d m) (buildRelative d n) :=
  .some (withOperand_alike (command_alike h _ _) (o := .relative d) (p := .relative d) rfl)

theorem buildTrait_alike : Option.Rel Command.Alike (buildTrait m) (buildTrait n) := by
  unfold buildTrait
  rw [word?_alike h, word?_alike h, h.confidence]
  refine rel_bind_same _ fun word => rel_bind_same _ fun trait =>
    rel_bind (operand?_alike h 3) fun _ _ hst => .some ?_
  exact withConfidence_alike (withText_alike (withTrait_alike (command_alike h _ _) trait) hst) _

theorem buildEdit_alike (action : Action) (shelf : Shelf) :
    Option.Rel Command.Alike (buildEdit action shelf m) (buildEdit action shelf n) :=
  rel_bind (operand?_alike h 1) fun _ _ hst => .some (withText_alike (command_alike h _ _) hst)

/-- The general builder looks for numbers in the message, which it lower-cases once more. -/
theorem buildGeneral_alike : Option.Rel Command.Alike (buildGeneral m) (buildGeneral n) := by
  unfold buildGeneral
  rw [show Text.lowerAscii m.message = _ from h.message]
  split
  · next range _ => exact .some (withConfidence_alike (setRange_alike h range) embedded)
  · exact .some (command_alike h _ _)

/-- **A rule builds commands that are alike of matches that are alike**, or of neither a command. -/
theorem Rule.build_alike {r : Rule} (hr : r ∈ rules) :
    Option.Rel Command.Alike (r.build m) (r.build n) := by
  simp only [rules, List.mem_cons, List.not_mem_nil, or_false] at hr
  rcases hr with rfl | rfl | rfl | rfl | rfl | rfl | rfl | rfl | rfl | rfl | rfl | rfl | rfl | rfl
  · exact buildAgeRange_alike h
  · exact buildSingleAge_alike h
  · exact buildRelative_alike h _
  · exact buildRelative_alike h _
  · exact buildTrait_alike h
  · exact buildEdit_alike h _ _
  · exact buildEdit_alike h _ _
  · exact buildEdit_alike h _ _
  · exact buildEdit_alike h _ _
  · exact buildEdit_alike h _ _
  · exact buildEdit_alike h _ _
  · exact buildEdit_alike h _ _
  · exact buildEdit_alike h _ _
  · exact buildGeneral_alike h

end Builders

/-! ### Verdicts -/

theorem Rule.verdict_alike {r : Rule} (hr : r ∈ rules) (window : UInt32) (searched : List Char)
    {message message' : List Char} (h : Text.Alike message message') :
    Option.Rel Verdict.Alike (r.verdict window searched message) (r.verdict window searched message') := by
  unfold Rule.verdict Rule.ask
  cases r.pattern.find searched with
  | none => exact .none
  | some trace =>
    have hmatch : Match.Alike ⟨searched, trace, message, r.confidence, window⟩
        ⟨searched, trace, message', r.confidence, window⟩ := ⟨rfl, rfl, h, rfl, rfl⟩
    exact .some ⟨rfl, Rule.build_alike hmatch hr⟩

theorem classify_alike (window : UInt32) {m n : String}
    (h : Text.Alike (Text.trim m.toList) (Text.trim n.toList)) :
    Option.Rel Verdict.Alike (classify window m) (classify window n) := by
  have hempty : Text.trim m.toList = [] ↔ Text.trim n.toList = [] := by
    have hlength := congrArg List.length h
    simp only [Text.lowerAscii, List.length_map] at hlength
    rw [← List.length_eq_zero_iff, ← List.length_eq_zero_iff, hlength]
  have hsearched : searchedText m = searchedText n := h
  rw [classify, classify, classifyBy_eq, classifyBy_eq, hsearched, if_congr hempty rfl rfl]
  split
  · exact .none
  · cases hfind : rules.find? (·.applies (searchedText n)) with
    | none => exact .none
    | some r => exact Rule.verdict_alike (List.mem_of_find?_eq_some hfind) _ _ h

theorem classify_padded (window : UInt32) {before after : String}
    (hbefore : Text.isAllBlank before.toList = true) (hafter : Text.isAllBlank after.toList = true)
    (m : String) : classify window (before ++ m ++ after) = classify window m := by
  have htrim : Text.trim (before ++ m ++ after).toList = Text.trim m.toList := by
    rw [String.toList_append, String.toList_append, Text.trim_padded hbefore hafter]
  simp only [classify, classifyBy, htrim]

/-- **Neither case nor surrounding white space changes the verdict.**  Messages that are alike are
decided by one rule, or by none, and it makes commands that are alike of both or a command of neither;
white space around a message changes nothing at all. -/
theorem verdict_unaffected (window : UInt32) :
    (∀ m n : String, Text.Alike (Text.trim m.toList) (Text.trim n.toList) →
        Option.Rel Verdict.Alike (classify window m) (classify window n)) ∧
      ∀ before after m : String, Text.isAllBlank before.toList = true →
        Text.isAllBlank after.toList = true →
          classify window (before ++ m ++ after) = classify window m :=
  ⟨fun _ _ h => classify_alike window h,
    fun _ _ m hbefore hafter => classify_padded window hbefore hafter m⟩

/-- A message in other letters, with a letter of two bytes before the operand and a text operand, and one
between white space of several kinds. -/
theorem verdict_unaffected_shouted :
    let quiet := "  set ROLE: \"Ärztin, Köln\"!"
    let loud := "SET role: \"ÄRZTIN, KöLN\"!\u2003"
    Text.Alike (Text.trim quiet.toList) (Text.trim loud.toList) ∧
      (classify 5 quiet).bind Verdict.command ≠ none ∧
      Option.Rel Verdict.Alike (classify 5 quiet) (classify 5 loud) ∧
      Text.isAllBlank "\u00a0\n".toList = true ∧ Text.isAllBlank "\u2028 \t".toList = true ∧
      classify 5 ("\u00a0\n" ++ loud ++ "\u2028 \t") = classify 5 loud := by
  intro quiet loud
  have halike : Text.Alike (Text.trim quiet.toList) (Text.trim loud.toList) := by
    unfold Text.Alike
    decide +kernel
  have hbefore : Text.isAllBlank "\u00a0\n".toList = true := by decide
  have hafter : Text.isAllBlank "\u2028 \t".toList = true := by decide
  exact ⟨halike, by decide +kernel, (verdict_unaffected 5).1 quiet loud halike, hbefore, hafter,
    (verdict_unaffected 5).2 _ _ loud hbefore hafter⟩

end Intent

end PersonaDialogue
