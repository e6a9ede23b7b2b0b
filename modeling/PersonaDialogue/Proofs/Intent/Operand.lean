import PersonaDialogue.Proofs.Intent.Phrase
import PersonaDialogue.Proofs.Intent.Verdict
import PersonaDialogue.Proofs.Pattern.Marks

/-!
# Operands in the user's own words

A rule is matched against the message in lower case, and what its groups mark is then looked up in the
message as it was written, by the offsets in bytes.  Those offsets always fall between two characters of
the message, and what lies between them is the text of the group in the letters that the user chose
(`Match.marksBlock`).  An edit always marks its operand, which is the rest of the one line that the message
consists of; it gives no command only if cleaning leaves nothing of that operand, and otherwise the text
of its command is a part of the message (`operands_from_message`).
-/

namespace PersonaDialogue

namespace Text

variable {drop : Char → Bool} {s : List Char}

theorem trimEndWhile_isPrefix (drop : Char → Bool) (s : List Char) : trimEndWhile drop s <+: s := by
  have hsuffix : s.reverse.dropWhile drop <:+ s.reverse := List.dropWhile_suffix drop
  rw [← List.reverse_reverse s, trimEndWhile, List.reverse_prefix, List.reverse_reverse]
  exact hsuffix

theorem trim_isInfix (s : List Char) : trim s <:+: s :=
  (trimEndWhile_isPrefix isBlank _).isInfix.trans (List.dropWhile_suffix isBlank).isInfix

theorem newline_not_mem_of_lowerAscii (h : '\n' ∉ lowerAscii s) : '\n' ∉ s :=
  fun hmem => h (List.mem_map.2 ⟨'\n', hmem, rfl⟩)

end Text

namespace Intent

open Pattern

/-- Cleaning begins with trimming, and takes away only what surrounds the text that is left. -/
theorem cleaned_isInfix_trim (s : List Char) : cleaned s <:+: Text.trim s := by
  have hquotes : ∀ t, stripQuotes t <:+: t := fun t =>
    (Text.trimEndWhile_isPrefix isQuote _).isInfix.trans (List.dropWhile_suffix isQuote).isInfix
  have hmarks : Text.trimEndWhile isSentenceMark (Text.trim s) <:+: Text.trim s :=
    (Text.trimEndWhile_isPrefix isSentenceMark _).isInfix
  exact (Text.trim_isInfix _).trans ((hquotes _).trans ((Text.trim_isInfix _).trans hmarks))

theorem cleaned_isInfix (s : List Char) : cleaned s <:+: s :=
  (cleaned_isInfix_trim s).trans (Text.trim_isInfix s)

/-! ### Groups -/

/-- A group has neither a span nor a text, or the message may be cut at its span, between characters, and
the cut in lower case is the text of the group. -/
def Match.MarksBlock (m : Match) (index : Nat) : Prop :=
  Option.Rel (fun span text => ∃ block, Text.IsCut m.message span.1 span.2 block ∧
      Text.cut m.message span.1 span.2 = some block ∧ Text.lowerAscii block = text)
    (m.trace.span? index m.searched) (m.trace.text? index)

/-- **Whatever a group of a match marks can be cut from the message.** -/
theorem Match.marksBlock {m : Match} {r : Rule} {window : UInt32} {message : String}
    (hm : m.IsOf r window message) (index : Nat) : m.MarksBlock index := by
  unfold MarksBlock
  rcases exists_block_of_find hm.trace_eq index with ⟨htext, hspan⟩ | ⟨block, start, stop, htext, hspan, hcut⟩
  · rw [htext, hspan]
    exact .none
  · rw [hm.searched_eq] at hcut
    obtain ⟨written, hwritten, rfl⟩ := hcut.of_lowerAscii
    rw [htext, hspan]
    exact .some ⟨written, hwritten, hwritten.cut_eq, rfl⟩

/-- The operand of a group is what is left of its block after cleaning. -/
theorem Match.operand?_eq {m : Match} {index start stop : Nat} {block : List Char}
    (hspan : m.trace.span? index m.searched = some (start, stop))
    (hcut : Text.IsCut m.message start stop block) :
    m.operand? index = if cleaned block = [] then none else some (String.ofList (cleaned block)) := by
  simp only [operand?, hspan, Option.bind_eq_bind, Option.bind_some, hcut.cut_eq, List.isEmpty_iff,
    Option.pure_def]

/-- The operand of a group that goes on to the end of the message. -/
theorem Match.operand?_of_suffix {m : Match} {index : Nat} {written : List Char}
    (hsuffix : written <:+ m.message) (hsearched : m.searched = Text.lowerAscii m.message)
    (hentered : m.trace.entered? index = some (Text.lowerAscii written))
    (hleft : m.trace.left? index = some []) :
    m.operand? index = if cleaned written = [] then none else some (String.ofList (cleaned written)) := by
  obtain ⟨before, hmessage⟩ := hsuffix
  have hsize : Text.byteSize m.searched = Text.byteSize before + Text.byteSize written := by
    rw [hsearched, Text.byteSize_lowerAscii, ← hmessage, Text.byteSize_append]
  have hcut : Text.IsCut m.message (Text.byteSize before)
      (Text.byteSize before + Text.byteSize written) written :=
    ⟨before, [], by rw [← hmessage, List.append_nil], rfl, rfl⟩
  have hspan : m.trace.span? index m.searched =
      some (Text.byteSize before, Text.byteSize before + Text.byteSize written) := by
    have hstart : Text.byteSize m.searched - Text.byteSize (Text.lowerAscii written) =
        Text.byteSize before := by
      rw [hsize, Text.byteSize_lowerAscii, Nat.add_sub_cancel]
    rw [Trace.span?, hentered, hleft]
    exact congrArg some (Prod.ext hstart hsize)
  exact m.operand?_eq hspan hcut

/-! ### The groups of an edit -/

namespace Edit

def operandGroup : Edit → Nat
  | trait => 3
  | _ => 1

/-- The operand is what an edit reads last. -/
theorem pattern_eq (e : Edit) : ∃ front : Pattern,
    e.rule.pattern = front ++ remainder e.operandGroup ∧ e.operandGroup ∉ front.groups := by
  cases e with
  | trait => exact ⟨_, rfl, by decide⟩
  | add shelf => cases shelf <;> exact ⟨_, rfl, by decide⟩
  | remove shelf => cases shelf <;> exact ⟨_, rfl, by decide⟩

variable {before : Option Char} {u after s : List Char} {t : Trace}

/-- The remainder of a text is all of it, which is one line with something in it. -/
theorem reads_remainder_iff {index : Nat} : (remainder index).Reads before u after t ↔
    (u ≠ [] ∧ '\n' ∉ u) ∧ after = [] ∧ t = [.enter index u, .leave index []] := by
  have hline : (∀ c ∈ u, CharClass.notNewline.accepts c = true) ↔ '\n' ∉ u := by
    refine ⟨fun h hmem => absurd (h '\n' hmem) (by decide), fun h c hc => ?_⟩
    have hne : c ≠ '\n' := fun heq => h (heq ▸ hc)
    simpa [CharClass.accepts] using hne
  constructor
  · intro h
    obtain ⟨v, w, t₁, t₂, rfl, rfl, hgroup, hstop⟩ := reads_append_iff.1 h
    cases hstop
    obtain ⟨t', hrest, rfl⟩ := reads_group_iff.1 hgroup
    obtain ⟨⟨hne, hv⟩, rfl⟩ := reads_atLeastOne_iff.1 hrest
    simp only [List.append_nil] at hline ⊢
    exact ⟨⟨hne, hline.1 hv⟩, trivial, rfl⟩
  · rintro ⟨⟨hne, hu⟩, rfl, rfl⟩
    have hgroup : (group index (atLeastOne .notNewline)).Reads before u [] _ :=
      .group (reads_atLeastOne_iff.2 ⟨⟨hne, hline.2 hu⟩, rfl⟩)
    rw [List.append_nil] at hgroup
    exact reads_append_iff.2 ⟨u, [], _, [], by simp, rfl, hgroup, .stop⟩

/-- An edit reads the text as a whole. -/
theorem reads_of_find {e : Edit} (h : e.rule.pattern.find s = some t) :
    e.rule.pattern.Reads none s [] t := by
  obtain ⟨u, v, w, rfl, hread⟩ := Pattern.reads_of_find h
  obtain rfl := List.getLast?_eq_none_iff.1 (opens_of_reads hread).1
  obtain ⟨front, hpattern, -⟩ := e.pattern_eq
  have hparts := hread
  rw [hpattern] at hparts
  obtain ⟨_, _, _, _, -, -, -, hrest⟩ := reads_append_iff.1 hparts
  obtain ⟨-, rfl, -⟩ := reads_remainder_iff.1 hrest
  rwa [List.append_nil, List.nil_append]

/-- An edit that matches marks an operand, which has no line break. -/
theorem text?_of_find {e : Edit} (h : e.rule.pattern.find s = some t) :
    ∃ text, t.text? e.operandGroup = some text ∧ '\n' ∉ text := by
  have hread := reads_of_find h
  obtain ⟨front, hpattern, hgroups⟩ := e.pattern_eq
  rw [hpattern] at hread
  obtain ⟨_, text, t₁, t₂, -, rfl, hfront, hrest⟩ := reads_append_iff.1 hread
  obtain ⟨⟨-, hline⟩, -, rfl⟩ := reads_remainder_iff.1 hrest
  refine ⟨text, ?_, hline⟩
  rw [Trace.text?_append_right (unmarked_of_reads hfront hgroups)]
  simp [Trace.text?, Trace.entered?, Trace.left?]

def traitWords : List String := ["name", "role", "goal", "occupation", "job"]

theorem ofWord?_isSome : ∀ word ∈ traitWords, (Trait.ofWord? word).isSome = true := by decide

/-- The second group of the rule about traits marks a word for a trait. -/
theorem trait_text?_of_find (h : personaTrait.find s = some t) :
    ∃ word ∈ traitWords, t.text? 2 = some word.toList := by
  have hread := reads_of_find (e := trait) h
  obtain ⟨_, _, t₁, t₂, -, rfl, hread, -⟩ := reads_append_iff.1 hread
  obtain ⟨_, _, t₃, t₄, -, rfl, hread, -⟩ := reads_append_iff.1 hread
  obtain ⟨_, word, t₅, t₆, -, rfl, hfront, hgroup⟩ := reads_append_iff.1 hread
  obtain ⟨t', hword, -⟩ := reads_group_iff.1 hgroup
  obtain ⟨⟨word, hmem, rfl⟩, -⟩ := (reads_anyWord_iff (by decide)).1 hword
  refine ⟨word, hmem, Trace.text?_append_left (Trace.text?_append_left ?_ _) _⟩
  rw [Trace.text?_append_right (unmarked_of_reads hfront (by decide))]
  exact text?_of_reads_group (by decide) hgroup

theorem exists_trait {m : Match} {window : UInt32} {message : String}
    (hm : m.IsOf trait.rule window message) :
    ∃ word t, m.word? 2 = some word ∧ Trait.ofWord? word = some t := by
  obtain ⟨word, hmem, htext⟩ := trait_text?_of_find hm.trace_eq
  obtain ⟨t, ht⟩ := Option.isSome_iff_exists.1 (ofWord?_isSome word hmem)
  exact ⟨word, t, by rw [Match.word?, htext, Option.map_some, String.ofList_toList], ht⟩

/-! ### The command of an edit -/

/-- An edit makes a command of its operand, and none if there is no operand. -/
theorem build_operand {e : Edit} {m : Match} {window : UInt32} {message : String}
    (hm : m.IsOf e.rule window message) :
    (e.rule.build m).map Command.operand = (m.operand? e.operandGroup).map fun text => some (.text text) := by
  have hedit : ∀ action shelf, (buildEdit action shelf m).map Command.operand =
      (m.operand? 1).map fun text => some (.text text) := by
    intro action shelf
    cases h : m.operand? 1 <;> simp [buildEdit, h, Command.withText, Command.withOperand]
  cases e with
  | trait =>
    obtain ⟨word, t, hword, ht⟩ := exists_trait hm
    change (buildTrait m).map Command.operand = (m.operand? 3).map _
    cases h : m.operand? 3 <;>
      simp [buildTrait, hword, ht, h, Command.withText, Command.withOperand, Command.withConfidence]
  | add shelf => cases shelf <;> exact hedit .add _
  | remove shelf => cases shelf <;> exact hedit .remove _

/-- An edit takes its operand from the message as it was written. -/
structure TakesOperand (e : Edit) (m : Match) : Prop where
  /-- The word for the trait is always one. -/
  named : e = trait → ∃ word t, m.word? 2 = some word ∧ Trait.ofWord? word = some t
  /-- There is no command exactly if nothing is left of the operand, and else its text is what is left. -/
  operand : ∃ start stop block, m.trace.span? e.operandGroup m.searched = some (start, stop) ∧
    Text.IsCut m.message start stop block ∧ (e.rule.build m = none ↔ cleaned block = []) ∧
    ∀ c, e.rule.build m = some c → c.operand = some (.text (String.ofList (cleaned block)))
  /-- The text is a part of the message, and has no line break. -/
  text : ∀ c, e.rule.build m = some c → ∃ text, c.operand = some (.text text) ∧ text ≠ "" ∧
    text.toList <:+: m.message ∧ '\n' ∉ text.toList

theorem takesOperand {e : Edit} {m : Match} {window : UInt32} {message : String}
    (hm : m.IsOf e.rule window message) : e.TakesOperand m := by
  obtain ⟨text, htext, hline⟩ := text?_of_find hm.trace_eq
  have hmarks := m.marksBlock hm e.operandGroup
  unfold Match.MarksBlock at hmarks
  rw [htext] at hmarks
  cases hspan : m.trace.span? e.operandGroup m.searched with
  | none => rw [hspan] at hmarks; cases hmarks
  | some span =>
    rw [hspan] at hmarks
    cases hmarks with
    | some hblock =>
      obtain ⟨block, hcut, -, rfl⟩ := hblock
      have hnamed : e = trait → ∃ word t, m.word? 2 = some word ∧ Trait.ofWord? word = some t := by
        rintro rfl
        exact exists_trait hm
      have hbuild := build_operand hm
      rw [Match.operand?_eq hspan hcut] at hbuild
      by_cases hnil : cleaned block = []
      · rw [if_pos hnil] at hbuild
        have hnone : e.rule.build m = none := Option.map_eq_none_iff.1 hbuild
        exact ⟨hnamed, ⟨_, _, block, hspan, hcut, iff_of_true hnone hnil, by simp [hnone]⟩, by simp [hnone]⟩
      · rw [if_neg hnil] at hbuild
        obtain ⟨d, hd, htext⟩ := Option.map_eq_some_iff.1 hbuild
        have hc : ∀ c, e.rule.build m = some c → c.operand = some (.text (String.ofList (cleaned block))) := by
          intro c hc
          rwa [← Option.some.inj (hd.symm.trans hc)]
        refine ⟨hnamed, ⟨_, _, block, hspan, hcut, iff_of_false (by simp [hd]) hnil, hc⟩, fun c h => ?_⟩
        refine ⟨_, hc c h, fun hempty => hnil ?_, ?_⟩
        · rw [← String.toList_ofList (l := cleaned block), hempty]
          rfl
        · rw [String.toList_ofList]
          exact ⟨(cleaned_isInfix block).trans hcut.isInfix, fun hmem =>
            Text.newline_not_mem_of_lowerAscii hline ((cleaned_isInfix block).subset hmem)⟩

end Edit

/-- **Operands are the user's own words.**  Whatever rule matches a message, all that its groups mark can
be cut from the message; and if it is an edit, it makes no command exactly when cleaning leaves nothing of
the operand that it cuts out, and else a command with a text that is part of the message. -/
theorem operands_from_message (window : UInt32) (message : String) (m : Match) :
    (∀ r ∈ rules, m.IsOf r window message → ∀ index, m.MarksBlock index) ∧
      ∀ e : Edit, m.IsOf e.rule window message → e.TakesOperand m :=
  ⟨fun _ _ hm index => m.marksBlock hm index, fun _ hm => Edit.takesOperand hm⟩

/-- Letters of two bytes, one of them with a lower case of another size, in a quoted operand. -/
theorem operands_from_message_accented :
    let message := "\u2003Please RENAME the Secondary persona's JOB into \"Ärztin, İstanbul\"!"
    ∃ m : Match, Edit.trait.rule ∈ rules ∧ m.IsOf Edit.trait.rule 5 message ∧
      (∀ index, m.MarksBlock index) ∧ Edit.trait.TakesOperand m := by
  intro message
  have happlies : (personaTrait.find (searchedText message)).isSome = true := by decide +kernel
  obtain ⟨t, ht⟩ := Option.isSome_iff_exists.1 happlies
  have hm : Match.IsOf ⟨searchedText message, t, Text.trim message.toList, singleValue, 5⟩
      Edit.trait.rule 5 message := ⟨rfl, rfl, ht, rfl, rfl⟩
  have hrule : Edit.trait.rule ∈ rules := by simp [rules, Edit.rule]
  obtain ⟨hmarks, htakes⟩ := operands_from_message 5 message _
  exact ⟨_, hrule, hm, hmarks _ hrule hm, htakes _ hm⟩

end Intent

end PersonaDialogue
