import PersonaDialogue.Proofs.Command.Effect
import PersonaDialogue.Proofs.Intent.Named
import PersonaDialogue.Proofs.Intent.Operand

/-!
# Operands that are taken as they are

An operand of one line that cleaning leaves as it is survives the way through the classifier.  In plain
words such as `add pain point ...` and `set primary persona name to ...` there is one way only to read what
stands before the operand, so the group of the operand marks all of it (`find_add`, `find_trait`), and
what is cut from the message at that place is the operand itself.  Unless a rule about ages takes the
message away, its verdict is the plain request with that text (`classify_add`, `classify_trait`).
-/

namespace PersonaDialogue

namespace Text

variable {s : List Char}

theorem trimStart_of_trim (h : trim s = s) : trimStart s = s := by
  have hsuffix : trimStart s <:+ s := List.dropWhile_suffix isBlank
  refine hsuffix.eq_of_length (Nat.le_antisymm hsuffix.length_le ?_)
  calc s.length
    _ = (trim s).length := by rw [h]
    _ ≤ (trimStart s).length := (trimEndWhile_isPrefix isBlank _).length_le

theorem trimEnd_of_trim (h : trim s = s) : trimEndWhile isBlank s = s := by
  have hstart := trimStart_of_trim h
  rwa [trim, hstart] at h

theorem flush_of_trim (h : trim s = s) : Flush s := by
  have hstart := trimStart_of_trim h
  intro c hc
  obtain ⟨rest, rfl⟩ := List.head?_eq_some_iff.1 hc
  rw [trimStart, List.dropWhile_cons] at hstart
  by_cases hblank : isBlank c = true
  · rw [if_pos hblank] at hstart
    have hlength := congrArg List.length hstart
    have hle := (List.dropWhile_suffix (l := rest) isBlank).length_le
    simp only [List.length_cons] at hlength
    omega
  · simpa using hblank

theorem trimStart_of_flush (h : Flush s) : trimStart s = s := by
  cases s with
  | nil => rfl
  | cons c s => exact List.dropWhile_cons_of_neg (by simp [h c rfl])

theorem BeginsIn.flush {cs : List Char} (h : BeginsIn cs s) : Flush s := by
  obtain ⟨d, -, hd, hblank⟩ := h
  intro c hc
  rw [hd] at hc
  obtain rfl := Option.some.inj hc
  exact hblank

theorem flush_lowerAscii (h : Flush s) : Flush (lowerAscii s) := by
  intro c hc
  rw [lowerAscii, List.head?_map] at hc
  obtain ⟨d, hd, rfl⟩ := Option.map_eq_some_iff.1 hc
  rw [isBlank_toLower]
  exact h d hd

end Text

namespace Intent

open Pattern
open Place (past)

/-! ### Clean operands -/

/-- One line, with something in it, that cleaning leaves as it is. -/
structure IsClean (text : String) : Prop where
  ne_nil : text.toList ≠ []
  oneLine : '\n' ∉ text.toList
  cleaned_eq : cleaned text.toList = text.toList

section Clean

variable {text front : String} (h : IsClean text)
include h

theorem IsClean.trim_eq : Text.trim text.toList = text.toList := by
  have hinfix := cleaned_isInfix_trim text.toList
  have htrim := Text.trim_isInfix text.toList
  rw [h.cleaned_eq] at hinfix
  exact htrim.eq_of_length (Nat.le_antisymm htrim.length_le hinfix.length_le)

theorem IsClean.trimEnd_eq : Text.trimEndWhile Text.isBlank text.toList = text.toList :=
  Text.trimEnd_of_trim h.trim_eq

theorem IsClean.flush : Text.Flush text.toList := Text.flush_of_trim h.trim_eq

/-- A message that ends with a clean operand is not trimmed. -/
theorem IsClean.trim_append {cs : List Char} (hfront : Text.BeginsIn cs front.toList) :
    Text.trim (front ++ text).toList = front.toList ++ text.toList := by
  have hend := h.trimEnd_eq
  rw [String.toList_append, Text.trim_append hfront (by rw [hend]; exact h.ne_nil), hend]

theorem IsClean.searchedText_append {cs : List Char} (hfront : Text.BeginsIn cs front.toList)
    (hlower : Text.lowerAscii front.toList = front.toList) :
    searchedText (front ++ text) = front.toList ++ Text.lowerAscii text.toList := by
  rw [searchedText, h.trim_append hfront, Text.lowerAscii_append, hlower]

theorem IsClean.lowered : Text.lowerAscii text.toList ≠ [] ∧ '\n' ∉ Text.lowerAscii text.toList ∧
    Text.Flush (Text.lowerAscii text.toList) :=
  ⟨fun hnil => h.ne_nil (List.map_eq_nil_iff.1 hnil), Text.newline_not_mem_lowerAscii h.oneLine,
    Text.flush_lowerAscii h.flush⟩

/-- An operand that stands at the end of the message and is clean is taken as it is. -/
theorem IsClean.operand?_eq {m : Match} {index : Nat} {before : List Char}
    (hmessage : m.message = before ++ text.toList) (hsearched : m.searched = Text.lowerAscii m.message)
    (hentered : m.trace.entered? index = some (Text.lowerAscii text.toList))
    (hleft : m.trace.left? index = some []) : m.operand? index = some text := by
  rw [Match.operand?_of_suffix ⟨before, hmessage.symm⟩ hsearched hentered hleft, h.cleaned_eq,
    if_neg h.ne_nil, String.ofList_toList]

end Clean

/-! ### The only way to read plain words -/

section Reading

variable {q : Pattern} {before : Option Char} {rest s after : List Char} {t : Trace}

/-- Between the name of a collection and the operand there is only the space. -/
theorem separator_passes (hflush : Text.Flush s) (hcolon : s.head? ≠ some ':') :
    separator.Passes before " ".toList s := by
  refine .either_right ?_ (passes_gap hflush)
  intro u v t hs hread
  simp only [reads_assoc_iff] at hread
  obtain ⟨b, _, _, _, rfl, -, hspace, hword⟩ := reads_append_iff.1 hread
  obtain ⟨w, rfl, -⟩ := reads_word_append_iff.1 hword
  obtain ⟨hb, -⟩ := reads_many_iff.1 hspace
  have hstart : s = ':' :: (w ++ v) := by
    calc s
      _ = Text.trimStart (" ".toList ++ s) := (Text.trimStart_of_flush hflush).symm
      _ = Text.trimStart (b ++ (":".toList ++ (w ++ v))) := by rw [hs]; simp
      _ = ':' :: (w ++ v) := Text.trimStart_blank_append hb _
  exact hcolon (by rw [hstart]; rfl)

/-- The remainder of a line is found to be all of it. -/
theorem remainder_goOn {index : Nat} (hne : s ≠ []) (hline : '\n' ∉ s) :
    (remainder index).goOn (fun _ => some []) ⟨before, s⟩ = some [.enter index s, .leave index []] := by
  obtain ⟨_, hreads⟩ := remainder_reads before hne hline index
  have hsome := goOn_isSome (k := fun _ => some []) hreads rfl
  obtain ⟨t, ht⟩ := Option.isSome_iff_exists.1 hsome
  rw [List.append_nil] at ht
  obtain ⟨u, v, t₁, t₂, rfl, hread, hdone, rfl⟩ := goOn_reads ht
  obtain ⟨-, rfl, rfl⟩ := Edit.reads_remainder_iff.1 hread
  obtain rfl : [] = t₂ := Option.some.inj hdone
  rw [ht, List.append_nil, List.append_nil]

/-- What stands between the word for a trait and the operand. -/
def assignment : Pattern :=
  oneOf [gap ++ anyWord ["to", "as", "into"] ++ gap, space ++ char (.among [':', '=']) ++ space]

theorem reads_of_assignment (hflush : Text.Flush s)
    (h : (assignment ++ q).Reads before (" ".toList ++ ("to".toList ++ (" ".toList ++ s))) after t) :
    ∃ before', q.Reads before' s after t := by
  have hto : Text.Flush ("to".toList ++ (" ".toList ++ s)) := by
    rintro c ⟨⟩
    rfl
  rcases reads_either_append_iff.1 h with hword | hmark
  · simp only [reads_assoc_iff] at hword
    have hgap := reads_of_anyWord (by decide) (by decide) (reads_of_gap hto hword)
    exact ⟨_, reads_of_gap hflush hgap⟩
  · simp only [oneOf, reads_assoc_iff] at hmark
    rcases reads_of_space hto hmark with hspace | ht
    · exact absurd hspace (not_reads_char (by decide))
    · exact absurd ht (not_reads_char (by decide))

theorem trait_marks {rank : Rank} {word : String} (hword : word ∈ Edit.traitWords)
    (hflush : Text.Flush rest)
    (h : Edit.trait.rule.pattern.Reads none ("set".toList ++ (" ".toList ++ (rank.label.toList ++
      (" ".toList ++ ("persona".toList ++ (" ".toList ++ (word.toList ++
        (" ".toList ++ ("to".toList ++ (" ".toList ++ rest)))))))))) [] t) :
    t.text? 1 = some rank.label.toList ∧ t.text? 2 = some word.toList ∧
      t.entered? 3 = some rest ∧ t.left? 3 = some [] := by
  have hranks : Text.BeginsIn ['p', 's'] rank.label.toList := by cases rank <;> decide
  have hwords : ∀ w ∈ Edit.traitWords, Text.BeginsIn ['n', 'r', 'g', 'o', 'j'] w.toList := by decide
  have hapart : ∀ w ∈ Edit.traitWords, Apart Edit.traitWords w := by decide
  obtain ⟨-, h⟩ := (Edit.reads_rule_iff _).1 h
  have hverb := reads_of_absent (startsWith_word "please").append
    (Text.not_prefix_append (by decide) (by decide) _) h
  have hgap := reads_of_anyWord (w := "set") (by decide) (by decide) hverb
  have hobject := reads_of_gap (hranks.append _).flush hgap
  simp only [Edit.object] at hobject
  have hrank := reads_of_absent (startsWith_word "the").append
    (Text.not_prefix_append (by cases rank <;> decide) (by cases rank <;> decide) _) hobject
  rcases reads_optional_append_iff.1 hrank with hranked | hunranked
  · simp only [reads_assoc_iff] at hranked
    obtain ⟨t₁, hafter, rfl⟩ := reads_of_groupWord (by decide) (by cases rank <;> decide) hranked
    have hpersona := reads_of_gap (by rintro c ⟨⟩; rfl) hafter
    rcases reads_optional_append_iff.1 hpersona with hnamed | hunnamed
    · simp only [reads_assoc_iff] at hnamed
      have hplain := reads_of_absent (startsWith_word "'s")
        (Text.not_prefix_append (by decide) (by decide) _) (reads_of_word hnamed)
      have htrait := reads_of_gap ((hwords word hword).append _).flush hplain
      obtain ⟨t₂, hto, rfl⟩ := reads_of_groupWord (by decide) (hapart word hword) htrait
      obtain ⟨_, hrest⟩ := reads_of_assignment hflush hto
      obtain ⟨-, -, rfl⟩ := Edit.reads_remainder_iff.1 hrest
      refine ⟨?_, ?_, rfl, rfl⟩
      · simp [Trace.text?, Trace.entered?, Trace.left?]
      · simp [Trace.text?, Trace.entered?, Trace.left?]
    · exact absurd hunnamed (not_reads_groupWord (by decide) (by decide) (by decide))
  · have htrait := reads_of_absent (startsWith_word "persona").append.append
      (Text.not_prefix_append (by cases rank <;> decide) (by cases rank <;> decide) _) hunranked
    exact absurd htrait (not_reads_groupWord (by decide) (by cases rank <;> decide)
      (by cases rank <;> decide))

theorem trait_object_reads (before : Option Char) (rank : Rank) {word : String}
    (hword : word ∈ Edit.traitWords) (hne : rest ≠ []) (hline : '\n' ∉ rest) :
    ∃ t, Edit.trait.object.Reads before (rank.label.toList ++ (" ".toList ++ ("persona".toList ++
      (" ".toList ++ (word.toList ++ (" ".toList ++ ("to".toList ++ (" ".toList ++ rest)))))))) [] t := by
  obtain ⟨t, hrest⟩ := remainder_reads (some ' ') hne hline 3
  have hspoken : ∀ {w : String} {words : List String} {before' : Option Char} {after' : List Char},
      w ∈ words → (anyWord words).Reads before' w.toList after' [] := fun hw =>
    (reads_anyWord_iff (List.ne_nil_of_mem hw)).2 ⟨⟨_, hw, rfl⟩, rfl⟩
  have hrank : rank.label ∈ ["primary", "secondary"] := by cases rank <;> decide
  have hto : ∀ before' after', assignment.Reads before' (" ".toList ++ "to".toList ++ " ".toList) after' [] :=
    fun _ _ => .first (.seq (.seq blank_reads (hspoken (w := "to") (by decide))) blank_reads)
  have hread : Edit.trait.object.Reads before ([] ++ (rank.label.toList ++ " ".toList ++
      ("persona".toList ++ [] ++ " ".toList ++ (word.toList ++
        (" ".toList ++ "to".toList ++ " ".toList ++ rest))))) [] _ :=
    .seq (optional_reads_nil _) (.seq (.first (.seq (.group (hspoken hrank)) blank_reads))
      (.seq (.first (.seq (.seq (word_reads "persona") (optional_reads_nil _)) blank_reads))
        (.seq (.group (hspoken hword)) (.seq (hto _ _) hrest))))
  simp only [List.append_assoc, List.nil_append] at hread
  exact ⟨_, hread⟩

end Reading

/-! ### The verdict -/

def traitPhrase (rank : Rank) (word text : String) : String :=
  "set " ++ rank.label ++ " persona " ++ word ++ " to " ++ text

theorem mem_traitWords {word : String} {trait : Trait} (h : Trait.ofWord? word = some trait) :
    word ∈ Edit.traitWords := by
  obtain ⟨before, after, htable, -⟩ := List.lookup_eq_some_iff.1 h
  have hmem : (word, trait) ∈ Trait.table ++ [("job", .occupation)] := by
    rw [htable]
    simp
  exact (by decide : ∀ entry ∈ Trait.table ++ [("job", Trait.occupation)], entry.1 ∈ Edit.traitWords) _ hmem

theorem addFront_begins (shelf : Shelf) :
    Text.BeginsIn ['a'] ("add" ++ " " ++ spoken shelf ++ " ").toList := by
  cases shelf <;> decide

theorem traitFront_begins (rank : Rank) (word : String) :
    Text.BeginsIn ['s'] ("set " ++ rank.label ++ " persona " ++ word ++ " to ").toList := by
  have hset : Text.BeginsIn ['s'] "set ".toList := by decide
  simp only [String.toList_append, List.append_assoc]
  exact hset.append _

theorem buildEdit_add_eq {m : Match} {shelf : Shelf} {text : String} (h : m.operand? 1 = some text) :
    buildEdit .add shelf m =
      some ((Effect.add shelf text).request m.confidence.clamped (String.ofList m.message)) := by
  simp [buildEdit, h, Effect.request, Match.command, Command.of, Command.withText, Command.withOperand,
    Command.withConfidence]

theorem buildTrait_eq {m : Match} {rank : Rank} {word text : String} {trait : Trait}
    (hrank : m.word? 1 = some rank.label) (hword : m.word? 2 = some word)
    (htrait : Trait.ofWord? word = some trait) (htext : m.operand? 3 = some text) :
    buildTrait m =
      some ((Effect.rewrite rank (some trait) text).request explicit (String.ofList m.message)) := by
  have hchosen : (if some rank.label = some "secondary" then Rank.secondary else .primary) = rank := by
    cases rank <;> decide
  have hclamped : explicit.clamped = explicit := clamped_of_mem _ (by simp [confidences])
  simp only [buildTrait, hrank, hchosen, hword, htrait, htext, Option.bind_eq_bind, Option.bind_some,
    Option.isSome_some, if_true, Effect.request, Match.command, Command.of, Command.withTrait,
    Command.withText, Command.withOperand, Command.withConfidence, hclamped]
  rfl

/-- No rule about ages applies to the message. -/
def Ageless (message : String) : Prop := ∀ r ∈ ageRules, r.applies (searchedText message) = false

instance (message : String) : Decidable (Ageless message) :=
  inferInstanceAs (Decidable (∀ r ∈ ageRules, r.applies (searchedText message) = false))

/-- An edit decides with its match if no rule about ages does. -/
theorem classify_of_find {e : Edit} {message : String} {t : Trace} (hage : Ageless message)
    (h : e.rule.pattern.find (searchedText message) = some t) (window : UInt32) :
    ∃ m : Match, m.IsOf e.rule window message ∧ m.trace = t ∧
      classify window message = some ⟨e.rule.name, e.rule.build m⟩ := by
  have happlies : e.rule.applies (searchedText message) = true := by simp [Rule.applies, h]
  have hnone : ageRules.find? (·.applies (searchedText message)) = none :=
    List.find?_eq_none.2 fun r hr => by simp [hage r hr]
  refine ⟨⟨searchedText message, t, Text.trim message.toList, e.rule.confidence, window⟩,
    ⟨rfl, rfl, h, rfl, rfl⟩, rfl, ?_⟩
  rw [classify, classifyBy_eq, if_neg (trim_ne_nil_of_applies happlies), rules_eq,
    find?_of_applies happlies (.refl _), hnone]
  simp [Rule.verdict, Rule.ask, h]

section Verdict

variable {text : String} (h : IsClean text)
include h

/-- Of a message that ends with a clean operand, marked as such, just that operand is taken. -/
theorem classify_of_marks {e : Edit} {front : String} {cs : List Char} {t : Trace}
    (hfront : Text.BeginsIn cs front.toList) (hage : Ageless (front ++ text))
    (hfind : e.rule.pattern.find (searchedText (front ++ text)) = some t)
    (hentered : t.entered? e.operandGroup = some (Text.lowerAscii text.toList))
    (hleft : t.left? e.operandGroup = some []) (window : UInt32) :
    ∃ m : Match, m.trace = t ∧ m.operand? e.operandGroup = some text ∧
      String.ofList m.message = front ++ text ∧ m.confidence.clamped = e.rule.confidence ∧
      classify window (front ++ text) = some ⟨e.rule.name, e.rule.build m⟩ := by
  obtain ⟨m, hm, rfl, hverdict⟩ := classify_of_find hage hfind window
  have hmessage : m.message = front.toList ++ text.toList := by
    rw [hm.message_eq, h.trim_append hfront]
  refine ⟨m, rfl, h.operand?_eq hmessage hm.searched_eq hentered hleft, ?_, ?_, hverdict⟩
  · rw [hmessage, ← String.toList_append, String.ofList_toList]
  · rw [hm.confidence_eq, clamped_of_mem _ (rule_confidence _ e.rule_mem)]

theorem find_add (shelf : Shelf) (hcolon : text.toList.head? ≠ some ':') :
    ∃ t : Trace, (Edit.add shelf).rule.pattern.find (searchedText (phrase "add" shelf text)) = some t ∧
      t.entered? 1 = some (Text.lowerAscii text.toList) ∧ t.left? 1 = some [] := by
  obtain ⟨hne, hline, hflush⟩ := h.lowered
  have hsearched : searchedText (phrase "add" shelf text) = "add".toList ++ (" ".toList ++
      ((spoken shelf).toList ++ (" ".toList ++ Text.lowerAscii text.toList))) := by
    rw [phrase, h.searchedText_append (addFront_begins shelf) (by cases shelf <;> decide)]
    simp only [String.toList_append, List.append_assoc]
  have hhead : (Text.lowerAscii text.toList).head? ≠ some ':' := by
    intro hhead
    rw [Text.lowerAscii, List.head?_map] at hhead
    obtain ⟨c, hc, hlower⟩ := Option.map_eq_some_iff.1 hhead
    exact hcolon (Text.eq_of_toLower_eq (by decide) hlower ▸ hc)
  have hspace : ∀ before, separator.Passes before " ".toList (Text.lowerAscii text.toList) := fun _ =>
    separator_passes hflush hhead
  obtain ⟨before, hfind⟩ := find_addition shelf (" ".toList ++ Text.lowerAscii text.toList) (by rintro c ⟨⟩; rfl)
  refine ⟨[.enter 1 (Text.lowerAscii text.toList), .leave 1 []], ?_, rfl, rfl⟩
  rw [hsearched, hfind]
  exact (hspace before _).trans (remainder_goOn hne hline)

theorem find_trait (rank : Rank) {word : String} (hword : word ∈ Edit.traitWords) :
    ∃ t : Trace, Edit.trait.rule.pattern.find (searchedText (traitPhrase rank word text)) = some t ∧
      t.text? 1 = some rank.label.toList ∧ t.text? 2 = some word.toList ∧
      t.entered? 3 = some (Text.lowerAscii text.toList) ∧ t.left? 3 = some [] := by
  obtain ⟨hne, hline, hflush⟩ := h.lowered
  have hlower : Text.lowerAscii ("set " ++ rank.label ++ " persona " ++ word ++ " to ").toList =
      ("set " ++ rank.label ++ " persona " ++ word ++ " to ").toList := by
    have hwords : ∀ w ∈ Edit.traitWords, Text.lowerAscii w.toList = w.toList := by decide
    have hrank : Text.lowerAscii rank.label.toList = rank.label.toList := by cases rank <;> decide
    simp only [String.toList_append, Text.lowerAscii_append, hrank, hwords word hword]
    rfl
  have hsearched : searchedText (traitPhrase rank word text) = "set".toList ++ (" ".toList ++
      (rank.label.toList ++ (" ".toList ++ ("persona".toList ++ (" ".toList ++ (word.toList ++
        (" ".toList ++ ("to".toList ++ (" ".toList ++ Text.lowerAscii text.toList))))))))) := by
    rw [traitPhrase, h.searchedText_append (traitFront_begins rank word) hlower]
    simp only [String.toList_append, List.append_assoc]
    rfl
  have happlies : Edit.trait.rule.applies (searchedText (traitPhrase rank word text)) = true := by
    rw [hsearched]
    exact applies_of_object (by simp [Edit.verbs]) fun before =>
      trait_object_reads before rank hword hne hline
  obtain ⟨t, ht⟩ := Option.isSome_iff_exists.1 happlies
  have hread := Edit.reads_of_find ht
  rw [hsearched] at hread
  exact ⟨t, ht, trait_marks hword hflush hread⟩

/-- **An addition of a clean operand asks for just that**, unless a rule about ages takes it. -/
theorem classify_add (shelf : Shelf) (hcolon : text.toList.head? ≠ some ':')
    (hage : Ageless (phrase "add" shelf text)) (window : UInt32) :
    classify window (phrase "add" shelf text) = some ⟨(Edit.add shelf).rule.name,
      some ((Effect.add shelf text).request (Edit.add shelf).rule.confidence (phrase "add" shelf text))⟩ := by
  obtain ⟨t, ht, hentered, hleft⟩ := find_add h shelf hcolon
  obtain ⟨m, -, hoperand, hraw, hclamped, hverdict⟩ :=
    classify_of_marks h (addFront_begins shelf) hage ht hentered hleft window
  have hbuild : (Edit.add shelf).rule.build m = buildEdit .add shelf m := by cases shelf <;> rfl
  refine hverdict.trans ?_
  rw [hbuild, buildEdit_add_eq hoperand, hraw, hclamped, phrase]

/-- **A trait of a persona is set to just the clean operand**, unless a rule about ages takes it. -/
theorem classify_trait (rank : Rank) {word : String} {trait : Trait}
    (htrait : Trait.ofWord? word = some trait) (hage : Ageless (traitPhrase rank word text))
    (window : UInt32) :
    classify window (traitPhrase rank word text) = some ⟨Edit.trait.rule.name,
      some ((Effect.rewrite rank (some trait) text).request explicit (traitPhrase rank word text))⟩ := by
  obtain ⟨t, ht, hone, htwo, hentered, hleft⟩ := find_trait h rank (mem_traitWords htrait)
  obtain ⟨m, rfl, hoperand, hraw, -, hverdict⟩ :=
    classify_of_marks h (traitFront_begins rank word) hage ht hentered hleft window
  have hranked : m.word? 1 = some rank.label := by
    rw [Match.word?, hone, Option.map_some, String.ofList_toList]
  have hnamed : m.word? 2 = some word := by
    rw [Match.word?, htwo, Option.map_some, String.ofList_toList]
  have hbuild : Edit.trait.rule.build m = buildTrait m := rfl
  refine hverdict.trans ?_
  rw [hbuild, buildTrait_eq hranked hnamed htrait hoperand, hraw, traitPhrase]

end Verdict

end Intent

end PersonaDialogue
