import Mathlib.Data.List.DropRight
import PersonaDialogue.Proofs.Command.Effect
import PersonaDialogue.Proofs.Intent.Ending

/-!
# A removal finds what was added in the same words

The operands of an addition and of a removal in the same words are cut from the same text, which is what
follows the name of the collection and a separator (`exists_operand`).  The addition takes all of it, and the
removal all but the lead, if there is one.  So the text that is looked for is the text that was added or the
end of it, and it is found there after both are cleaned and lower-cased (`removal_finds_addition`).
-/

namespace PersonaDialogue

namespace Text

variable {s x y : List Char}

theorem trimStart_lowerAscii (s : List Char) : trimStart (lowerAscii s) = lowerAscii (trimStart s) :=
  dropWhile_lowerAscii isBlank_toLower s

/-- The ends of a text are told apart by their length, and so by their lower-case forms. -/
theorem eq_of_lowerAscii_suffix (hx : x <:+ s) (hy : y <:+ s) (h : lowerAscii x = lowerAscii y) : x = y := by
  have hlength : x.length = y.length := by
    simpa [lowerAscii] using congrArg List.length h
  exact (List.suffix_of_suffix_length_le hx hy hlength.le).eq_of_length hlength

end Text

namespace Intent

open Pattern

variable {window : UInt32} {verb text : String} {shelf : Shelf} {m : Match} {s : List Char}

theorem cleaned_trimStart (s : List Char) : cleaned (Text.trimStart s) = cleaned s := by
  have hagain : Text.trimStart (Text.trimStart s) = Text.trimStart s := List.dropWhile_idempotent _ s
  have htrim : Text.trim (Text.trimStart s) = Text.trim s := by rw [Text.trim, hagain, ← Text.trim]
  rw [cleaned, cleaned, htrim]

/-! ### After the separator -/

theorem afterSeparator_isSuffix (s : List Char) : afterSeparator s <:+ s := by
  have hstart : Text.trimStart s <:+ s := List.dropWhile_suffix Text.isBlank
  unfold afterSeparator
  split
  · next c rest heq =>
    have hrest : Text.trimStart (c :: rest) <:+ ':' :: c :: rest :=
      (List.dropWhile_suffix Text.isBlank).trans (List.suffix_cons ':' (c :: rest))
    exact hrest.trans (heq ▸ hstart)
  · exact hstart

theorem afterSeparator_lowerAscii (s : List Char) :
    afterSeparator (Text.lowerAscii s) = Text.lowerAscii (afterSeparator s) := by
  have hstart := Text.trimStart_lowerAscii s
  by_cases hcolon : ∃ rest, rest ≠ [] ∧ Text.trimStart s = ':' :: rest
  · obtain ⟨rest, hne, hrest⟩ := hcolon
    have hlower : Text.trimStart (Text.lowerAscii s) = ':' :: Text.lowerAscii rest := by
      rw [hstart, hrest]
      rfl
    rw [afterSeparator_of_colon hlower (by simpa [Text.lowerAscii] using hne), afterSeparator_of_colon hrest hne,
      Text.trimStart_lowerAscii]
  · have hgap : ∀ rest, Text.trimStart s = ':' :: rest → rest = [] := by
      intro rest hrest
      by_contra hne
      exact hcolon ⟨rest, hne, hrest⟩
    rw [afterSeparator_of_gap ?_, afterSeparator_of_gap hgap, hstart]
    intro rest hlower
    rw [hstart] at hlower
    obtain ⟨c, w, hw, hc, rfl⟩ := List.map_eq_cons_iff.1 hlower
    obtain rfl := Text.eq_of_toLower_eq (by decide) hc
    rw [hgap w hw]
    rfl

theorem afterName_head (text : String) : ∀ c ∈ (afterName text).head?, Text.isBlank c = true := by
  intro c hc
  obtain ⟨v, hv⟩ := List.head?_eq_some_iff.1 hc
  obtain ⟨w, hw⟩ := Text.trimEndWhile_isPrefix Text.isBlank (' ' :: text.toList)
  rw [← afterName, hv] at hw
  obtain ⟨rfl, -⟩ := List.cons_eq_cons.1 hw
  rfl

/-! ### The operands -/

/-- **The operand of a phrase is what is left after the separator**, without a lead. -/
theorem exists_operand {e : Edit} {lead : Pattern} (hlead : IsIntroduction lead)
    (hverb : verb = "add" ∨ verb = "remove") (hdown : ComesDownTo e verb shelf lead)
    (hm : m.IsOf e.rule window (phrase verb shelf text)) :
    ∃ u r, (∃ before after, lead.Reads before (Text.lowerAscii u) after []) ∧
      Text.trimStart (u ++ r) = afterSeparator (afterName text) ∧
      m.operand? 1 = if cleaned r = [] then none else some (String.ofList (cleaned r)) := by
  have hhead : ∀ c ∈ (Text.lowerAscii (afterName text)).head?, Text.isBlank c = true := by
    intro c hc
    rw [Text.lowerAscii, List.head?_map] at hc
    obtain ⟨d, hd, rfl⟩ := Option.map_eq_some_iff.1 hc
    rw [Text.isBlank_toLower]
    exact afterName_head text d hd
  have hfound : e.rule.pattern.find (searchedText (phrase verb shelf text)) = some m.trace := by
    rw [searchedText, ← hm.message_eq, ← hm.searched_eq]
    exact hm.trace_eq
  obtain ⟨before, hfind⟩ := hdown _ hhead
  rw [searchedText_phrase hverb, hfind] at hfound
  obtain ⟨x, y, ⟨z, hz⟩, ⟨b, hreads⟩, hrest, htrace⟩ := ending_reads hlead hfound
  -- what was read is in lower case; the letters of the message are those at the same place
  obtain ⟨w, v, hname, rfl, hv⟩ := List.map_eq_append_iff.1 hz.symm
  obtain ⟨u, r, rfl, rfl, rfl⟩ := List.map_eq_append_iff.1 hv
  have hsuffix : u ++ r <:+ afterName text := ⟨w, hname.symm⟩
  have hwritten : Text.trimStart (u ++ r) = afterSeparator (afterName text) := by
    refine Text.eq_of_lowerAscii_suffix ((List.dropWhile_suffix _).trans hsuffix)
      (afterSeparator_isSuffix _) ?_
    rw [← Text.trimStart_lowerAscii, ← afterSeparator_lowerAscii, ← hrest, Text.lowerAscii_append]
    rfl
  have hmessage : r <:+ m.message := by
    rw [hm.message_eq, trim_phrase hverb]
    have hfront : afterName text <:+ verb.toList ++ (" ".toList ++ ((spoken shelf).toList ++ afterName text)) :=
      ⟨verb.toList ++ (" ".toList ++ (spoken shelf).toList), by simp⟩
    exact ((List.suffix_append u r).trans hsuffix).trans hfront
  refine ⟨u, r, ⟨b, _, hreads⟩, hwritten, m.operand?_of_suffix hmessage hm.searched_eq ?_ ?_⟩
  · rw [htrace]
    rfl
  · rw [htrace]
    rfl

/-- An addition in plain words takes all that follows the separator. -/
theorem operand_of_addition (hm : m.IsOf (Edit.add shelf).rule window (phrase "add" shelf text)) :
    let operand := cleaned (afterSeparator (afterName text))
    m.operand? 1 = if operand = [] then none else some (String.ofList operand) := by
  obtain ⟨u, r, ⟨_, _, hreads⟩, hrest, hoperand⟩ :=
    exists_operand nothing_isIntroduction (.inl rfl) (find_addition shelf) hm
  obtain rfl : u = [] := List.map_eq_nil_iff.1 (reads_nothing_iff.1 hreads).1
  intro operand
  have hcleaned : operand = cleaned r := by
    rw [← cleaned_trimStart r]
    exact congrArg cleaned hrest.symm
  rw [hcleaned, hoperand]

/-- A removal in plain words takes what follows the separator and a lead. -/
theorem operand_of_removal (hm : m.IsOf (Edit.remove shelf).rule window (phrase "remove" shelf text)) :
    ∃ u r, (u = [] ∨ IsLead u) ∧ Text.trimStart (u ++ r) = afterSeparator (afterName text) ∧
      m.operand? 1 = if cleaned r = [] then none else some (String.ofList (cleaned r)) := by
  have hlead := removalLead_isIntroduction shelf
  obtain ⟨u, r, ⟨_, _, hreads⟩, hrest, hoperand⟩ :=
    exists_operand hlead (.inr rfl) (find_removal shelf) hm
  refine ⟨u, r, ?_, hrest, hoperand⟩
  exact (hlead.words hreads).2.imp List.map_eq_nil_iff.1 isLead_of_lowerAscii

theorem exists_of_buildEdit {action : Action} {c : Command} (h : buildEdit action shelf m = some c) :
    ∃ operand, m.operand? 1 = some operand ∧ c = (m.command action (Target.ofShelf shelf)).withText operand := by
  obtain ⟨operand, hoperand, hc⟩ := Option.bind_eq_some_iff.1 h
  exact ⟨operand, hoperand, (Option.some.inj hc).symm⟩

theorem eq_of_operand {r : List Char} {operand : String}
    (h : (if cleaned r = [] then none else some (String.ofList (cleaned r))) = some operand) :
    cleaned r ≠ [] ∧ operand = String.ofList (cleaned r) := by
  split at h
  · cases h
  · next hne => exact ⟨hne, (Option.some.inj h).symm⟩

/-- **A removal looks for a text that is found in what an addition in the same words adds.** -/
theorem removal_finds_addition {c c' : Command}
    (hadd : classify window (phrase "add" shelf text) = some ⟨(Edit.add shelf).rule.name, some c⟩)
    (hremove : classify window (phrase "remove" shelf text) = some ⟨(Edit.remove shelf).rule.name, some c'⟩) :
    ∃ added removed, c.effect = .add shelf added ∧ c'.effect = .remove shelf removed ∧
      Canvas.mentions removed added = true := by
  obtain ⟨m, hm, hbuild⟩ := classify_match (Edit.rule_mem _) hadd
  obtain ⟨m', hm', hbuild'⟩ := classify_match (Edit.rule_mem _) hremove
  have hadds : buildEdit .add shelf m = some c := by cases shelf <;> exact hbuild
  have hremoves : buildEdit .remove shelf m' = some c' := by cases shelf <;> exact hbuild'
  obtain ⟨added, hadded, rfl⟩ := exists_of_buildEdit hadds
  obtain ⟨removed, hremoved, rfl⟩ := exists_of_buildEdit hremoves
  refine ⟨added, removed, by cases shelf <;> rfl, by cases shelf <;> rfl, ?_⟩
  have hoperand := operand_of_addition hm
  obtain ⟨u, r, hlead, hrest, hoperand'⟩ := operand_of_removal hm'
  obtain ⟨-, rfl⟩ := eq_of_operand (hoperand.symm.trans hadded)
  obtain ⟨hne, rfl⟩ := eq_of_operand (hoperand'.symm.trans hremoved)
  rw [Canvas.mentions, String.toList_ofList, String.toList_ofList, Text.occursIn_iff, ← hrest]
  rcases hlead with rfl | hlead
  · rw [List.nil_append, cleaned_trimStart]
  · rw [hlead.trimStart_append]
    exact (hlead.fold_isSuffix hne).isInfix

end Intent

end PersonaDialogue
