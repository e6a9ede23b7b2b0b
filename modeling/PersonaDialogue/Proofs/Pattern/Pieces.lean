import PersonaDialogue.Proofs.Pattern.Reads

/-!
# What the pieces of a pattern read

The readings of the pieces that patterns are put together from: a sequence reads one text after the
other, a choice reads what one of its patterns reads, a word reads itself, and a gap reads one or more
characters of white space.
-/

namespace PersonaDialogue

/-- A gap between words: white space, and at least one character of it. -/
def Text.IsGap (s : List Char) : Prop := s ≠ [] ∧ ∀ c ∈ s, Text.isBlank c = true

namespace Pattern

open Place (past)

variable {p q : Pattern} {cls : CharClass} {before : Option Char} {u after : List Char} {t : Trace}

theorem reads_nothing_iff : nothing.Reads before u after t ↔ u = [] ∧ t = [] := by
  constructor
  · rintro ⟨⟩
    exact ⟨rfl, rfl⟩
  · rintro ⟨rfl, rfl⟩
    exact .nothing

theorem reads_char_iff :
    (char cls).Reads before u after t ↔ (∃ c, u = [c] ∧ cls.accepts c = true) ∧ t = [] := by
  constructor
  · rintro ⟨⟩
    exact ⟨⟨_, rfl, ‹_›⟩, rfl⟩
  · rintro ⟨⟨c, rfl, h⟩, rfl⟩
    exact .char h

theorem reads_append_iff :
    (p ++ q).Reads before u after t ↔ ∃ v w t₁ t₂, u = v ++ w ∧ t = t₁ ++ t₂ ∧
      p.Reads before v (w ++ after) t₁ ∧ q.Reads (past before v) w after t₂ := by
  constructor
  · rintro ⟨⟩
    exact ⟨_, _, _, _, rfl, rfl, ‹_›, ‹_›⟩
  · rintro ⟨v, w, t₁, t₂, rfl, rfl, hp, hq⟩
    exact .seq hp hq

theorem reads_either_iff :
    (either p q).Reads before u after t ↔ p.Reads before u after t ∨ q.Reads before u after t := by
  constructor
  · rintro (_ | _)
    · exact .inl ‹_›
    · exact .inr ‹_›
  · rintro (h | h)
    · exact .first h
    · exact .second h

theorem reads_optional_iff :
    (optional p).Reads before u after t ↔ p.Reads before u after t ∨ u = [] ∧ t = [] := by
  rw [optional, reads_either_iff, reads_nothing_iff]

theorem reads_oneOf_iff {ps : List Pattern} (hps : ps ≠ []) :
    (oneOf ps).Reads before u after t ↔ ∃ p ∈ ps, p.Reads before u after t := by
  induction ps with
  | nil => exact absurd rfl hps
  | cons p ps ih =>
    cases ps with
    | nil => simp [oneOf]
    | cons q ps =>
      change (either p (oneOf (q :: ps))).Reads before u after t ↔ _
      rw [reads_either_iff, ih (List.cons_ne_nil q ps)]
      simp only [List.mem_cons, exists_eq_or_imp]

theorem reads_chars_iff (cs : List Char) :
    (cs.foldr (fun c p => seq (char (.only c)) p) nothing).Reads before u after t ↔
      u = cs ∧ t = [] := by
  induction cs generalizing before u t with
  | nil => exact reads_nothing_iff
  | cons c cs ih =>
    refine reads_append_iff.trans ⟨?_, ?_⟩
    · rintro ⟨v, w, t₁, t₂, rfl, rfl, hc, hcs⟩
      obtain ⟨⟨d, rfl, hd⟩, rfl⟩ := reads_char_iff.1 hc
      obtain ⟨rfl, rfl⟩ := ih.1 hcs
      obtain rfl : d = c := by simpa [CharClass.accepts] using hd
      exact ⟨rfl, rfl⟩
    · rintro ⟨rfl, rfl⟩
      exact ⟨[c], cs, [], [], rfl, rfl, .char (by simp [CharClass.accepts]), ih.2 ⟨rfl, rfl⟩⟩

theorem reads_word_iff {word : String} :
    (Pattern.word word).Reads before u after t ↔ u = word.toList ∧ t = [] := reads_chars_iff _

theorem reads_anyWord_iff {words : List String} (hwords : words ≠ []) :
    (anyWord words).Reads before u after t ↔ (∃ w ∈ words, u = w.toList) ∧ t = [] := by
  rw [anyWord, reads_oneOf_iff (by simpa using hwords)]
  constructor
  · rintro ⟨p, hp, hread⟩
    obtain ⟨w, hw, rfl⟩ := List.mem_map.1 hp
    obtain ⟨rfl, rfl⟩ := reads_word_iff.1 hread
    exact ⟨⟨w, hw, rfl⟩, rfl⟩
  · rintro ⟨⟨w, hw, rfl⟩, rfl⟩
    exact ⟨word w, List.mem_map_of_mem hw, reads_word_iff.2 ⟨rfl, rfl⟩⟩

theorem reads_many_iff :
    (many cls).Reads before u after t ↔ (∀ c ∈ u, cls.accepts c = true) ∧ t = [] := by
  constructor
  · rintro ⟨⟩
    exact ⟨‹_›, rfl⟩
  · rintro ⟨hu, rfl⟩
    exact .run hu (by simp)

theorem reads_few_iff :
    (few cls).Reads before u after t ↔ (∀ c ∈ u, cls.accepts c = true) ∧ t = [] := by
  constructor
  · rintro ⟨⟩
    exact ⟨‹_›, rfl⟩
  · rintro ⟨hu, rfl⟩
    exact .run hu (by simp)

theorem reads_atLeastOne_iff :
    (atLeastOne cls).Reads before u after t ↔
      (u ≠ [] ∧ ∀ c ∈ u, cls.accepts c = true) ∧ t = [] := by
  refine reads_append_iff.trans ⟨?_, ?_⟩
  · rintro ⟨v, w, t₁, t₂, rfl, rfl, hchar, hmany⟩
    obtain ⟨⟨c, rfl, hc⟩, rfl⟩ := reads_char_iff.1 hchar
    obtain ⟨hw, rfl⟩ := reads_many_iff.1 hmany
    exact ⟨⟨by simp, by simpa [hc] using hw⟩, rfl⟩
  · rintro ⟨⟨hne, hu⟩, rfl⟩
    obtain ⟨c, w, rfl⟩ := List.exists_cons_of_ne_nil hne
    exact ⟨[c], w, [], [], rfl, rfl, .char (hu c List.mem_cons_self),
      reads_many_iff.2 ⟨fun d hd => hu d (List.mem_cons_of_mem c hd), rfl⟩⟩

theorem reads_upTo_iff {most : Nat} :
    (upTo (most + 1) cls).Reads before u after t ↔
      (u ≠ [] ∧ u.length ≤ most + 1 ∧ ∀ c ∈ u, cls.accepts c = true) ∧ t = [] := by
  refine reads_append_iff.trans ⟨?_, ?_⟩
  · rintro ⟨v, w, t₁, t₂, rfl, rfl, hchar, hrun⟩
    obtain ⟨⟨c, rfl, hc⟩, rfl⟩ := reads_char_iff.1 hchar
    cases hrun with
    | run hw hmost =>
      have hlength : w.length ≤ most := hmost _ rfl
      refine ⟨⟨List.cons_ne_nil _ _, ?_, List.forall_mem_cons.2 ⟨hc, hw⟩⟩, rfl⟩
      rw [List.singleton_append, List.length_cons]
      omega
  · rintro ⟨⟨hne, hlength, hu⟩, rfl⟩
    obtain ⟨c, w, rfl⟩ := List.exists_cons_of_ne_nil hne
    obtain ⟨hc, hw⟩ := List.forall_mem_cons.1 hu
    rw [List.length_cons] at hlength
    exact ⟨[c], w, [], [], rfl, rfl, .char hc, .run hw fun n hn => by
      obtain rfl := Option.some.inj hn
      exact Nat.le_of_succ_le_succ hlength⟩

theorem reads_gap_iff : gap.Reads before u after t ↔ Text.IsGap u ∧ t = [] := reads_atLeastOne_iff

theorem reads_start_append_iff :
    (start ++ q).Reads before u after t ↔ before = none ∧ q.Reads before u after t := by
  constructor
  · intro h
    obtain ⟨v, w, t₁, t₂, rfl, rfl, hstart, hq⟩ := reads_append_iff.1 h
    cases hstart
    exact ⟨rfl, hq⟩
  · rintro ⟨rfl, hq⟩
    exact .seq (u := []) .start hq

end Pattern

end PersonaDialogue
