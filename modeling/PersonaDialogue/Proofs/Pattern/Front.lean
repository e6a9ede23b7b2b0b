import PersonaDialogue.Proofs.Pattern.Marks

/-!
# Reading a known text from its front

Where the beginning of a text is known, so is what the first pieces of a pattern read of it: a word reads
itself, a gap reads the one space that is there, and a piece that may be absent is absent if the text does
not begin with its first word.  Each lemma takes one piece off a pattern and off the text, and leaves the
marks as they are; so a reading of a whole pattern is followed piece by piece.
-/

namespace PersonaDialogue

/-- No word begins a text that begins with another word, if neither of the two begins the other. -/
theorem Text.not_prefix_append {w v : List Char} (h : ¬ w <+: v) (h' : ¬ v <+: w) (s : List Char) :
    ¬ w <+: v ++ s := by
  intro hw
  rcases List.prefix_or_prefix_of_prefix hw (List.prefix_append v s) with hwv | hvw
  · exact h hwv
  · exact h' hvw

/-- The text does not begin with white space. -/
def Text.Flush (s : List Char) : Prop := ∀ c ∈ s.head?, Text.isBlank c = false

namespace Pattern

open Place (past)

variable {p q r : Pattern} {cls : CharClass} {before : Option Char} {s after : List Char} {t : Trace}

theorem reads_word_append_iff {w : String} : (word w ++ q).Reads before s after t ↔
    ∃ v, s = w.toList ++ v ∧ q.Reads (past before w.toList) v after t := by
  constructor
  · intro h
    obtain ⟨u, v, t₁, t₂, rfl, rfl, hword, hq⟩ := reads_append_iff.1 h
    obtain ⟨rfl, rfl⟩ := reads_word_iff.1 hword
    exact ⟨v, rfl, hq⟩
  · rintro ⟨v, rfl, hq⟩
    exact .seq (reads_word_iff.2 ⟨rfl, rfl⟩) hq

theorem reads_of_word {w : String} (h : (word w ++ q).Reads before (w.toList ++ s) after t) :
    q.Reads (past before w.toList) s after t := by
  obtain ⟨v, hv, hq⟩ := reads_word_append_iff.1 h
  rwa [List.append_cancel_left hv]

/-- A character is not read where another kind stands. -/
theorem not_reads_char {c : Char} (hc : cls.accepts c = false) :
    ¬ (char cls ++ q).Reads before (c :: s) after t := by
  intro h
  obtain ⟨u, v, t₁, t₂, hs, -, hchar, -⟩ := reads_append_iff.1 h
  obtain ⟨⟨d, rfl, hd⟩, -⟩ := reads_char_iff.1 hchar
  obtain ⟨rfl, -⟩ := List.cons_eq_cons.1 hs
  rw [hc] at hd
  cases hd

/-- White space in front of a text without any is read as a whole. -/
theorem eq_of_blank_append {u v : List Char} (hu : ∀ c ∈ u, Text.isBlank c = true)
    (hs : Text.Flush s) (h : u ++ v = s) : u = [] ∧ v = s := by
  cases u with
  | nil => exact ⟨rfl, h⟩
  | cons c u =>
    subst h
    have hflush : Text.isBlank c = false := hs c rfl
    rw [hu c List.mem_cons_self] at hflush
    cases hflush

/-- A gap reads the one space that is there. -/
theorem reads_of_gap (hs : Text.Flush s) (h : (gap ++ q).Reads before (" ".toList ++ s) after t) :
    q.Reads (past before " ".toList) s after t := by
  obtain ⟨u, v, t₁, t₂, heq, rfl, hgap, hq⟩ := reads_append_iff.1 h
  obtain ⟨hu, rfl⟩ := reads_gap_iff.1 hgap
  obtain ⟨c, u, rfl⟩ := List.exists_cons_of_ne_nil hu.1
  obtain ⟨rfl, hrest⟩ := List.cons_eq_cons.1 heq
  obtain ⟨rfl, rfl⟩ := eq_of_blank_append (fun d hd => hu.2 d (List.mem_cons_of_mem _ hd)) hs hrest.symm
  exact hq

/-- White space that may be absent reads the one space that is there, or nothing. -/
theorem reads_of_space (hs : Text.Flush s) (h : (space ++ q).Reads before (" ".toList ++ s) after t) :
    q.Reads before (" ".toList ++ s) after t ∨ q.Reads (past before " ".toList) s after t := by
  obtain ⟨u, v, t₁, t₂, heq, rfl, hspace, hq⟩ := reads_append_iff.1 h
  obtain ⟨hu, rfl⟩ := reads_many_iff.1 hspace
  cases u with
  | nil =>
    rw [heq]
    exact .inl hq
  | cons c u =>
    obtain ⟨rfl, hrest⟩ := List.cons_eq_cons.1 heq
    obtain ⟨rfl, rfl⟩ := eq_of_blank_append (fun d hd => hu d (List.mem_cons_of_mem _ hd)) hs hrest.symm
    exact .inr hq

theorem reads_optional_append_iff : (optional p ++ q).Reads before s after t ↔
    (p ++ q).Reads before s after t ∨ q.Reads before s after t := by
  constructor
  · intro h
    obtain ⟨u, v, t₁, t₂, rfl, rfl, hopt, hq⟩ := reads_append_iff.1 h
    rcases reads_optional_iff.1 hopt with hp | ⟨rfl, rfl⟩
    · exact .inl (.seq hp hq)
    · exact .inr hq
  · rintro (h | h)
    · obtain ⟨u, v, t₁, t₂, rfl, rfl, hp, hq⟩ := reads_append_iff.1 h
      exact .seq (.first hp) hq
    · exact .seq (u := []) (.second .nothing) h

/-- Whatever the pattern reads begins with the word. -/
def StartsWith (p : Pattern) (w : String) : Prop :=
  ∀ ⦃before u after t⦄, p.Reads before u after t → w.toList <+: u

theorem startsWith_word (w : String) : (word w).StartsWith w := by
  intro before u after t h
  obtain ⟨rfl, -⟩ := reads_word_iff.1 h
  exact List.prefix_rfl

theorem StartsWith.append {w : String} (hp : p.StartsWith w) : (p ++ q).StartsWith w := by
  intro before u after t h
  obtain ⟨v, v', _, _, rfl, -, hv, -⟩ := reads_append_iff.1 h
  exact (hp hv).trans (List.prefix_append v v')

/-- A piece that may be absent is absent if the text does not begin with its first word. -/
theorem reads_of_absent {w : String} (hp : p.StartsWith w) (hw : ¬ w.toList <+: s)
    (h : (optional p ++ q).Reads before s after t) : q.Reads before s after t := by
  rcases reads_optional_append_iff.1 h with hpresent | habsent
  · exact absurd (hp.append hpresent) hw
  · exact habsent

theorem reads_either_append_iff : (either p q ++ r).Reads before s after t ↔
    (p ++ r).Reads before s after t ∨ (q ++ r).Reads before s after t := by
  simp only [reads_append_iff, reads_either_iff]
  constructor
  · rintro ⟨u, v, t₁, t₂, hs, ht, hp | hq, hr⟩
    · exact .inl ⟨u, v, t₁, t₂, hs, ht, hp, hr⟩
    · exact .inr ⟨u, v, t₁, t₂, hs, ht, hq, hr⟩
  · rintro (⟨u, v, t₁, t₂, hs, ht, hp, hr⟩ | ⟨u, v, t₁, t₂, hs, ht, hq, hr⟩)
    · exact ⟨u, v, t₁, t₂, hs, ht, .inl hp, hr⟩
    · exact ⟨u, v, t₁, t₂, hs, ht, .inr hq, hr⟩

/-- Does none of several words begin with another word, or begin it? -/
def Apart (words : List String) (w : String) : Prop :=
  ∀ v ∈ words, v ≠ w → ¬ v.toList <+: w.toList ∧ ¬ w.toList <+: v.toList

instance (words : List String) (w : String) : Decidable (Apart words w) :=
  inferInstanceAs (Decidable (∀ v ∈ words, v ≠ w → ¬ v.toList <+: w.toList ∧ ¬ w.toList <+: v.toList))

/-- Of several words the one is read that the text begins with, if none of them begins another. -/
theorem eq_of_anyWord {words : List String} {w : String} {u v : List Char} (hne : words ≠ [])
    (hwords : Apart words w) (hsplit : u ++ v = w.toList ++ s)
    (h : (anyWord words).Reads before u after t) : u = w.toList ∧ v = s ∧ t = [] := by
  obtain ⟨⟨x, hx, rfl⟩, rfl⟩ := (reads_anyWord_iff hne).1 h
  by_cases hxw : x = w
  · subst hxw
    exact ⟨rfl, List.append_cancel_left hsplit, rfl⟩
  · obtain ⟨hleft, hright⟩ := hwords x hx hxw
    exact absurd ⟨v, hsplit⟩ (Text.not_prefix_append hleft hright s)

theorem reads_of_anyWord {words : List String} {w : String} (hne : words ≠ []) (hwords : Apart words w)
    (h : (anyWord words ++ q).Reads before (w.toList ++ s) after t) :
    q.Reads (past before w.toList) s after t := by
  obtain ⟨u, v, t₁, t₂, hs, rfl, hword, hq⟩ := reads_append_iff.1 h
  obtain ⟨rfl, rfl, rfl⟩ := eq_of_anyWord hne hwords hs.symm hword
  exact hq

/-- A group of words marks the one that it reads. -/
theorem reads_of_groupWord {index : Nat} {words : List String} {w : String} (hne : words ≠ [])
    (hwords : Apart words w)
    (h : (group index (anyWord words) ++ q).Reads before (w.toList ++ s) after t) :
    ∃ t', q.Reads (past before w.toList) s after t' ∧
      t = .enter index (w.toList ++ (s ++ after)) :: .leave index (s ++ after) :: t' := by
  obtain ⟨u, v, t₁, t₂, hs, rfl, hgroup, hq⟩ := reads_append_iff.1 h
  obtain ⟨t', hword, rfl⟩ := reads_group_iff.1 hgroup
  obtain ⟨rfl, rfl, rfl⟩ := eq_of_anyWord hne hwords hs.symm hword
  exact ⟨t₂, hq, rfl⟩

/-- A group of words reads nothing where yet another word stands. -/
theorem not_reads_groupWord {index : Nat} {words : List String} {w : String} (hne : words ≠ [])
    (hw : w ∉ words) (hwords : Apart words w) :
    ¬ (group index (anyWord words) ++ q).Reads before (w.toList ++ s) after t := by
  intro h
  obtain ⟨u, v, t₁, t₂, hs, -, hgroup, -⟩ := reads_append_iff.1 h
  obtain ⟨t', hread, -⟩ := reads_group_iff.1 hgroup
  obtain ⟨⟨x, hx, rfl⟩, -⟩ := (reads_anyWord_iff hne).1 hread
  obtain ⟨hleft, hright⟩ := hwords x hx fun heq => hw (heq ▸ hx)
  exact Text.not_prefix_append hleft hright s ⟨v, hs.symm⟩

end Pattern

end PersonaDialogue
