import PersonaDialogue.Proofs.Pattern.Digitless

/-!
# Words of their own

Next to a character of a word, a word boundary says that the word ends there: no character of a word stands on
the other side.  So a pattern for words between two word boundaries reads a word that is no part of a longer one
(`reads_ownWord_iff`).
-/

namespace PersonaDialogue

open Place (past)

/-! ### Edges of words -/

namespace Text

/-- No character of a word stands there. -/
def NoWord (o : Option Char) : Prop := ∀ c ∈ o, isWord c = false

/-- It begins and ends with characters of words. -/
def WordLike (u : List Char) : Prop := u.head?.any isWord = true ∧ u.getLast?.any isWord = true

/-- It does not go on with the word in front of it. -/
def Apart (u : List Char) : Prop := u ≠ [] ∧ NoWord u.head?

def IsAny (words : List String) (u : List Char) : Prop := ∃ w ∈ words, u = w.toList

instance (o : Option Char) : Decidable (NoWord o) :=
  decidable_of_iff (o.all (fun c => !isWord c) = true) (by cases o <;> simp [NoWord])

instance (u : List Char) : Decidable (WordLike u) :=
  inferInstanceAs (Decidable (u.head?.any isWord = true ∧ u.getLast?.any isWord = true))

instance (u : List Char) : Decidable (Apart u) :=
  inferInstanceAs (Decidable (u ≠ [] ∧ NoWord u.head?))

variable {u v : List Char} {o before : Option Char}

theorem NoWord.noDigit (h : NoWord o) : NoDigit o := by
  intro c hc
  by_contra hdigit
  have hword : isWord c = true := isWord_of_isDigit (by simpa using hdigit)
  rw [h c hc] at hword
  cases hword

/-- What each of the words has, any of them has. -/
theorem IsAny.of_words {words : List String} (hu : IsAny words u) (P : List Char → Prop)
    (h : ∀ w ∈ words, P w.toList) : P u := by
  obtain ⟨w, hw, rfl⟩ := hu
  exact h w hw

/-- Words without digits. -/
theorem IsAny.digitless {words : List String} (hu : IsAny words u)
    (h : (words.all fun w => w.toList.all fun c => !isDigit c) = true) : ∀ c ∈ u, isDigit c = false := by
  refine hu.of_words (fun u => ∀ c ∈ u, isDigit c = false) fun w hw c hc => ?_
  simpa using List.all_eq_true.1 (List.all_eq_true.1 h w hw) c hc

theorem Apart.noWord_append (hu : Apart u) (v : List Char) : NoWord (u ++ v).head? := by
  rw [List.head?_append_of_ne_nil _ hu.1]
  exact hu.2

theorem WordLike.exists_cons (hu : WordLike u) : ∃ c rest, u = c :: rest ∧ isWord c = true := by
  obtain ⟨c, hc, hword⟩ := (Option.any_eq_true _ _).1 hu.1
  obtain ⟨rest, rfl⟩ := List.head?_eq_some_iff.1 hc
  exact ⟨c, rest, rfl, hword⟩

/-- What stands in front of a word, and ends the word before it, is not empty. -/
theorem WordLike.apart_of_noWord (hv : WordLike v) {w : List Char} (h : NoWord (u ++ (v ++ w)).head?) :
    Apart u := by
  obtain ⟨c, rest, rfl, hword⟩ := hv.exists_cons
  cases u with
  | nil =>
    rw [h c rfl] at hword
    cases hword
  | cons d u => exact ⟨List.cons_ne_nil d u, h⟩

theorem WordLike.isBoundary_before_iff (hu : WordLike u) :
    Place.isBoundary ⟨before, u ++ v⟩ = true ↔ NoWord before := by
  obtain ⟨c, rest, rfl, hword⟩ := hu.exists_cons
  cases before <;> simp [Place.isBoundary, NoWord, hword]

theorem WordLike.isBoundary_after_iff (hu : WordLike u) :
    Place.isBoundary ⟨past before u, v⟩ = true ↔ NoWord v.head? := by
  obtain ⟨c, hc, hword⟩ := (Option.any_eq_true _ _).1 hu.2
  rw [past, hc, Option.some_or]
  cases v <;> simp [Place.isBoundary, NoWord, hword]

end Text

/-! ### Patterns between word boundaries -/

namespace Pattern

open Text

variable {before : Option Char} {v after : List Char} {t : Trace} {p q : Pattern}

theorem reads_isAny_iff {words : List String} (hwords : words ≠ []) ⦃before : Option Char⦄ ⦃u after : List Char⦄
    ⦃t : Trace⦄ : (anyWord words).Reads before u after t ↔ IsAny words u ∧ t = [] :=
  reads_anyWord_iff hwords

theorem reads_boundary_append_iff : (boundary ++ q).Reads before v after t ↔
    Place.isBoundary ⟨before, v ++ after⟩ = true ∧ q.Reads before v after t := by
  constructor
  · intro h
    obtain ⟨u, w, _, _, rfl, rfl, hedge, hq⟩ := reads_append_iff.1 h
    cases hedge with
    | boundary hb => exact ⟨hb, hq⟩
  · rintro ⟨hb, hq⟩
    exact .seq (u := []) (.boundary hb) hq

/-- Between word boundaries, a pattern for words reads a word of its own. -/
theorem reads_ownWord_iff {kind : List Char → Prop}
    (hp : ∀ ⦃before u after t⦄, p.Reads before u after t ↔ kind u ∧ t = [])
    (hkind : ∀ u, kind u → WordLike u) :
    Place.isBoundary ⟨before, v ++ after⟩ = true ∧ (p ++ (boundary ++ q)).Reads before v after t ↔
      ∃ u w, v = u ++ w ∧ kind u ∧ NoWord before ∧ NoWord (w ++ after).head? ∧
        q.Reads (past before u) w after t := by
  constructor
  · rintro ⟨hb, hread⟩
    obtain ⟨u, w, _, _, rfl, rfl, hword, hrest⟩ := reads_append_iff.1 hread
    obtain ⟨hu, rfl⟩ := hp.1 hword
    obtain ⟨hb', hq⟩ := reads_boundary_append_iff.1 hrest
    rw [List.append_assoc, (hkind u hu).isBoundary_before_iff] at hb
    rw [(hkind u hu).isBoundary_after_iff] at hb'
    exact ⟨u, w, rfl, hu, hb, hb', hq⟩
  · rintro ⟨u, w, rfl, hu, hb, hb', hq⟩
    refine ⟨?_, .seq (hp.2 ⟨hu, rfl⟩) (reads_boundary_append_iff.2 ⟨?_, hq⟩)⟩
    · rwa [List.append_assoc, (hkind u hu).isBoundary_before_iff]
    · rwa [(hkind u hu).isBoundary_after_iff]

end Pattern

end PersonaDialogue
