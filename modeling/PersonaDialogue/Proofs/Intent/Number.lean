import PersonaDialogue.Proofs.Intent.Opening
import PersonaDialogue.Proofs.Pattern.Digitless
import PersonaDialogue.Proofs.Pattern.Marks

/-!
# Numbers that patterns read

A group for an age takes at most three digits, and nothing in it says that there may not be more of them.
What stands around it does: before the group the pattern reads something that is no digit, or there is a
word boundary (`Guards`); after the last group there is a word boundary, and between two groups something
that is no digit.  So however the match was found, the groups hold complete numbers of the text
(`marksNumber`, `marksNumbers`).
-/

namespace PersonaDialogue

open Place (past)
open Text (NoDigit DigitRun)

namespace Pattern

variable {p q : Pattern} {u v w : List Char} {t : Trace}

/-- A sequence reads one part of the text after the other. -/
theorem reads_append_split (h : (p ++ q).Reads u.getLast? v w t) :
    ∃ v₁ v₂ t₁ t₂, v = v₁ ++ v₂ ∧ t = t₁ ++ t₂ ∧ p.Reads u.getLast? v₁ (v₂ ++ w) t₁ ∧
      q.Reads (u ++ v₁).getLast? v₂ w t₂ := by
  obtain ⟨v₁, v₂, t₁, t₂, hv, ht, hp, hq⟩ := reads_append_iff.1 h
  have hpast : past u.getLast? v₁ = (u ++ v₁).getLast? := by rw [past, List.getLast?_append]
  rw [hpast] at hq
  exact ⟨v₁, v₂, t₁, t₂, hv, ht, hp, hq⟩

end Pattern

namespace Intent

open Pattern

variable {u v w s : List Char} {q front link : Pattern} {t : Trace}

/-- The pattern lets no digit stand before a digit that follows. -/
def Guards (front : Pattern) : Prop :=
  ∀ ⦃u v c w t⦄, front.Reads (List.getLast? u) v (c :: w) t → Text.isDigit c = true →
    NoDigit (u ++ v).getLast?

theorem guards_boundary : Guards boundary := by
  intro u v c w t h hc
  cases h with
  | boundary hb =>
    rw [List.append_nil]
    exact noDigit_before_digit hc hb

theorem guards_append {p : Pattern} (hq : q.digitless = true) (hq' : q.consumes = true) :
    Guards (p ++ q) := by
  intro u v c w t h hc
  obtain ⟨v₁, v₂, t₁, t₂, rfl, -, -, hread⟩ := reads_append_split h
  have hnone := (noDigit_of_reads hread hq hq').1
  rwa [past, ← List.getLast?_append, List.append_assoc] at hnone

/-- More that is no digit may follow what guards. -/
theorem Guards.append (hfront : Guards front) (hq : q.digitless = true) : Guards (front ++ q) := by
  intro u v c w t h hc
  obtain ⟨v₁, v₂, t₁, t₂, rfl, -, hread, hread'⟩ := reads_append_split h
  have hdigits := isDigit_of_digitless hread' hq
  cases hv : v₂.getLast? with
  | none =>
    obtain rfl := List.getLast?_eq_none_iff.1 hv
    rw [List.append_nil]
    exact hfront hread hc
  | some d =>
    rw [← List.append_assoc, List.getLast?_append, hv, Option.some_or]
    rintro _ ⟨⟩
    exact hdigits d (List.mem_of_getLast? hv)

/-- A number is marked as a whole. -/
theorem reads_of_ageNumber {index : Nat} (h : (ageNumber index ++ q).Reads u.getLast? v w t) :
    ∃ x rest t', v = x ++ rest ∧ x ≠ [] ∧ x.length ≤ 3 ∧ (∀ c ∈ x, Text.isDigit c = true) ∧
      q.Reads (u ++ x).getLast? rest w t' ∧ t.text? index = some x ∧
      ∀ other, other ≠ index → t.text? other = t'.text? other := by
  obtain ⟨x, rest, t₁, t₂, rfl, rfl, hgroup, hq⟩ := reads_append_split h
  have htext := text?_of_reads_group (by rfl) hgroup
  obtain ⟨t', hdigits, rfl⟩ := reads_group_iff.1 hgroup
  obtain ⟨⟨hne, hlength, hx⟩, -⟩ := reads_upTo_iff.1 hdigits
  refine ⟨x, rest, t₂, rfl, hne, hlength, hx, hq, Trace.text?_append_left htext _, fun other hother => ?_⟩
  have hnone : Trace.Unmarked other _ := unmarked_of_reads hgroup fun hmem =>
    hother (List.mem_singleton.1 (hmem : other ∈ [index]))
  exact Trace.text?_append_right hnone

/-- A word boundary after a number is the end of its digits. -/
theorem ends_of_boundary {x : List Char} (hne : x ≠ []) (hx : ∀ c ∈ x, Text.isDigit c = true)
    (h : boundary.Reads (u ++ x).getLast? v w t) : v = [] ∧ NoDigit w.head? := by
  have hlast : (u ++ x).getLast? = some (x.getLast hne) := by
    rw [List.getLast?_append, List.getLast?_eq_some_getLast hne, Option.some_or]
  cases h with
  | boundary hb =>
    rw [hlast] at hb
    exact ⟨rfl, noDigit_after_digit (hx _ (List.getLast_mem hne)) hb⟩

theorem Guards.starts (hfront : Guards front) {x rest : List Char} (hne : x ≠ [])
    (hx : ∀ c ∈ x, Text.isDigit c = true) (h : front.Reads u.getLast? v (x ++ rest) t) :
    NoDigit (u ++ v).getLast? := by
  obtain ⟨c, x', rfl⟩ := List.exists_cons_of_ne_nil hne
  exact hfront h (hx c List.mem_cons_self)

/-- The text of the first group is a complete number of one to three digits. -/
def MarksNumber (s : List Char) (t : Trace) : Prop :=
  ∃ r : DigitRun s, r.digits.length ≤ 3 ∧ t.text? 1 = some r.digits

/-- **A number between a pattern that guards it and a word boundary is complete.** -/
theorem marksNumber (hfront : Guards front) (hgroups : 1 ∉ front.groups) (hs : s = u ++ (v ++ w))
    (h : (front ++ ageNumber 1 ++ boundary).Reads u.getLast? v w t) : MarksNumber s t := by
  obtain ⟨v₀, v₁, t₀, t₁, rfl, rfl, hread, hnumber⟩ := reads_append_split (reads_assoc_iff.1 h)
  obtain ⟨x, v₂, t₂, rfl, hne, hlength, hx, hboundary, htext, -⟩ := reads_of_ageNumber hnumber
  obtain ⟨rfl, hends⟩ := ends_of_boundary hne hx hboundary
  simp only [List.append_nil] at hread
  refine ⟨⟨u ++ v₀, x, w, ?_, hne, hx, hfront.starts hne hx hread, hends⟩, hlength, ?_⟩
  · rw [hs]
    simp only [List.append_assoc, List.nil_append]
  · rw [Trace.text?_append_right (unmarked_of_reads hread hgroups), htext]

/-- The texts of the first two groups are complete numbers of one to three digits, in this order. -/
def MarksNumbers (s : List Char) (t : Trace) : Prop :=
  ∃ r r' : DigitRun s, r.Precedes r' ∧ (r.digits.length ≤ 3 ∧ r'.digits.length ≤ 3) ∧
    t.text? 1 = some r.digits ∧ t.text? 2 = some r'.digits

/-- **Two numbers are complete** if a link of other characters stands between them. -/
theorem marksNumbers (hfront : Guards front) (hgroups : 1 ∉ front.groups ∧ 2 ∉ front.groups)
    (hlink : link.digitless = true ∧ link.consumes = true ∧ link.groups = []) (hs : s = u ++ (v ++ w))
    (h : (front ++ ageNumber 1 ++ space ++ link ++ space ++ ageNumber 2 ++ boundary).Reads u.getLast? v w t) :
    MarksNumbers s t := by
  obtain ⟨hlink, hlink', hnone⟩ := hlink
  have hmiddle : (space ++ link ++ space).digitless = true := by
    have hspace : space.digitless = true := by decide
    exact Bool.and_eq_true_iff.2 ⟨Bool.and_eq_true_iff.2 ⟨hspace, hlink⟩, hspace⟩
  have hmiddle' : (space ++ link ++ space).consumes = true :=
    Bool.or_eq_true_iff.2 (.inl (Bool.or_eq_true_iff.2 (.inr hlink')))
  have hnone : (space ++ link ++ space).groups = [] := by
    change [] ++ link.groups ++ [] = []
    rw [hnone]
    rfl
  simp only [reads_assoc_iff] at h
  obtain ⟨v₀, v₁, t₀, t₁, rfl, rfl, hread, hnumber⟩ := reads_append_split h
  obtain ⟨x, v₂, t₂, rfl, hne, hlength, hx, hrest, htext, hother⟩ := reads_of_ageNumber hnumber
  obtain ⟨g, v₃, t₃, t₄, rfl, rfl, hgap, hnumber'⟩ :=
    reads_append_split (reads_assoc_iff.2 (reads_assoc_iff.2 hrest))
  obtain ⟨y, v₄, t₅, rfl, hne', hlength', hy, hboundary, htext', -⟩ := reads_of_ageNumber hnumber'
  obtain ⟨rfl, hends⟩ := ends_of_boundary hne' hy hboundary
  obtain ⟨hstarts', hends'⟩ := noDigit_of_reads hgap hmiddle hmiddle'
  rw [past, ← List.getLast?_append] at hstarts'
  simp only [List.append_nil, List.append_assoc] at hread hends'
  have hsplit : u ++ v₀ ++ (x ++ (g ++ (y ++ w))) = s := by
    rw [hs]
    simp only [List.append_assoc, List.append_nil]
  have hsplit' : u ++ v₀ ++ x ++ g ++ (y ++ w) = s := by
    rw [hs]
    simp only [List.append_assoc, List.append_nil]
  have hunmarked : t₀.Unmarked 1 ∧ t₀.Unmarked 2 :=
    ⟨unmarked_of_reads hread hgroups.1, unmarked_of_reads hread hgroups.2⟩
  refine ⟨⟨u ++ v₀, x, _, hsplit, hne, hx, hfront.starts hne hx hread, hends'⟩,
    ⟨u ++ v₀ ++ x ++ g, y, w, hsplit', hne', hy, hstarts', hends⟩, ?_, ⟨hlength, hlength'⟩, ?_, ?_⟩
  · have hpos := List.length_pos_iff.2 (ne_nil_of_consumes hgap hmiddle')
    simp only [DigitRun.Precedes, List.length_append]
    omega
  · rw [Trace.text?_append_right hunmarked.1, htext]
  · have hgap : t₃.Unmarked 2 := unmarked_of_reads hgap (by simp [hnone])
    rw [Trace.text?_append_right hunmarked.2, hother 2 (by decide), Trace.text?_append_right hgap, htext']

/-! ### The rules about ages -/

theorem marksNumbers_of_ageRange (h : ageRange.find s = some t) : MarksNumbers s t := by
  obtain ⟨u, v, w, hs, hread⟩ := reads_of_find h
  refine marksNumbers ?_ (by decide) (by decide) hs hread
  exact ((((guards_append (by decide) (by decide)).append (by decide)).append (by decide)).append (by decide))

theorem marksNumbers_of_embeddedRange (h : embeddedRange.find s = some t) : MarksNumbers s t := by
  obtain ⟨u, v, w, hs, hread⟩ := reads_of_find h
  exact marksNumbers guards_boundary (by decide) (by decide) hs hread

theorem marksNumber_of_singleAge (h : singleAge.find s = some t) : MarksNumber s t := by
  obtain ⟨u, v, w, hs, hread⟩ := reads_of_find h
  refine marksNumber ?_ (by decide) hs hread
  exact ((guards_append (by decide) (by decide)).append (by decide)).append (by decide)

end Intent

end PersonaDialogue
