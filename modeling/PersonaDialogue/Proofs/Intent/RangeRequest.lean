import PersonaDialogue.Proofs.Intent.NumberPair
import PersonaDialogue.Proofs.Session.StatedAge

/-!
# Ranges and single ages

Where an order stands on the line in front of the word `age`, two numbers after it are the bounds of a range
(`RangeRequest`).  The rule for a single age looks for one number, and does not ask what comes after it; so it
could take the first bound for the age.  It is asked only where no range is requested
(`singleAge_decides_iff`), hence with an order in front it never does (`single_age_is_no_bound`).  Without one,
it does (`bound_taken_for_age`), and so it does behind an order that requests no range
(`bound_taken_behind_order`).
-/

namespace PersonaDialogue

open Place (past past_getLast?)

namespace Intent

open Pattern Text

/-! ### Requests of a range -/

def imperatives : List String := ["should use", "use", "change", "update", "set"]

def ageNouns : List String := ["age", "ages"]

/-- What links the bounds of a range. -/
inductive RangeLink : List Char → Prop
  | hyphen : RangeLink ['-']
  | to {c : Char} (hc : isBlank c = true) : RangeLink ['t', 'o', c]
  | blank {c : Char} (hc : isBlank c = true) : RangeLink [c]

/-- An order stands in the text, and after it nothing but words of the same line. -/
def Orders (front : List Char) : Prop :=
  ∃ before verb filler, front = before ++ (verb ++ filler) ∧ NoWord before.getLast? ∧ IsAny imperatives verb ∧
    Apart filler ∧ '\n' ∉ filler

/-- The text begins with a link and the second number of a range. -/
def BeginsRange (after : List Char) : Prop :=
  ∃ link second rest, after = link ++ (second ++ rest) ∧ Spaced RangeLink link ∧ ShortNumber second ∧
    NoWord rest.head?

/-- A place in a text where a range of ages is requested: an order, later on the line the word for an age, and
then two numbers. -/
structure RangeRequest (s : List Char) where
  front : List Char
  noun : List Char
  gap : List Char
  number : List Char
  after : List Char
  split : s = front ++ (noun ++ (gap ++ (number ++ after)))
  orders : Orders front
  starts : NoWord front.getLast?
  noun_any : IsAny ageNouns noun
  gap_apart : Apart gap
  gap_digitless : ∀ c ∈ gap, isDigit c = false
  number_short : ShortNumber number
  begins : BeginsRange after

section Requests

variable {before : Option Char} {u v after s : List Char} {t : Trace}

/-- What stands between the two numbers in the pattern of a range. -/
def rangeLinks : Pattern := oneOf [word "-", word "to" ++ char .blank, char .blank]

theorem reads_rangeLinks_iff ⦃before : Option Char⦄ ⦃u after : List Char⦄ ⦃t : Trace⦄ :
    rangeLinks.Reads before u after t ↔ RangeLink u ∧ t = [] := by
  rw [rangeLinks, reads_oneOf_iff (List.cons_ne_nil _ _)]
  constructor
  · rintro ⟨p, hp, hread⟩
    simp only [List.mem_cons, List.not_mem_nil, or_false] at hp
    rcases hp with rfl | rfl | rfl
    · obtain ⟨rfl, rfl⟩ := reads_word_iff.1 hread
      exact ⟨.hyphen, rfl⟩
    · obtain ⟨v, w, _, _, rfl, rfl, hword, hchar⟩ := reads_append_iff.1 hread
      obtain ⟨rfl, rfl⟩ := reads_word_iff.1 hword
      obtain ⟨⟨c, rfl, hc⟩, rfl⟩ := reads_char_iff.1 hchar
      exact ⟨.to hc, rfl⟩
    · obtain ⟨⟨c, rfl, hc⟩, rfl⟩ := reads_char_iff.1 hread
      exact ⟨.blank hc, rfl⟩
  · rintro ⟨hyphen | hc | hc, rfl⟩
    · exact ⟨word "-", by simp, reads_word_iff.2 ⟨rfl, rfl⟩⟩
    · exact ⟨word "to" ++ char .blank, by simp, .seq (reads_word_iff.2 ⟨rfl, rfl⟩) (.char hc)⟩
    · exact ⟨char .blank, by simp, .char hc⟩

theorem reads_ageNouns_iff ⦃before : Option Char⦄ ⦃u after : List Char⦄ ⦃t : Trace⦄ :
    (word "age" ++ optional (word "s")).Reads before u after t ↔ IsAny ageNouns u ∧ t = [] := by
  rw [reads_append_iff]
  constructor
  · rintro ⟨v, w, _, _, rfl, rfl, hword, hrest⟩
    obtain ⟨rfl, rfl⟩ := reads_word_iff.1 hword
    rcases reads_optional_iff.1 hrest with hplural | ⟨rfl, rfl⟩
    · obtain ⟨rfl, rfl⟩ := reads_word_iff.1 hplural
      exact ⟨⟨"ages", by decide, by decide⟩, rfl⟩
    · exact ⟨⟨"age", by decide, by decide⟩, rfl⟩
  · rintro ⟨⟨w, hw, rfl⟩, rfl⟩
    have hage : ∀ before after, (word "age").Reads before "age".toList after [] :=
      fun _ _ => reads_word_iff.2 ⟨rfl, rfl⟩
    simp only [ageNouns, List.mem_cons, List.not_mem_nil, or_false] at hw
    rcases hw with rfl | rfl
    · exact ⟨_, [], [], [], by decide, rfl, hage _ _, reads_optional_iff.2 (.inr ⟨rfl, rfl⟩)⟩
    · exact ⟨_, "s".toList, [], [], by decide, rfl, hage _ _,
        reads_optional_iff.2 (.inl (reads_word_iff.2 ⟨rfl, rfl⟩))⟩

theorem imperatives_wordLike : ∀ u, IsAny imperatives u → WordLike u :=
  fun _ hu => hu.of_words WordLike (by decide)

theorem ageNouns_wordLike : ∀ u, IsAny ageNouns u → WordLike u :=
  fun _ hu => hu.of_words WordLike (by decide)

theorem reads_line_iff : (few .notNewline).Reads before u after t ↔ '\n' ∉ u ∧ t = [] := by
  rw [reads_few_iff]
  simp only [CharClass.accepts, bne_iff_ne, ne_eq, and_congr_left_iff]
  exact fun _ => ⟨fun h hmem => h _ hmem rfl, fun h c hc heq => h (heq ▸ hc)⟩

theorem reads_nonDigits_iff :
    (few .nonDigit).Reads before u after t ↔ (∀ c ∈ u, isDigit c = false) ∧ t = [] := by
  rw [reads_few_iff]
  simp only [CharClass.accepts, Bool.not_eq_true']

/-- The two numbers of the pattern of a range, and what stands in front of them. -/
def bounds : Pattern :=
  few .nonDigit ++ (ageNumber 1 ++ (space ++ (rangeLinks ++ (space ++ (ageNumber 2 ++ boundary)))))

theorem reads_bounds_iff : bounds.Reads before v after t ↔
    ∃ gap x g y, v = gap ++ (x ++ (g ++ y)) ∧ (∀ c ∈ gap, isDigit c = false) ∧ ShortNumber x ∧
      Spaced RangeLink g ∧ ShortNumber y ∧ NoWord after.head? ∧ t = numberMarks x g y after := by
  rw [bounds, reads_append_iff]
  constructor
  · rintro ⟨gap, w, _, _, rfl, rfl, hgap, hrest⟩
    obtain ⟨hdigitless, rfl⟩ := reads_nonDigits_iff.1 hgap
    obtain ⟨x, g, y, rfl, hnumbers⟩ := (reads_numbers_iff reads_rangeLinks_iff).1 hrest
    exact ⟨gap, x, g, y, rfl, hdigitless, hnumbers⟩
  · rintro ⟨gap, x, g, y, rfl, hgap, hrest⟩
    exact ⟨gap, _, [], t, rfl, rfl, reads_nonDigits_iff.2 ⟨hgap, rfl⟩,
      (reads_numbers_iff reads_rangeLinks_iff).2 ⟨x, g, y, rfl, hrest⟩⟩

theorem reads_ageRange_iff : ageRange.Reads before v after t ↔
    Place.isBoundary ⟨before, v ++ after⟩ = true ∧
      (anyWord imperatives ++ (boundary ++ (few .notNewline ++ (boundary ++ (word "age" ++ (optional (word "s") ++
        (boundary ++ bounds))))))).Reads before v after t := by
  simp only [ageRange, reads_assoc_iff]
  exact reads_boundary_append_iff

/-- What the pattern of a range reads is a request of a range. -/
theorem exists_request_of_reads (hs : s = u ++ (v ++ after)) (h : ageRange.Reads u.getLast? v after t) :
    Nonempty (RangeRequest s) := by
  obtain ⟨verb, v, rfl, hverb, hbefore, hapart, hrest⟩ :=
    (reads_ownWord_iff (reads_isAny_iff (by decide : imperatives ≠ [])) imperatives_wordLike).1 (reads_ageRange_iff.1 h)
  obtain ⟨filler, v, _, _, rfl, rfl, hfiller, hrest⟩ := reads_append_iff.1 hrest
  obtain ⟨hb, hrest⟩ := reads_boundary_append_iff.1 hrest
  obtain ⟨noun, v, rfl, hnoun, hstarts, hapart', hrest⟩ :=
    (reads_ownWord_iff reads_ageNouns_iff ageNouns_wordLike).1 ⟨hb, reads_assoc_iff.2 hrest⟩
  obtain ⟨gap, x, g, y, rfl, hgap, hx, hg, hy, hends, -⟩ := reads_bounds_iff.1 hrest
  simp only [List.append_assoc] at hs hapart hapart'
  rw [past_getLast?, past_getLast?] at hstarts
  exact ⟨{
    front := u ++ verb ++ filler
    noun := noun
    gap := gap
    number := x
    after := g ++ (y ++ after)
    split := by simp only [hs, List.append_assoc]
    orders := ⟨u, verb, filler, List.append_assoc .., hbefore, hverb,
      (ageNouns_wordLike noun hnoun).apart_of_noWord hapart, (reads_line_iff.1 hfiller).1⟩
    starts := hstarts
    noun_any := hnoun
    gap_apart := hx.wordLike.apart_of_noWord hapart'
    gap_digitless := hgap
    number_short := hx
    begins := ⟨g, y, after, rfl, hg, hy, hends⟩ }⟩

/-- A request of a range is read by the pattern of a range. -/
theorem RangeRequest.reads (r : RangeRequest s) :
    ∃ u v after t, s = u ++ (v ++ after) ∧ ageRange.Reads u.getLast? v after t := by
  obtain ⟨u, verb, filler, hfront, hbefore, hverb, hapart, hline⟩ := r.orders
  obtain ⟨link, second, after, hafter, hlink, hsecond, hends⟩ := r.begins
  have hstarts : NoWord (past (past u.getLast? verb) filler) := by
    rw [past_getLast?, past_getLast?, List.append_assoc, ← hfront]
    exact r.starts
  let tail := r.gap ++ (r.number ++ (link ++ second))
  have hbounds : ∀ before, bounds.Reads before tail after (numberMarks r.number link second after) :=
    fun _ => reads_bounds_iff.2
      ⟨r.gap, r.number, link, second, rfl, r.gap_digitless, r.number_short, hlink, hsecond, hends, rfl⟩
  have hapart' : NoWord (tail ++ after).head? := by
    rw [List.append_assoc]
    exact r.gap_apart.noWord_append _
  obtain ⟨hb, hnoun⟩ := (reads_ownWord_iff reads_ageNouns_iff ageNouns_wordLike).2
    ⟨r.noun, tail, rfl, r.noun_any, hstarts, hapart', hbounds _⟩
  have hfiller := Reads.seq (reads_line_iff.2 ⟨hline, rfl⟩)
    (reads_boundary_append_iff.2 ⟨hb, reads_assoc_iff.1 hnoun⟩)
  have hapart'' : NoWord ((filler ++ (r.noun ++ tail)) ++ after).head? := by
    rw [List.append_assoc]
    exact hapart.noWord_append _
  have hread := (reads_ownWord_iff (reads_isAny_iff (by decide : imperatives ≠ [])) imperatives_wordLike).2
    ⟨verb, filler ++ (r.noun ++ tail), rfl, hverb, hbefore, hapart'', hfiller⟩
  refine ⟨u, verb ++ (filler ++ (r.noun ++ tail)), after, _, r.split.trans ?_, reads_ageRange_iff.2 hread⟩
  simp only [hfront, hafter, tail, List.append_assoc]

/-- **The pattern of a range is found in the texts that request one.** -/
theorem ageRange_find_isSome_iff : (ageRange.find s).isSome = true ↔ Nonempty (RangeRequest s) := by
  rw [find_isSome_iff]
  constructor
  · rintro ⟨u, v, w, t, hs, hread⟩
    exact exists_request_of_reads hs hread
  · rintro ⟨r⟩
    exact r.reads

end Requests

/-! ### Statements of an age -/

def sayings : List String := ["should be", "is", "to", "="]

def hedges : List String := ["around", "about"]

/-- A qualification of an age, or nothing. -/
def IsHedge (u : List Char) : Prop := u = [] ∨ ∃ w g, u = w ++ g ∧ IsAny hedges w ∧ IsGap g

/-- What stands between the word for an age and the age. -/
def IsSaying (u : List Char) : Prop := ∃ v h, u = v ++ h ∧ Spaced (IsAny sayings) v ∧ IsHedge h

/-- A place in a text where an age is stated. -/
structure AgeStatement (s : List Char) where
  front : List Char
  saying : List Char
  number : List Char
  after : List Char
  split : s = front ++ ("age".toList ++ (saying ++ (number ++ after)))
  starts : NoWord front.getLast?
  saying_apart : Apart saying
  saying_states : IsSaying saying
  number_short : ShortNumber number
  ends : NoWord after.head?

theorem IsSaying.digitless {u : List Char} (hu : IsSaying u) : ∀ c ∈ u, isDigit c = false := by
  obtain ⟨v, h, rfl, hv, hh⟩ := hu
  intro c hc
  rcases List.mem_append.1 hc with hc | hc
  · exact hv.digitless (fun _ hd => hd.digitless (by decide)) c hc
  · rcases hh with rfl | ⟨w, g, rfl, hw, -, hg⟩
    · cases hc
    · rcases List.mem_append.1 hc with hc | hc
      · exact hw.digitless (by decide) c hc
      · exact isDigit_of_isBlank (hg c hc)

section Statements

variable {before : Option Char} {u v after s : List Char} {t : Trace}

def hedging : Pattern := optional (oneOf [word "around" ++ gap, word "about" ++ gap])

theorem reads_hedging_iff : hedging.Reads before u after t ↔ IsHedge u ∧ t = [] := by
  have hword : ∀ {w : String}, (word w ++ gap).Reads before u after t ↔
      (∃ g, u = w.toList ++ g ∧ IsGap g) ∧ t = [] := by
    intro w
    rw [reads_append_iff]
    constructor
    · rintro ⟨v, g, _, _, rfl, rfl, hword, hgap⟩
      obtain ⟨rfl, rfl⟩ := reads_word_iff.1 hword
      obtain ⟨hg, rfl⟩ := reads_gap_iff.1 hgap
      exact ⟨⟨g, rfl, hg⟩, rfl⟩
    · rintro ⟨⟨g, rfl, hg⟩, rfl⟩
      exact ⟨_, g, [], [], rfl, rfl, reads_word_iff.2 ⟨rfl, rfl⟩, reads_gap_iff.2 ⟨hg, rfl⟩⟩
  rw [hedging, reads_optional_iff, reads_oneOf_iff (List.cons_ne_nil _ _)]
  simp only [List.mem_cons, List.not_mem_nil, or_false, exists_eq_or_imp, exists_eq_left, hword, IsHedge, IsAny, hedges]
  constructor
  · rintro ((⟨⟨g, rfl, hg⟩, rfl⟩ | ⟨⟨g, rfl, hg⟩, rfl⟩) | ⟨rfl, rfl⟩)
    · exact ⟨.inr ⟨_, g, rfl, .inl rfl, hg⟩, rfl⟩
    · exact ⟨.inr ⟨_, g, rfl, .inr rfl, hg⟩, rfl⟩
    · exact ⟨.inl rfl, rfl⟩
  · rintro ⟨rfl | ⟨w, g, rfl, rfl | rfl, hg⟩, rfl⟩
    · exact .inr ⟨rfl, rfl⟩
    · exact .inl (.inl ⟨⟨g, rfl, hg⟩, rfl⟩)
    · exact .inl (.inr ⟨⟨g, rfl, hg⟩, rfl⟩)

theorem reads_age_iff ⦃before : Option Char⦄ ⦃u after : List Char⦄ ⦃t : Trace⦄ :
    (word "age").Reads before u after t ↔ u = "age".toList ∧ t = [] := reads_word_iff

theorem age_wordLike : ∀ u, u = "age".toList → WordLike u := by
  rintro u rfl
  decide

def numberMark (x after : List Char) : Trace := [.enter 1 (x ++ after), .leave 1 after]

def statedAge : Pattern :=
  space ++ (anyWord sayings ++ (space ++ (hedging ++ (ageNumber 1 ++ boundary))))

theorem reads_statedAge_iff : statedAge.Reads before v after t ↔
    ∃ g x, v = g ++ x ∧ IsSaying g ∧ ShortNumber x ∧ NoWord after.head? ∧ t = numberMark x after := by
  rw [statedAge, ← reads_assoc_iff, ← reads_assoc_iff]
  constructor
  · intro h
    obtain ⟨g, w, _, _, rfl, rfl, hspaced, hrest⟩ := reads_append_iff.1 h
    obtain ⟨q, w, _, _, rfl, rfl, hhedge, hrest⟩ := reads_append_iff.1 hrest
    obtain ⟨x, e, _, _, rfl, rfl, hnumber, hend⟩ := reads_append_iff.1 hrest
    obtain ⟨hg, rfl⟩ := (reads_spaced_iff (reads_isAny_iff (by decide))).1 hspaced
    obtain ⟨hq, rfl⟩ := reads_hedging_iff.1 hhedge
    obtain ⟨hx, rfl⟩ := reads_ageNumber_iff.1 hnumber
    cases hend with
    | boundary hb =>
      rw [hx.wordLike.isBoundary_after_iff] at hb
      exact ⟨g ++ q, x, by simp, ⟨g, q, rfl, hg, hq⟩, hx, hb, by simp [numberMark]⟩
  · rintro ⟨_, x, rfl, ⟨g, q, rfl, hg, hq⟩, hx, hafter, rfl⟩
    have hnumber : ∀ before, (ageNumber 1 ++ boundary).Reads before (x ++ []) after _ := fun before =>
      .seq (reads_ageNumber_iff.2 ⟨hx, rfl⟩) (.boundary (hx.wordLike.isBoundary_after_iff.2 hafter))
    have hspaced : (space ++ anyWord sayings ++ space).Reads before g (q ++ (x ++ []) ++ after) [] :=
      (reads_spaced_iff (reads_isAny_iff (by decide))).2 ⟨hg, rfl⟩
    have hread : (space ++ anyWord sayings ++ space ++ (hedging ++ (ageNumber 1 ++ boundary))).Reads before
        (g ++ (q ++ (x ++ []))) after _ :=
      .seq hspaced (.seq (reads_hedging_iff.2 ⟨hq, rfl⟩) (hnumber _))
    simpa [numberMark] using hread

theorem reads_singleAge_iff : singleAge.Reads before v after t ↔
    ∃ g x, v = "age".toList ++ (g ++ x) ∧ NoWord before ∧ Apart g ∧ IsSaying g ∧ ShortNumber x ∧
      NoWord after.head? ∧ t = numberMark x after := by
  have hparts : singleAge.Reads before v after t ↔ Place.isBoundary ⟨before, v ++ after⟩ = true ∧
      (word "age" ++ (boundary ++ statedAge)).Reads before v after t := by
    simp only [singleAge, reads_assoc_iff]
    exact reads_boundary_append_iff
  rw [hparts, reads_ownWord_iff reads_age_iff age_wordLike]
  constructor
  · rintro ⟨_, w, rfl, rfl, hbefore, hapart, hrest⟩
    obtain ⟨g, x, rfl, hg, hx, hafter, rfl⟩ := reads_statedAge_iff.1 hrest
    rw [List.append_assoc] at hapart
    exact ⟨g, x, rfl, hbefore, hx.wordLike.apart_of_noWord hapart, hg, hx, hafter, rfl⟩
  · rintro ⟨g, x, rfl, hbefore, hapart, hg, hx, hafter, rfl⟩
    refine ⟨_, g ++ x, rfl, rfl, hbefore, ?_, reads_statedAge_iff.2 ⟨g, x, rfl, hg, hx, hafter, rfl⟩⟩
    rw [List.append_assoc]
    exact hapart.noWord_append _

/-- The marks of a single age are the marks of a statement of an age. -/
theorem exists_statement_of_find (h : singleAge.find s = some t) :
    ∃ a : AgeStatement s, t.text? 1 = some a.number ∧ t.left? 1 = some a.after := by
  obtain ⟨u, v, w, hs, hread⟩ := reads_of_find h
  obtain ⟨g, x, rfl, hstarts, hapart, hg, hx, hends, rfl⟩ := reads_singleAge_iff.1 hread
  have hsplit : s = u ++ ("age".toList ++ (g ++ (x ++ w))) := by simpa using hs
  refine ⟨⟨u, g, x, w, hsplit, hstarts, hapart, hg, hx, hends⟩, ?_, ?_⟩
  · simp [numberMark, Trace.text?, Trace.entered?, Trace.left?]
  · simp [numberMark, Trace.left?]

/-- **The pattern of a single age is found in the texts that state one.** -/
theorem singleAge_find_isSome_iff : (singleAge.find s).isSome = true ↔ Nonempty (AgeStatement s) := by
  constructor
  · intro h
    obtain ⟨t, ht⟩ := Option.isSome_iff_exists.1 h
    obtain ⟨a, -, -⟩ := exists_statement_of_find ht
    exact ⟨a⟩
  · rintro ⟨a⟩
    have hread := reads_singleAge_iff.2
      ⟨a.saying, a.number, rfl, a.starts, a.saying_apart, a.saying_states, a.number_short, a.ends, rfl⟩
    exact find_isSome_iff.2 ⟨a.front, _, a.after, _, a.split.trans (by simp), hread⟩

/-- A statement of an age with an order in front and a second number behind is a request of a range. -/
def AgeStatement.request (a : AgeStatement s) (horders : Orders a.front) (hbegins : BeginsRange a.after) :
    RangeRequest s where
  front := a.front
  noun := "age".toList
  gap := a.saying
  number := a.number
  after := a.after
  split := a.split
  orders := horders
  starts := a.starts
  noun_any := ⟨"age", by decide, rfl⟩
  gap_apart := a.saying_apart
  gap_digitless := a.saying_states.digitless
  number_short := a.number_short
  begins := hbegins

end Statements

/-! ### The two rules -/

section Rules

variable {window : UInt32} {message : String} {searched : List Char}

def ageRangeRule : Rule := ⟨"age_range", ageRange, explicit, buildAgeRange⟩

theorem ageRangeRule_mem : ageRangeRule ∈ rules := List.mem_cons_self

theorem ageRangeRule_isFirst_iff : ageRangeRule.IsFirst searched ↔ ageRangeRule.applies searched = true := by
  constructor
  · rintro ⟨earlier, later, hrules, happlies, hearlier⟩
    exact happlies
  · intro happlies
    exact ⟨[], rules.tail, rfl, happlies, fun q hq => nomatch hq⟩

theorem singleAgeRule_isFirst_iff : singleAgeRule.IsFirst searched ↔
    ageRangeRule.applies searched = false ∧ singleAgeRule.applies searched = true := by
  constructor
  · intro hfirst
    have hfind := Rule.isFirst_iff.1 hfirst
    obtain ⟨earlier, later, hrules, happlies, hearlier⟩ := hfirst
    refine ⟨?_, happlies⟩
    cases h : ageRangeRule.applies searched with
    | false => rfl
    | true =>
      have heq := Option.some.inj ((Rule.isFirst_iff.1 (ageRangeRule_isFirst_iff.2 h)).symm.trans hfind)
      have hname : ageRangeRule.name = singleAgeRule.name := congrArg Rule.name heq
      exact absurd hname (by decide)
  · rintro ⟨hrange, happlies⟩
    refine ⟨[ageRangeRule], rules.tail.tail, rfl, happlies, fun q hq => ?_⟩
    rw [List.mem_singleton.1 hq]
    exact hrange

/-- The verdict of a rule is given if the rule is the first that applies, and only then. -/
theorem decides_iff_isFirst {r : Rule} (hr : r ∈ rules) :
    (∃ command, classify window message = some ⟨r.name, command⟩) ↔ r.IsFirst (searchedText message) := by
  constructor
  · rintro ⟨command, h⟩
    obtain ⟨q, hfirst, hname, -⟩ := classify_eq_some_iff.1 h
    rwa [rule_eq_of_name hr hfirst.mem hname]
  · intro hfirst
    have happlies := List.find?_some (Rule.isFirst_iff.1 hfirst)
    obtain ⟨command, hask⟩ := Rule.exists_ask happlies window (trim message.toList)
    exact ⟨command, classify_eq_some_iff.2 ⟨r, hfirst, rfl, hask⟩⟩

/-- **The rule for a range decides if and only if a range is requested.** -/
theorem ageRange_decides_iff : (∃ command, classify window message = some ⟨"age_range", command⟩) ↔
    Nonempty (RangeRequest (searchedText message)) := by
  rw [← ageRange_find_isSome_iff]
  exact (decides_iff_isFirst ageRangeRule_mem).trans ageRangeRule_isFirst_iff

/-- **The rule for a single age decides if and only if an age is stated and no range is requested.** -/
theorem singleAge_decides_iff : (∃ command, classify window message = some ⟨"single_age", command⟩) ↔
    Nonempty (AgeStatement (searchedText message)) ∧ IsEmpty (RangeRequest (searchedText message)) := by
  have hrange : ageRangeRule.applies (searchedText message) = false ↔
      IsEmpty (RangeRequest (searchedText message)) := by
    rw [← not_nonempty_iff, ← ageRange_find_isSome_iff, Bool.not_eq_true]
    rfl
  have hsingle : singleAgeRule.applies (searchedText message) = true ↔
      Nonempty (AgeStatement (searchedText message)) := singleAge_find_isSome_iff
  rw [← hrange, ← hsingle, and_comm, ← singleAgeRule_isFirst_iff]
  exact decides_iff_isFirst singleAgeRule_mem

/-- **Where an order stands in front, a single age is no bound of a range.** -/
theorem single_age_is_no_bound {command : Option Command}
    (h : classify window message = some ⟨"single_age", command⟩) :
    ∃ m : Match, m.IsOf singleAgeRule window message ∧ buildSingleAge m = command ∧
      (∃ a : AgeStatement (searchedText message),
        m.trace.text? 1 = some a.number ∧ m.trace.left? 1 = some a.after) ∧
      ∀ a : AgeStatement (searchedText message), Orders a.front → ¬ BeginsRange a.after := by
  obtain ⟨m, hm, hbuild⟩ := classify_match singleAgeRule_mem h
  have hsearched : m.searched = searchedText message := by rw [hm.searched_eq, hm.message_eq, searchedText]
  have htrace : singleAge.find (searchedText message) = some m.trace := hsearched ▸ hm.trace_eq
  have hempty := (singleAge_decides_iff.1 ⟨command, h⟩).2
  exact ⟨m, hm, hbuild, exists_statement_of_find htrace, fun a horders hbegins =>
    hempty.false (a.request horders hbegins)⟩

/-- An order in front, and another number further on. -/
theorem single_age_is_no_bound_ordered :
    let message := " Set her goal. AGE is about 40 (not 50)"
    let c : Command := ⟨.set, .age, none, some (.ageRange ⟨35, 45⟩), singleValue,
      "Set her goal. AGE is about 40 (not 50)"⟩
    classify 5 message = some ⟨"single_age", some c⟩ ∧ Orders "set her goal. ".toList ∧
      ¬ BeginsRange " (not 50)".toList := by
  intro message c
  have h : classify 5 message = some ⟨"single_age", some c⟩ := by decide +kernel
  have horders : Orders "set her goal. ".toList :=
    ⟨[], "set".toList, " her goal. ".toList, by decide, by decide, ⟨"set", by decide, rfl⟩, by decide, by decide⟩
  let a : AgeStatement (searchedText message) :=
    { front := "set her goal. ".toList
      saying := " is about ".toList
      number := "40".toList
      after := " (not 50)".toList
      split := by decide +kernel
      starts := by decide
      saying_apart := by decide
      saying_states := ⟨" is ".toList, "about ".toList, by decide,
        spaced_of_all (a := [' ']) (d := "is".toList) (b := [' ']) ⟨"is", by decide, rfl⟩ (by decide),
        .inr ⟨"about".toList, [' '], by decide, ⟨"about", by decide, rfl⟩, by decide, List.all_eq_true.1 (by decide)⟩⟩
      number_short := by decide
      ends := by decide }
  obtain ⟨m, hm, hbuild, hmarked, hnone⟩ := single_age_is_no_bound h
  exact ⟨h, horders, hnone a horders⟩

/-- The message is decided by its single age, though a hyphen or `to` and another number follow it. -/
def TakesBound (window : UInt32) (message : String) : Prop :=
  ∃ (command : Option Command) (m : Match) (link second rest : List Char),
    classify window message = some ⟨"single_age", command⟩ ∧ m.IsOf singleAgeRule window message ∧
      m.trace.left? 1 = some (link ++ (second ++ rest)) ∧ Spaced (IsAny pairLinks) link ∧ ShortNumber second

theorem takesBound_of_find (number rest : List Char) {link second : List Char}
    (hlink : Spaced (IsAny pairLinks) link) (hsecond : ShortNumber second)
    (hrule : (classify window message).map Verdict.rule = some "single_age")
    (htext : trim message.toList = message.toList ∧ lowerAscii message.toList = message.toList)
    (hfind : singleAge.find message.toList = some (numberMark number (link ++ (second ++ rest)))) :
    TakesBound window message := by
  obtain ⟨⟨rule, command⟩, hverdict, rfl⟩ := Option.map_eq_some_iff.1 hrule
  let m : Match :=
    ⟨message.toList, numberMark number (link ++ (second ++ rest)), message.toList, singleValue, window⟩
  have hm : m.IsOf singleAgeRule window message := ⟨htext.1.symm, htext.2.symm, hfind, rfl, rfl⟩
  exact ⟨command, m, link, second, rest, hverdict, hm, by simp [m, numberMark, Trace.left?], hlink, hsecond⟩

theorem hyphen_links : Spaced (IsAny pairLinks) ['-'] :=
  spaced_of_all (a := []) (d := ['-']) (b := []) ⟨"-", by decide, rfl⟩ rfl

/-- **Without an order in front, the first bound of a range is taken for a single age.** -/
theorem bound_taken_for_age :
    command? 5 "age should be 18-30" =
        some ⟨.set, .age, none, some (.ageRange ⟨13, 23⟩), singleValue, "age should be 18-30"⟩ ∧
      TakesBound 5 "age should be 18-30" := by
  have hthirty : ShortNumber "30".toList := by decide
  refine ⟨by decide +kernel, ?_⟩
  exact takesBound_of_find "18".toList [] hyphen_links hthirty
    (by decide +kernel) (by decide +kernel) (by decide +kernel)

/-- Behind an order it is so if the order stands on another line, if white space does not follow `to`, or if
the second number goes on as a word. -/
theorem bound_taken_behind_order :
    TakesBound 5 "set the\nage to 18-30" ∧ TakesBound 5 "set age to 18 to30" ∧
      TakesBound 5 "set age to 18-30yrs" := by
  have hthirty : ShortNumber "30".toList := by decide
  have hto : Spaced (IsAny pairLinks) [' ', 't', 'o'] :=
    spaced_of_all (a := [' ']) (d := "to".toList) (b := []) ⟨"to", by decide, rfl⟩ (by decide)
  refine ⟨?_, ?_, ?_⟩
  · exact takesBound_of_find "18".toList [] hyphen_links hthirty
      (by decide +kernel) (by decide +kernel) (by decide +kernel)
  · exact takesBound_of_find "18".toList [] hto hthirty
      (by decide +kernel) (by decide +kernel) (by decide +kernel)
  · exact takesBound_of_find "18".toList "yrs".toList hyphen_links hthirty
      (by decide +kernel) (by decide +kernel) (by decide +kernel)

end Rules

end Intent

end PersonaDialogue
