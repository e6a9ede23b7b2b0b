import PersonaDialogue.Proofs.Intent.AgeNumber
import PersonaDialogue.Proofs.Intent.Precedence
import PersonaDialogue.Proofs.Pattern.Words

/-!
# Pairs of numbers

Two numbers that only a link stands between, and that are no part of longer words, are a *pair*
(`NumberPair`).  A text is searched for a pair from the left, and only the first one that is there counts
(`embeddedRange?_eq_some_iff`).  So a general statement sets the age if its first pair is a range of ages, and
if another pair comes first, which is none, a range behind it is overlooked (`general_takes_first_pair`).
-/

namespace PersonaDialogue

/-! ### Numbers and what links them -/

namespace Text

/-- A number of one to three digits, of any script. -/
structure ShortNumber (x : List Char) : Prop where
  ne_nil : x ≠ []
  length_le : x.length ≤ 3
  all_digits : ∀ c ∈ x, isDigit c = true

/-- A link with any white space on both sides. -/
def Spaced (link : List Char → Prop) (g : List Char) : Prop :=
  ∃ a d b, g = a ++ (d ++ b) ∧ (∀ c ∈ a, isBlank c = true) ∧ link d ∧ ∀ c ∈ b, isBlank c = true

instance (x : List Char) : Decidable (ShortNumber x) :=
  decidable_of_iff (x ≠ [] ∧ x.length ≤ 3 ∧ x.all isDigit = true)
    ⟨fun h => ⟨h.1, h.2.1, List.all_eq_true.1 h.2.2⟩,
      fun h => ⟨h.ne_nil, h.length_le, List.all_eq_true.2 h.all_digits⟩⟩

variable {x g : List Char} {link : List Char → Prop}

theorem spaced_of_all {a d b : List Char} (hd : link d) (hblank : (a ++ b).all isBlank = true) :
    Spaced link (a ++ (d ++ b)) := by
  have hab := List.all_eq_true.1 hblank
  exact ⟨a, d, b, rfl, fun c hc => hab c (List.mem_append_left b hc), hd,
    fun c hc => hab c (List.mem_append_right a hc)⟩

theorem ShortNumber.head (hx : ShortNumber x) : ∃ c rest, x = c :: rest ∧ isDigit c = true := by
  obtain ⟨c, rest, rfl⟩ := List.exists_cons_of_ne_nil hx.ne_nil
  exact ⟨c, rest, rfl, hx.all_digits c List.mem_cons_self⟩

theorem ShortNumber.wordLike (hx : ShortNumber x) : WordLike x := by
  have hlast : isWord (x.getLast hx.ne_nil) = true :=
    isWord_of_isDigit (hx.all_digits _ (List.getLast_mem hx.ne_nil))
  refine ⟨?_, by simp [List.getLast?_eq_some_getLast hx.ne_nil, hlast]⟩
  obtain ⟨c, rest, rfl, hc⟩ := hx.head
  simp [isWord_of_isDigit hc]

theorem Spaced.digitless (hg : Spaced link g) (hlink : ∀ d, link d → ∀ c ∈ d, isDigit c = false) :
    ∀ c ∈ g, isDigit c = false := by
  obtain ⟨a, d, b, rfl, ha, hd, hb⟩ := hg
  simp only [List.mem_append]
  rintro c (hc | hc | hc)
  · exact isDigit_of_isBlank (ha c hc)
  · exact hlink d hd c hc
  · exact isDigit_of_isBlank (hb c hc)

theorem Spaced.ne_nil (hg : Spaced link g) (hlink : ∀ d, link d → d ≠ []) : g ≠ [] := by
  obtain ⟨a, d, b, rfl, -, hd, -⟩ := hg
  simp [hlink d hd]

end Text

namespace Intent

open Pattern Text

variable {before : Option Char} {v after : List Char} {t : Trace}

theorem reads_ageNumber_iff {index : Nat} : (ageNumber index).Reads before v after t ↔
    ShortNumber v ∧ t = [.enter index (v ++ after), .leave index after] := by
  rw [ageNumber, reads_group_iff]
  constructor
  · rintro ⟨t', hread, rfl⟩
    obtain ⟨⟨hne, hlength, hdigits⟩, rfl⟩ := reads_upTo_iff.1 hread
    exact ⟨⟨hne, hlength, hdigits⟩, rfl⟩
  · rintro ⟨⟨hne, hlength, hdigits⟩, rfl⟩
    exact ⟨[], reads_upTo_iff.2 ⟨⟨hne, hlength, hdigits⟩, rfl⟩, rfl⟩

theorem reads_spaced_iff {p : Pattern} {link : List Char → Prop}
    (hlink : ∀ ⦃before u after t⦄, p.Reads before u after t ↔ link u ∧ t = []) :
    (space ++ p ++ space).Reads before v after t ↔ Spaced link v ∧ t = [] := by
  rw [reads_assoc_iff]
  constructor
  · intro h
    obtain ⟨a, w, _, _, rfl, rfl, hfirst, hrest⟩ := reads_append_iff.1 h
    obtain ⟨d, b, _, _, rfl, rfl, hread, hlast⟩ := reads_append_iff.1 hrest
    obtain ⟨ha, rfl⟩ := reads_many_iff.1 hfirst
    obtain ⟨hd, rfl⟩ := hlink.1 hread
    obtain ⟨hb, rfl⟩ := reads_many_iff.1 hlast
    exact ⟨⟨a, d, b, rfl, ha, hd, hb⟩, rfl⟩
  · rintro ⟨⟨a, d, b, rfl, ha, hd, hb⟩, rfl⟩
    have hread : (p ++ space).Reads (Place.past before a) (d ++ b) after [] :=
      .seq (hlink.2 ⟨hd, rfl⟩) (reads_many_iff.2 ⟨hb, rfl⟩)
    exact .seq (reads_many_iff.2 ⟨ha, rfl⟩) hread

/-- The marks of two numbers with something in between. -/
def numberMarks (x g y after : List Char) : Trace :=
  [.enter 1 (x ++ (g ++ (y ++ after))), .leave 1 (g ++ (y ++ after)), .enter 2 (y ++ after), .leave 2 after]

theorem text?_numberMarks (x g y after : List Char) :
    (numberMarks x g y after).text? 1 = some x ∧ (numberMarks x g y after).text? 2 = some y := by
  simp [numberMarks, Trace.text?, Trace.entered?, Trace.left?]

/-- Two numbers with a link between them, and the end of the word. -/
theorem reads_numbers_iff {p : Pattern} {link : List Char → Prop}
    (hlink : ∀ ⦃before u after t⦄, p.Reads before u after t ↔ link u ∧ t = []) :
    (ageNumber 1 ++ (space ++ (p ++ (space ++ (ageNumber 2 ++ boundary))))).Reads before v after t ↔
      ∃ x g y, v = x ++ (g ++ y) ∧ ShortNumber x ∧ Spaced link g ∧ ShortNumber y ∧ NoWord after.head? ∧
        t = numberMarks x g y after := by
  constructor
  · intro h
    obtain ⟨x, w, _, _, rfl, rfl, hnumber, hrest⟩ := reads_append_iff.1 h
    obtain ⟨g, w, _, _, rfl, rfl, hspaced, hrest⟩ :=
      reads_append_iff.1 (reads_assoc_iff.2 (reads_assoc_iff.2 hrest))
    obtain ⟨y, e, _, _, rfl, rfl, hnumber', hend⟩ := reads_append_iff.1 hrest
    obtain ⟨hx, rfl⟩ := reads_ageNumber_iff.1 hnumber
    obtain ⟨hg, rfl⟩ := (reads_spaced_iff hlink).1 hspaced
    obtain ⟨hy, rfl⟩ := reads_ageNumber_iff.1 hnumber'
    cases hend with
    | boundary hb =>
      rw [hy.wordLike.isBoundary_after_iff] at hb
      exact ⟨x, g, y, by rw [List.append_nil], hx, hg, hy, hb, by simp [numberMarks]⟩
  · rintro ⟨x, g, y, rfl, hx, hg, hy, hafter, rfl⟩
    have hend : boundary.Reads (Place.past (Place.past (Place.past before x) g) y) [] after [] :=
      .boundary (hy.wordLike.isBoundary_after_iff.2 hafter)
    have hrest : ((space ++ p ++ space) ++ (ageNumber 2 ++ boundary)).Reads (Place.past before x)
        (g ++ (y ++ [])) after _ :=
      .seq ((reads_spaced_iff hlink).2 ⟨hg, rfl⟩) (.seq (reads_ageNumber_iff.2 ⟨hy, rfl⟩) hend)
    have hread : (ageNumber 1 ++ (space ++ (p ++ (space ++ (ageNumber 2 ++ boundary))))).Reads before
        (x ++ (g ++ (y ++ []))) after _ :=
      .seq (reads_ageNumber_iff.2 ⟨hx, rfl⟩) (reads_assoc_iff.1 (reads_assoc_iff.1 hrest))
    simpa [numberMarks] using hread

/-! ### Pairs -/

/-- The words that link two numbers in a general statement. -/
def pairLinks : List String := ["-", "to"]

theorem pairLinks_digitless : ∀ d, IsAny pairLinks d → ∀ c ∈ d, isDigit c = false :=
  fun _ hd => hd.digitless (by decide)

theorem pairLinks_ne_nil : ∀ d, IsAny pairLinks d → d ≠ [] :=
  fun _ hd => hd.of_words (· ≠ []) (by decide)

/-- A place in a text where two numbers stand, with a link between them, that no word goes on into on either
side. -/
structure NumberPair (s : List Char) where
  before : List Char
  first : List Char
  link : List Char
  second : List Char
  after : List Char
  split : s = before ++ (first ++ (link ++ second) ++ after)
  first_short : ShortNumber first
  link_spaced : Spaced (IsAny pairLinks) link
  second_short : ShortNumber second
  starts : NoWord before.getLast?
  ends : NoWord after.head?

/-- The two numbers are ages, written in ASCII digits, and the range lies between them. -/
structure NumberPair.Spans {s : List Char} (p : NumberPair s) (range : AgeRange) : Prop where
  ascii : IsAscii p.first ∧ IsAscii p.second
  le_maxAge : decimalValue p.first ≤ 120 ∧ decimalValue p.second ≤ 120
  min_eq : range.min.toNat = Nat.min (decimalValue p.first) (decimalValue p.second)
  max_eq : range.max.toNat = Nat.max (decimalValue p.first) (decimalValue p.second)

/-- The two numbers are the bounds of a range of ages. -/
def NumberPair.IsRange {s : List Char} (p : NumberPair s) : Prop := ∃ range, p.Spans range

/-- No pair begins further to the left. -/
def NumberPair.IsFirst {s : List Char} (p : NumberPair s) : Prop :=
  ∀ q : NumberPair s, p.before.length ≤ q.before.length

/-- Where a run of characters of one kind ends is determined by the text. -/
theorem eq_of_run_append (keep : Char → Bool) {x x' z z' : List Char} (hx : ∀ c ∈ x, keep c = true)
    (hx' : ∀ c ∈ x', keep c = true) (hz : ∀ c ∈ z.head?, keep c = false)
    (hz' : ∀ c ∈ z'.head?, keep c = false) (h : x ++ z = x' ++ z') : x = x' ∧ z = z' := by
  have hrun : ∀ {x z : List Char}, (∀ c ∈ x, keep c = true) → (∀ c ∈ z.head?, keep c = false) →
      (x ++ z).takeWhile keep = x := by
    intro x z hx hz
    have hnil : z.takeWhile keep = [] := by
      cases z with
      | nil => rfl
      | cons c z => exact List.takeWhile_cons_of_neg (by simp [hz c rfl])
    rw [List.takeWhile_append_of_pos hx, hnil, List.append_nil]
  have heq : x = x' := by rw [← hrun hx hz, h, hrun hx' hz']
  subst heq
  exact ⟨rfl, List.append_cancel_left h⟩

namespace NumberPair

variable {s : List Char}

/-- **At any place there is one pair at most.** -/
theorem eq_of_before_length {p q : NumberPair s} (h : p.before.length = q.before.length) : p = q := by
  obtain ⟨b, x, g, y, a, hsplit, hx, hg, hy, hstarts, hends⟩ := p
  obtain ⟨b', x', g', y', a', hsplit', hx', hg', hy', hstarts', hends'⟩ := q
  have hhead : ∀ {g z : List Char}, Spaced (IsAny pairLinks) g → ∀ c ∈ (g ++ z).head?, isDigit c = false := by
    intro g z hg c hc
    have hne := hg.ne_nil pairLinks_ne_nil
    rw [List.head?_append_of_ne_nil _ hne] at hc
    exact hg.digitless pairLinks_digitless c (List.mem_of_head? hc)
  have hdigit : ∀ {y z : List Char}, ShortNumber y → ∀ c ∈ (y ++ z).head?, (!isDigit c) = false := by
    intro y z hy c hc
    obtain ⟨d, rest, rfl, hd⟩ := hy.head
    obtain rfl := Option.some.inj hc
    rw [hd]
    rfl
  obtain ⟨rfl, hrest⟩ := List.append_inj (hsplit.symm.trans hsplit') h
  simp only [List.append_assoc] at hrest
  obtain ⟨rfl, hlinks⟩ := eq_of_run_append isDigit hx.all_digits hx'.all_digits (hhead hg) (hhead hg') hrest
  obtain ⟨rfl, hseconds⟩ := eq_of_run_append (fun c => !isDigit c)
    (fun c hc => by simp [hg.digitless pairLinks_digitless c hc])
    (fun c hc => by simp [hg'.digitless pairLinks_digitless c hc]) (hdigit hy) (hdigit hy') hlinks
  obtain ⟨rfl, rfl⟩ := eq_of_run_append isDigit hy.all_digits hy'.all_digits hends.noDigit hends'.noDigit hseconds
  rfl

theorem Spans.fits {p : NumberPair s} {range : AgeRange} (h : p.Spans range) :
    decimalValue p.first < UInt32.size ∧ decimalValue p.second < UInt32.size := by
  obtain ⟨hfirst, hsecond⟩ := h.le_maxAge
  exact ⟨Nat.lt_of_le_of_lt hfirst (by decide), Nat.lt_of_le_of_lt hsecond (by decide)⟩

/-- The range of a pair is the one that its two numbers make. -/
theorem Spans.between?_eq {p : NumberPair s} {range : AgeRange} (h : p.Spans range) :
    AgeRange.between? (UInt32.ofNat (decimalValue p.first)) (UInt32.ofNat (decimalValue p.second)) = some range := by
  have hfirst := UInt32.toNat_ofNat_of_lt' h.fits.1
  have hsecond := UInt32.toNat_ofNat_of_lt' h.fits.2
  refine AgeRange.between?_of_toNat ?_ ?_ ?_
  · rw [hfirst, hsecond, h.min_eq]
  · rw [hfirst, hsecond, h.max_eq]
  · rw [h.max_eq]
    exact Nat.max_le.2 h.le_maxAge

theorem IsFirst.unique {p q : NumberPair s} (hp : p.IsFirst) (hq : q.IsFirst) : p = q :=
  eq_of_before_length (Nat.le_antisymm (hp q) (hq p))

end NumberPair

/-! ### The search for a pair -/

section Search

variable {s u : List Char}

theorem reads_embeddedRange_iff : embeddedRange.Reads before v after t ↔
    ∃ x g y, v = x ++ (g ++ y) ∧ ShortNumber x ∧ Spaced (IsAny pairLinks) g ∧ ShortNumber y ∧ NoWord before ∧
      NoWord after.head? ∧ t = numberMarks x g y after := by
  have hedge : ∀ {x g y : List Char}, ShortNumber x →
      (Place.isBoundary ⟨before, x ++ (g ++ y) ++ after⟩ = true ↔ NoWord before) := by
    intro x g y hx
    rw [List.append_assoc]
    exact hx.wordLike.isBoundary_before_iff
  have hparts : embeddedRange.Reads before v after t ↔
      Place.isBoundary ⟨before, v ++ after⟩ = true ∧ (ageNumber 1 ++ (space ++ (anyWord pairLinks ++
        (space ++ (ageNumber 2 ++ boundary))))).Reads before v after t := by
    simp only [embeddedRange, reads_assoc_iff]
    exact reads_boundary_append_iff
  rw [hparts, reads_numbers_iff (reads_isAny_iff (by decide : pairLinks ≠ []))]
  constructor
  · rintro ⟨hb, x, g, y, rfl, hx, hg, hy, hafter, rfl⟩
    exact ⟨x, g, y, rfl, hx, hg, hy, (hedge hx).1 hb, hafter, rfl⟩
  · rintro ⟨x, g, y, rfl, hx, hg, hy, hbefore, hafter, rfl⟩
    exact ⟨(hedge hx).2 hbefore, x, g, y, rfl, hx, hg, hy, hafter, rfl⟩

theorem NumberPair.reads (p : NumberPair s) : embeddedRange.Reads p.before.getLast?
    (p.first ++ (p.link ++ p.second)) p.after (numberMarks p.first p.link p.second p.after) :=
  reads_embeddedRange_iff.2 ⟨_, _, _, rfl, p.first_short, p.link_spaced, p.second_short, p.starts, p.ends, rfl⟩

/-- **The pair that is found is the first one.** -/
theorem exists_pair_of_find (h : embeddedRange.find s = some t) :
    ∃ p : NumberPair s, p.IsFirst ∧ t.text? 1 = some p.first ∧ t.text? 2 = some p.second := by
  obtain ⟨u, v, w, hs, hread, hleftmost⟩ := find_leftmost h
  obtain ⟨x, g, y, rfl, hx, hg, hy, hstarts, hends, rfl⟩ := reads_embeddedRange_iff.1 hread
  obtain ⟨hfirst, hsecond⟩ := text?_numberMarks x g y w
  refine ⟨⟨u, x, g, y, w, hs, hx, hg, hy, hstarts, hends⟩, fun q => ?_, hfirst, hsecond⟩
  exact hleftmost q.before _ q.after _ q.split q.reads

/-- Where there is a pair, one is found. -/
theorem exists_find_of_pair (p : NumberPair s) : ∃ t, embeddedRange.find s = some t :=
  Option.isSome_iff_exists.1 (find_isSome_iff.2 ⟨p.before, _, p.after, _, p.split, p.reads⟩)

/-- The first pair of a text decides which range the text contains, if any. -/
theorem embeddedRange?_eq_some_iff {range : AgeRange} :
    embeddedRange? s = some range ↔ ∃ p : NumberPair s, p.IsFirst ∧ p.Spans range := by
  constructor
  · intro h
    obtain ⟨trace, htrace, h⟩ := Option.bind_eq_some_iff.1 h
    obtain ⟨a, ha, h⟩ := Option.bind_eq_some_iff.1 h
    obtain ⟨b, hb, h⟩ := Option.bind_eq_some_iff.1 h
    obtain ⟨p, hp, hfirst, hsecond⟩ := exists_pair_of_find htrace
    obtain ⟨digits, htext, hascii, hvalue⟩ := Match.number?_eq_some ha
    obtain ⟨digits', htext', hascii', hvalue'⟩ := Match.number?_eq_some hb
    obtain rfl := Option.some.inj (hfirst.symm.trans htext)
    obtain rfl := Option.some.inj (hsecond.symm.trans htext')
    obtain ⟨hmin, hmax, hle⟩ := AgeRange.between?_toNat h
    rw [← hvalue, ← hvalue'] at hmin hmax
    rw [hmax] at hle
    exact ⟨p, hp, ⟨hascii, hascii'⟩, ⟨(Nat.le_max_left _ _).trans hle, (Nat.le_max_right _ _).trans hle⟩, hmin, hmax⟩
  · rintro ⟨p, hp, hspans⟩
    obtain ⟨trace, htrace⟩ := exists_find_of_pair p
    obtain ⟨q, hq, hfirst, hsecond⟩ := exists_pair_of_find htrace
    obtain rfl := hp.unique hq
    let m : Match := ⟨s, trace, s, embedded, 0⟩
    have hnumber : m.number? 1 = some (UInt32.ofNat (decimalValue p.first)) :=
      Match.number?_of_digits hfirst p.first_short.ne_nil hspans.ascii.1 hspans.fits.1
    have hnumber' : m.number? 2 = some (UInt32.ofNat (decimalValue p.second)) :=
      Match.number?_of_digits hsecond p.second_short.ne_nil hspans.ascii.2 hspans.fits.2
    rw [← hspans.between?_eq]
    simp [embeddedRange?, htrace, m, hnumber, hnumber']

end Search

/-! ### General statements -/

/-- The command that a general statement gives: to set the age to the range that it contains, or else to change
something. -/
def generalCommand (message : String) : Option AgeRange → Command
  | some range => ⟨.set, .age, none, some (.ageRange range), embedded, String.ofList (trim message.toList)⟩
  | none => ⟨.update, .primaryPersona, none, none, vague, String.ofList (trim message.toList)⟩

theorem generalCommand_inj {message : String} {found found' : Option AgeRange} :
    generalCommand message found = generalCommand message found' ↔ found = found' := by
  cases found <;> cases found' <;> simp [generalCommand]

theorem command_of_general {window : UInt32} {message : String} {command : Option Command}
    (h : classify window message = some ⟨generalRule.name, command⟩) :
    command = some (generalCommand message (embeddedRange? (searchedText message))) := by
  obtain ⟨m, hm, rfl⟩ := classify_match generalRule_mem h
  have hclamped : vague.clamped = vague ∧ embedded.clamped = embedded :=
    ⟨clamped_of_mem _ (by simp [confidences]), clamped_of_mem _ (by simp [confidences])⟩
  have hconfidence : m.confidence = vague := hm.confidence_eq
  have hsearched : lowerAscii m.message = searchedText message := by rw [hm.message_eq, searchedText]
  show buildGeneral m = _
  rw [buildGeneral, hsearched]
  cases embeddedRange? (searchedText message) with
  | some range =>
    simp [generalCommand, Match.setRange, Match.command, Command.of, Command.withConfidence, Command.withOperand,
      hm.message_eq, hclamped]
  | none =>
    simp [generalCommand, Match.command, Command.of, Command.withConfidence, hm.message_eq, hconfidence, hclamped]

/-- **A general statement sets the age if and only if its first pair of numbers is a range of ages.**  So a range
that it contains is found, unless another pair of numbers that is none begins further to the left. -/
theorem general_takes_first_pair {window : UInt32} {message : String} {command : Option Command}
    (h : classify window message = some ⟨"persona_generic", command⟩) :
    (∀ range, command = some (generalCommand message (some range)) ↔
      ∃ p : NumberPair (searchedText message), p.IsFirst ∧ p.Spans range) ∧
    (command = some (generalCommand message none) ↔
      ∀ p : NumberPair (searchedText message), p.IsFirst → ¬ p.IsRange) ∧
    ∀ e : NumberPair (searchedText message), e.IsRange →
      (∀ p : NumberPair (searchedText message), p.before.length < e.before.length → p.IsRange) →
      ∃ (p : NumberPair (searchedText message)) (range : AgeRange),
        p.Spans range ∧ command = some (generalCommand message (some range)) := by
  have hcommand : ∀ found, command = some (generalCommand message found) ↔
      embeddedRange? (searchedText message) = found := by
    intro found
    rw [command_of_general h, Option.some_inj, generalCommand_inj]
  have hset : ∀ range, command = some (generalCommand message (some range)) ↔
      ∃ p : NumberPair (searchedText message), p.IsFirst ∧ p.Spans range :=
    fun range => (hcommand (some range)).trans embeddedRange?_eq_some_iff
  refine ⟨hset, ?_, fun e he hearlier => ?_⟩
  · rw [hcommand, Option.eq_none_iff_forall_ne_some]
    simp only [ne_eq, embeddedRange?_eq_some_iff, not_exists, not_and, NumberPair.IsRange]
    exact ⟨fun hnone p hp range => hnone range p hp, fun hnone range p hp => hnone p hp range⟩
  · obtain ⟨t, ht⟩ := exists_find_of_pair e
    obtain ⟨p, hp, -⟩ := exists_pair_of_find ht
    have hrange : p.IsRange := by
      rcases Nat.lt_or_eq_of_le (hp e) with hlt | heq
      · exact hearlier p hlt
      · rwa [NumberPair.eq_of_before_length heq]
    obtain ⟨range, hspans⟩ := hrange
    exact ⟨p, range, hspans, (hset range).2 ⟨p, hp, hspans⟩⟩

/-- A range with the greater age first and the link in capitals; its second number begins a pair that is no range. -/
theorem general_takes_first_pair_reversed :
    let message := "Fix personas: 45TO 35-200"
    classify 5 message = some ⟨"persona_generic", some (generalCommand message (some ⟨35, 45⟩))⟩ ∧
      ∃ p : NumberPair (searchedText message), p.IsFirst ∧ p.Spans ⟨35, 45⟩ := by
  intro message
  have h : classify 5 message = some ⟨"persona_generic", some (generalCommand message (some ⟨35, 45⟩))⟩ := by
    decide +kernel
  exact ⟨h, ((general_takes_first_pair h).1 ⟨35, 45⟩).1 rfl⟩

instance (x : List Char) : Decidable (IsAscii x) := List.decidableBAll _ x

/-- **A range of ages behind another pair of numbers is overlooked.** -/
theorem range_behind_pair_overlooked :
    let message := "fix personas, not 1-200 but 25-35"
    (∃ e : NumberPair (searchedText message), e.Spans ⟨25, 35⟩) ∧
      classify 5 message = some ⟨"persona_generic", some (generalCommand message none)⟩ := by
  intro message
  have hlink : Spaced (IsAny pairLinks) ['-'] :=
    spaced_of_all (a := []) (d := ['-']) (b := []) ⟨"-", by decide, rfl⟩ rfl
  let e : NumberPair (searchedText message) :=
    { before := "fix personas, not 1-200 but ".toList
      first := "25".toList
      link := ['-']
      second := "35".toList
      after := []
      split := by decide +kernel
      first_short := by decide
      link_spaced := hlink
      second_short := by decide
      starts := by decide
      ends := by decide }
  have hfirst : IsAscii "25".toList ∧ decimalValue "25".toList = 25 := by decide
  have hsecond : IsAscii "35".toList ∧ decimalValue "35".toList = 35 := by decide
  have hspans : e.Spans ⟨25, 35⟩ :=
    { ascii := ⟨hfirst.1, hsecond.1⟩
      le_maxAge := ⟨hfirst.2.trans_le (by decide), hsecond.2.trans_le (by decide)⟩
      min_eq := (congrArg₂ Nat.min hfirst.2 hsecond.2).symm
      max_eq := (congrArg₂ Nat.max hfirst.2 hsecond.2).symm }
  exact ⟨⟨e, hspans⟩, by decide +kernel⟩

end Intent

end PersonaDialogue
