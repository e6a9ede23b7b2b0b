import Mathlib.Tactic.SplitIfs
import PersonaDialogue.Proofs.Json.Literal
import PersonaDialogue.Proofs.Json.Numeral
import PersonaDialogue.Proofs.Json.Reading

/-!
# Texts that go on

A tree that can be passed over without a fault was read to its end, and what stands behind it has no part in
it: with more text behind, the same tree is read, and what was left is left in front of what was added
(`GoesOn`).  Only a number at the end of the text could take in more, so the text that is added must not go
on with a number.  The reader is six functions that call each other; `Continues` says it of all of them, and
the bound of their nesting is what the induction is on.
-/

namespace PersonaDialogue.Json

/-- If a node that was read can be passed over, some text was left, and the same node is read with `t` left
behind that text. -/
def GoesOn (t : List Char) (before after : Node × Option (List Char)) : Prop :=
  before.1.skip = .ok () → ∃ r, before.2 = some r ∧ after = (before.1, some (r ++ t))

/-- The same of the elements of an array. -/
def ItemsGoOn (t : List Char) (before after : List Node × Option Fault × Option (List Char)) : Prop :=
  skipItems before.1 = .ok () → raise before.2.1 = .ok () →
    ∃ r, before.2.2 = some r ∧ after = (before.1, before.2.1, some (r ++ t))

/-- The same of the members of an object. -/
def MembersGoOn (t : List Char) (before after : MembersRead) : Prop :=
  skipMembers before.1 = .ok () → before.2.1.raise = .ok () →
    ∃ r, before.2.2 = some r ∧ after = (before.1, before.2.1, some (r ++ t))

variable {s t : List Char}

/-! ### Strings, numbers and words -/

theorem skipSpace_append_cons {c : Char} {r : List Char} (h : skipSpace s = c :: r) (t : List Char) :
    skipSpace (s ++ t) = c :: (r ++ t) := by
  rw [skipSpace] at h ⊢
  rw [List.dropWhile_append, h]
  rfl

/-- A string that can be passed over has its closing quote. -/
theorem literal_append (t : List Char) (h : (literal s).1.skip = .ok ()) :
    ∃ r, (literal s).2 = some r ∧ literal (s ++ t) = ((literal s).1, some (r ++ t)) := by
  fun_induction literal s with
  | case1 => cases h
  | case2 s => exact ⟨s, rfl, literal_quote _⟩
  | case3 => cases h
  | case4 a b c d s n hunit _ ih =>
    obtain ⟨r, hrest, hread⟩ := ih h
    refine ⟨r, hrest, ?_⟩
    simp only [List.cons_append]
    rw [literal_unit hunit, hread]
    rfl
  | case5 => cases h
  | case6 => cases h
  | case7 e s he c hc _ ih =>
    obtain ⟨r, hrest, hread⟩ := ih h
    refine ⟨r, hrest, ?_⟩
    simp only [List.cons_append]
    rw [literal_escaped he hc, hread]
    rfl
  | case8 => cases h
  | case9 => cases h
  | case10 c s hquote hslash hc ih =>
    obtain ⟨r, hrest, hread⟩ := ih h
    refine ⟨r, hrest, ?_⟩
    rw [List.cons_append, literal_plain hquote hslash (Nat.not_lt.1 hc), hread]
    rfl

theorem digits_append_stops (ht : Stops t) (s : List Char) :
    digits (s ++ t) = ((digits s).1, (digits s).2 ++ t) := by
  induction s with
  | nil =>
    rw [List.nil_append, digits_of_none fun c hc => (ht c hc).1]
    rfl
  | cons c s ih =>
    rw [List.cons_append, digits, digits]
    cases Text.digitValue? c with
    | none => rfl
    | some d => simp [ih]

theorem GoesOn.noDigits (t rest : List Char) (after : Node × Option (List Char)) :
    GoesOn t (noDigits rest) after := by
  intro h
  simp [Json.noDigits, Node.skip, Attempt.skipped] at h

theorem goesOn_exponent (ht : Stops t) (negative : Bool) (whole fraction : List Nat) (s : List Char) :
    GoesOn t (numeralExponent negative whole fraction s)
      (numeralExponent negative whole fraction (s ++ t)) := by
  fun_cases numeralExponent negative whole fraction s with
  | case1 plain =>
    intro _
    refine ⟨[], rfl, ?_⟩
    cases t with
    | nil => rfl
    | cons c t =>
      obtain ⟨-, -, he, hE⟩ := ht c rfl
      simp [numeralExponent, he, hE, plain]
  | case2 => exact .noDigits t _ _
  | case3 e s he down s' hsign ds rest hds hdigits =>
    intro _
    refine ⟨rest, rfl, ?_⟩
    have happend := digits_append_stops ht s'
    rcases s with _ | ⟨d, s⟩
    · -- No digits follow, not even a sign.
      cases hsign
      cases hdigits
      exact absurd rfl hds
    · unfold numeralExponent
      simp only [List.cons_append, if_pos he]
      by_cases hminus : d = '-'
      · subst hminus
        cases hsign
        simp [happend, hdigits]
      · by_cases hplus : d = '+'
        · subst hplus
          cases hsign
          simp [happend, hdigits]
        · have hunsigned : (down, s') = (false, d :: s) := by
            rw [← hsign]
            split <;> simp_all
          obtain ⟨rfl, rfl⟩ := Prod.mk.inj hunsigned
          rw [List.cons_append] at happend
          simp [hminus, hplus, happend, hdigits]
  | case4 e s he plain =>
    intro _
    refine ⟨e :: s, rfl, ?_⟩
    simp [numeralExponent, he, plain]

theorem goesOn_unsigned (ht : Stops t) (negative : Bool) (s : List Char) :
    GoesOn t (unsignedNumeral negative s) (unsignedNumeral negative (s ++ t)) := by
  have happend := digits_append_stops ht s
  fun_cases unsignedNumeral negative s with
  | case1 => exact .noDigits t _ _
  | case2 => exact nofun
  | case3 => exact .noDigits t _ _
  | case4 whole s' hnone hzero hdigits fraction rest hfraction hdigits' =>
    have hread : unsignedNumeral negative (s ++ t) = numeralExponent negative whole fraction (rest ++ t) := by
      simp [unsignedNumeral, happend, hdigits, digits_append_stops ht s', hdigits']
    rw [hread]
    exact goesOn_exponent ht negative whole fraction rest
  | case5 whole rest hnone hzero hpoint hdigits =>
    have hpoint' : ∀ after, rest ++ t = '.' :: after → False := by
      intro after hafter
      rcases rest with _ | ⟨c, rest⟩
      · exact (ht '.' (by rw [List.nil_append] at hafter; rw [hafter]; rfl)).2.1 rfl
      · exact hpoint rest (by rw [(List.cons.inj hafter).1])
    have hread : unsignedNumeral negative (s ++ t) = numeralExponent negative whole [] (rest ++ t) := by
      simp [unsignedNumeral, happend, hdigits]
    rw [hread]
    exact goesOn_exponent ht negative whole [] rest

theorem goesOn_word (t : List Char) (node : Node) (attempt : Attempt) (word s : List Char) :
    GoesOn t (restOfWord node attempt word s) (restOfWord node attempt word (s ++ t)) := by
  fun_induction restOfWord node attempt word s with
  | case1 s => exact fun _ => ⟨s, rfl, by simp [restOfWord]⟩
  | case2 => exact nofun
  | case3 w ws s ih => simpa [restOfWord] using ih
  | case4 => exact nofun

/-! ### The six functions -/

/-- What the six functions read within a bound goes on within a greater one. -/
structure Continues (t : List Char) (bound greater : Nat) : Prop where
  value : ∀ s, GoesOn t (valueWithin bound s) (valueWithin greater (s ++ t))
  items : ∀ s, ItemsGoOn t (itemsWithin bound s) (itemsWithin greater (s ++ t))
  moreItems : ∀ s, ItemsGoOn t (moreItemsWithin bound s) (moreItemsWithin greater (s ++ t))
  members : ∀ s, MembersGoOn t (membersWithin bound s) (membersWithin greater (s ++ t))
  member : ∀ s, MembersGoOn t (memberWithin bound s) (memberWithin greater (s ++ t))
  moreMembers : ∀ s, MembersGoOn t (moreMembersWithin bound s) (moreMembersWithin greater (s ++ t))

namespace Continues

variable {bound greater : Nat} (h : Continues t bound greater)

theorem zero (t : List Char) (greater : Nat) : Continues t 0 greater where
  value s := by rw [valueWithin]; exact nofun
  items s := by rw [itemsWithin]; exact fun _ => nofun
  moreItems s := by rw [moreItemsWithin]; exact fun _ => nofun
  members s := by rw [membersWithin]; exact fun _ => nofun
  member s := by rw [memberWithin]; exact fun _ => nofun
  moreMembers s := by rw [moreMembersWithin]; exact fun _ => nofun

include h

theorem value_succ (ht : Stops t) (s : List Char) :
    GoesOn t (valueWithin (bound + 1) s) (valueWithin (greater + 1) (s ++ t)) := by
  rw [valueWithin, valueWithin]
  cases hs : skipSpace s with
  | nil => exact nofun
  | cons c s =>
    rw [skipSpace_append_cons hs]
    simp only
    split_ifs
    · -- A string.
      intro hskip
      obtain ⟨r, hrest, hread⟩ := literal_append t hskip
      exact ⟨r, hrest, by rw [hread]⟩
    · -- An array.
      intro hskip
      obtain ⟨_, hitems, hending⟩ := bind_eq_ok hskip
      obtain ⟨r, hrest, hread⟩ := h.items s hitems hending
      exact ⟨r, hrest, by rw [hread]⟩
    · -- An object.
      intro hskip
      obtain ⟨_, hmembers, hending⟩ := bind_eq_ok hskip
      obtain ⟨r, hrest, hread⟩ := h.members s hmembers hending
      exact ⟨r, hrest, by rw [hread]⟩
    · exact goesOn_word t _ _ _ s
    · exact goesOn_word t _ _ _ s
    · exact goesOn_word t _ _ _ s
    · exact goesOn_unsigned ht true s
    · exact goesOn_unsigned ht false (c :: s)
    · exact nofun

theorem items_succ (s : List Char) :
    ItemsGoOn t (itemsWithin (bound + 1) s) (itemsWithin (greater + 1) (s ++ t)) := by
  rw [itemsWithin, itemsWithin]
  cases hs : skipSpace s with
  | nil => exact fun _ => nofun
  | cons c s =>
    rw [skipSpace_append_cons hs]
    simp only
    split_ifs
    · exact fun _ _ => ⟨s, rfl, rfl⟩
    · exact h.moreItems (c :: s)

theorem moreItems_succ (s : List Char) :
    ItemsGoOn t (moreItemsWithin (bound + 1) s) (moreItemsWithin (greater + 1) (s ++ t)) := by
  rw [moreItemsWithin, moreItemsWithin]
  have hvalue := h.value s
  rcases hv : valueWithin bound s with ⟨v, _ | s'⟩
  · intro hitems
    obtain ⟨_, hskip, -⟩ := bind_eq_ok hitems
    rw [hv] at hvalue
    obtain ⟨r, hrest, -⟩ := hvalue hskip
    cases hrest
  · have hafter : v.skip = .ok () → valueWithin greater (s ++ t) = (v, some (s' ++ t)) := by
      intro hskip
      rw [hv] at hvalue
      obtain ⟨r, hrest, hread⟩ := hvalue hskip
      rw [hread, ← Option.some.inj hrest]
    simp only
    cases hs : skipSpace s' with
    | nil => exact fun _ => nofun
    | cons c s'' =>
      have hs' := skipSpace_append_cons hs t
      simp only
      split_ifs with hclose hcomma
      · intro hitems _
        obtain ⟨_, hskip, -⟩ := bind_eq_ok hitems
        refine ⟨s'', rfl, ?_⟩
        rw [hafter hskip]
        simp only [hs', if_pos hclose]
      · intro hitems hending
        obtain ⟨_, hskip, hrest⟩ := bind_eq_ok hitems
        obtain ⟨r, hrest, hread⟩ := h.moreItems s'' hrest hending
        refine ⟨r, hrest, ?_⟩
        rw [hafter hskip]
        simp only [hs', if_neg hclose, if_pos hcomma, hread]
      · exact fun _ => nofun

theorem members_succ (s : List Char) :
    MembersGoOn t (membersWithin (bound + 1) s) (membersWithin (greater + 1) (s ++ t)) := by
  rw [membersWithin, membersWithin]
  cases hs : skipSpace s with
  | nil => exact fun _ => nofun
  | cons c s =>
    rw [skipSpace_append_cons hs]
    simp only
    split_ifs
    · exact fun _ _ => ⟨s, rfl, rfl⟩
    · exact h.member s
    · exact fun _ => nofun

theorem member_succ (s : List Char) :
    MembersGoOn t (memberWithin (bound + 1) s) (memberWithin (greater + 1) (s ++ t)) := by
  rw [memberWithin, memberWithin]
  have hlost : ∀ (key : Literal) (f : Fault) (after : MembersRead),
      MembersGoOn t (lostMember key f) after := by
    intro key f after hmembers
    obtain ⟨_, -, hrest⟩ := bind_eq_ok hmembers
    obtain ⟨_, hbroken, -⟩ := bind_eq_ok hrest
    cases hbroken
  have hkey : (literal s).1.skip = .ok () →
      ∃ r, (literal s).2 = some r ∧ literal (s ++ t) = ((literal s).1, some (r ++ t)) := literal_append t
  rcases hl : literal s with ⟨key, _ | s'⟩
  · exact hlost key _ _
  · have hafterKey : key.skip = .ok () → literal (s ++ t) = (key, some (s' ++ t)) := by
      intro hskip
      rw [hl] at hkey
      obtain ⟨r, hrest, hread⟩ := hkey hskip
      rw [hread, ← Option.some.inj hrest]
    simp only
    cases hs : skipSpace s' with
    | nil => exact hlost key _ _
    | cons c s'' =>
      have hs' := skipSpace_append_cons hs t
      simp only
      split_ifs with hcolon
      · have hvalue := h.value s''
        rcases hv : valueWithin bound s'' with ⟨v, _ | rest⟩
        · intro hmembers
          obtain ⟨_, -, hmembers⟩ := bind_eq_ok hmembers
          obtain ⟨_, hskip, -⟩ := bind_eq_ok hmembers
          rw [hv] at hvalue
          obtain ⟨r, hrest, -⟩ := hvalue hskip
          cases hrest
        · intro hmembers hending
          obtain ⟨_, hskipKey, hmembers⟩ := bind_eq_ok hmembers
          obtain ⟨_, hskip, hmembers⟩ := bind_eq_ok hmembers
          rw [hv] at hvalue
          obtain ⟨r, hrest, hread⟩ := hvalue hskip
          obtain rfl := Option.some.inj hrest
          obtain ⟨r', hrest', hmore⟩ := h.moreMembers rest hmembers hending
          refine ⟨r', hrest', ?_⟩
          rw [hafterKey hskipKey]
          simp only [hs', if_pos hcolon, hread, hmore]
      · exact hlost key _ _

theorem moreMembers_succ (s : List Char) :
    MembersGoOn t (moreMembersWithin (bound + 1) s) (moreMembersWithin (greater + 1) (s ++ t)) := by
  rw [moreMembersWithin, moreMembersWithin]
  cases hs : skipSpace s with
  | nil => exact fun _ => nofun
  | cons c s =>
    rw [skipSpace_append_cons hs]
    simp only
    split_ifs
    · exact fun _ _ => ⟨s, rfl, rfl⟩
    · cases hs : skipSpace s with
      | nil => exact fun _ => nofun
      | cons c s =>
        rw [skipSpace_append_cons hs]
        simp only
        split_ifs
        · exact h.member s
        · exact fun _ => nofun
    · exact fun _ => nofun

theorem succ (ht : Stops t) : Continues t (bound + 1) (greater + 1) where
  value := h.value_succ ht
  items := h.items_succ
  moreItems := h.moreItems_succ
  members := h.members_succ
  member := h.member_succ
  moreMembers := h.moreMembers_succ

end Continues

theorem continues (ht : Stops t) {bound greater : Nat} (h : bound ≤ greater) :
    Continues t bound greater := by
  induction bound generalizing greater with
  | zero => exact .zero t greater
  | succ bound ih =>
    obtain ⟨greater, rfl⟩ := Nat.exists_eq_add_of_le' (Nat.le_trans (Nat.le_add_left 1 bound) h)
    exact (ih (Nat.le_of_succ_le_succ h)).succ ht

/-- A document whose value can be passed over has the same value with more text behind, and then that text
follows the value. -/
theorem ofChars_append (ht : Stops t) (hskip : (Document.ofChars s).root.skip = .ok ())
    (hspace : t.all isSpace = false) :
    Document.ofChars (s ++ t) = ⟨(Document.ofChars s).root, true⟩ := by
  have hbound : 3 * s.length + 3 ≤ 3 * (s ++ t).length + 3 := by
    rw [List.length_append]
    omega
  have hvalue := (continues ht hbound).value s
  unfold Document.ofChars at hskip ⊢
  rcases hv : valueWithin (3 * s.length + 3) s with ⟨v, _ | rest⟩
  · rw [hv] at hvalue hskip
    obtain ⟨r, hrest, -⟩ := hvalue hskip
    cases hrest
  · rw [hv] at hvalue hskip
    obtain ⟨r, hrest, hread⟩ := hvalue hskip
    obtain rfl := Option.some.inj hrest
    rw [hread]
    simp [List.all_append, hspace]

end PersonaDialogue.Json
