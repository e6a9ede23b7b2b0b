import PersonaDialogue.Proofs.Pattern.Backtrack

/-!
# What a pattern reads

`p.Reads before u after t` says that the pattern `p` reads the text `u` between the character `before`
and the text `after`, and sets the marks `t` on the way.  The relation knows nothing of an order among
choices.  A pattern is found in a text iff it reads some block of the text (`Pattern.find_isSome_iff`),
and the marks that are found are marks of such a reading (`Pattern.reads_of_find`), of one that begins as far
to the left as any (`Pattern.find_leftmost`).
-/

namespace PersonaDialogue

/-- The character before what follows `u`, when `before` precedes `u`. -/
def Place.past (before : Option Char) (u : List Char) : Option Char := u.getLast?.or before

namespace Place

theorem past_append (before : Option Char) (u v : List Char) :
    past before (u ++ v) = past (past before u) v := by
  simp [past, List.getLast?_append, Option.or_assoc]

theorem past_cons (before : Option Char) (c : Char) (u : List Char) :
    past before (c :: u) = past (some c) u := past_append before [c] u

theorem past_getLast? (u v : List Char) : past u.getLast? v = (u ++ v).getLast? := by
  rw [past, List.getLast?_append]

theorem mem_all {before : Option Char} {s : List Char} {x : Place} :
    x ∈ all before s ↔ ∃ u, s = u ++ x.rest ∧ x.before = past before u := by
  induction s generalizing before with
  | nil =>
    constructor
    · intro h
      obtain rfl := List.mem_singleton.1 h
      exact ⟨[], rfl, rfl⟩
    · rintro ⟨u, hs, hb⟩
      obtain ⟨rfl, hr⟩ := List.append_eq_nil_iff.1 hs.symm
      obtain ⟨b, r⟩ := x
      obtain rfl : r = [] := hr
      obtain rfl : b = before := hb
      exact List.mem_singleton_self _
  | cons c s ih =>
    rw [all, List.mem_cons, ih]
    constructor
    · rintro (rfl | ⟨u, rfl, hb⟩)
      · exact ⟨[], rfl, rfl⟩
      · exact ⟨c :: u, rfl, by rw [past_cons, hb]⟩
    · rintro ⟨u, hs, hb⟩
      cases u with
      | nil =>
        left
        obtain ⟨b, r⟩ := x
        obtain rfl : c :: s = r := hs
        obtain rfl : b = before := hb
        rfl
      | cons d u =>
        obtain ⟨rfl, rfl⟩ := List.cons_eq_cons.1 hs
        exact .inr ⟨u, rfl, by rw [hb, past_cons]⟩

end Place

namespace Pattern

open Place (past past_append past_cons)

/-- The pattern reads the text `u` between `before` and `after`, and sets the marks `t`. -/
inductive Reads : Pattern → Option Char → List Char → List Char → Trace → Prop
  | nothing {before after} : Reads nothing before [] after []
  | char {cls before c after} (h : cls.accepts c = true) : Reads (char cls) before [c] after []
  | seq {p q before u v after t t'} (hp : Reads p before u (v ++ after) t)
      (hq : Reads q (past before u) v after t') : Reads (seq p q) before (u ++ v) after (t ++ t')
  | first {p q before u after t} (hp : Reads p before u after t) : Reads (either p q) before u after t
  | second {p q before u after t} (hq : Reads q before u after t) : Reads (either p q) before u after t
  | run {cls most eager before u after} (hu : ∀ c ∈ u, cls.accepts c = true)
      (hmost : ∀ n, most = some n → u.length ≤ n) : Reads (run cls most eager) before u after []
  | group {index p before u after t} (hp : Reads p before u after t) :
      Reads (group index p) before u after (.enter index (u ++ after) :: (t ++ [.leave index after]))
  | boundary {before after} (h : Place.isBoundary ⟨before, after⟩ = true) :
      Reads boundary before [] after []
  | start {after} : Reads start none [] after []
  | stop {before} : Reads stop before [] [] []

/-! ### The search takes readings -/

theorem prefer_eq_some {eager : Bool} {a b : Option Trace} {t : Trace}
    (h : Column.prefer eager a b = some t) : a = some t ∨ b = some t := by
  cases eager with
  | true => exact (Option.or_eq_some_iff.1 (by simpa [Column.prefer] using h)).imp_right And.right
  | false =>
    exact (Option.or_eq_some_iff.1 (by simpa [Column.prefer] using h)).elim .inr fun h => .inl h.2

theorem prefer_isSome {eager : Bool} {a b : Option Trace} :
    (Column.prefer eager a b).isSome = true ↔ a.isSome = true ∨ b.isSome = true := by
  cases eager <;> simp [Column.prefer, or_comm]

theorem goOnRun_reads {cls : CharClass} {eager : Bool} {k : Onward} {most : Option Nat}
    {before : Option Char} {s : List Char} {t : Trace} (h : goOnRun cls eager k most before s = some t) :
    ∃ u v, s = u ++ v ∧ (∀ c ∈ u, cls.accepts c = true) ∧ (∀ n, most = some n → u.length ≤ n) ∧
      k ⟨past before u, v⟩ = some t := by
  induction s generalizing most before with
  | nil => exact ⟨[], [], rfl, by simp, by simp, h⟩
  | cons c s ih =>
    rcases prefer_eq_some h with hmore | hdone
    · obtain ⟨⟨hmost, hc⟩, hrun⟩ := Option.ite_none_right_eq_some.1 hmore
      obtain ⟨u, v, rfl, hu, hlen, hk⟩ := ih hrun
      refine ⟨c :: u, v, rfl, by simpa [hc] using hu, ?_, by rwa [past_cons]⟩
      intro n hn
      have hle := hlen (n - 1) (by simp [hn])
      have hn0 : n ≠ 0 := fun h0 => hmost (by rw [hn, h0])
      rw [List.length_cons]
      omega
    · exact ⟨[], c :: s, rfl, by simp, by simp, hdone⟩

/-- What the search answers at a place comes from a reading, and from what `k` says after it. -/
theorem goOn_reads {p : Pattern} {k : Onward} {before : Option Char} {s : List Char} {t : Trace}
    (h : p.goOn k ⟨before, s⟩ = some t) :
    ∃ u v t₁ t₂, s = u ++ v ∧ p.Reads before u v t₁ ∧ k ⟨past before u, v⟩ = some t₂ ∧ t = t₁ ++ t₂ := by
  induction p generalizing k before s t with
  | nothing => exact ⟨[], s, [], t, rfl, .nothing, h, rfl⟩
  | char cls =>
    cases s with
    | nil => simp [goOn] at h
    | cons c s =>
      obtain ⟨hc, hk⟩ := Option.ite_none_right_eq_some.1 h
      exact ⟨[c], s, [], t, rfl, .char hc, hk, rfl⟩
  | seq p q ihp ihq =>
    obtain ⟨u, w, t₁, t', rfl, hp, hrest, rfl⟩ := ihp h
    obtain ⟨v, w, t₂, t₃, rfl, hq, hk, rfl⟩ := ihq hrest
    exact ⟨u ++ v, w, t₁ ++ t₂, t₃, (List.append_assoc ..).symm, .seq hp hq, by rwa [past_append],
      (List.append_assoc ..).symm⟩
  | either p q ihp ihq =>
    rcases Option.or_eq_some_iff.1 (by simpa [goOn] using h) with hfirst | ⟨-, hsecond⟩
    · obtain ⟨u, v, t₁, t₂, rfl, hp, hk, rfl⟩ := ihp hfirst
      exact ⟨u, v, t₁, t₂, rfl, .first hp, hk, rfl⟩
    · obtain ⟨u, v, t₁, t₂, rfl, hq, hk, rfl⟩ := ihq hsecond
      exact ⟨u, v, t₁, t₂, rfl, .second hq, hk, rfl⟩
  | run cls most eager =>
    obtain ⟨u, v, rfl, hu, hlen, hk⟩ := goOnRun_reads h
    exact ⟨u, v, [], t, rfl, .run hu hlen, hk, rfl⟩
  | group index p ih =>
    obtain ⟨t', hinner, rfl⟩ := Option.map_eq_some_iff.1 h
    obtain ⟨u, v, t₁, t₂, rfl, hp, hleave, rfl⟩ := ih hinner
    obtain ⟨t₃, hk, rfl⟩ := Option.map_eq_some_iff.1 hleave
    exact ⟨u, v, _, t₃, rfl, .group hp, hk, by simp⟩
  | boundary =>
    obtain ⟨hb, hk⟩ := Option.ite_none_right_eq_some.1 h
    exact ⟨[], s, [], t, rfl, .boundary hb, hk, rfl⟩
  | start =>
    obtain ⟨hb, hk⟩ := Option.ite_none_right_eq_some.1 h
    obtain rfl : before = none := Option.isNone_iff_eq_none.1 hb
    exact ⟨[], s, [], t, rfl, .start, hk, rfl⟩
  | stop =>
    obtain ⟨hb, hk⟩ := Option.ite_none_right_eq_some.1 h
    obtain rfl : s = [] := List.isEmpty_iff.1 hb
    exact ⟨[], [], [], t, rfl, .stop, hk, rfl⟩

/-! ### The search misses no reading -/

theorem goOnRun_isSome {cls : CharClass} {eager : Bool} {k : Onward} {most : Option Nat}
    {before : Option Char} {u v : List Char} (hu : ∀ c ∈ u, cls.accepts c = true)
    (hmost : ∀ n, most = some n → u.length ≤ n) (hk : (k ⟨past before u, v⟩).isSome = true) :
    (goOnRun cls eager k most before (u ++ v)).isSome = true := by
  induction u generalizing most before with
  | nil =>
    cases v with
    | nil => exact hk
    | cons c v => exact prefer_isSome.2 (.inr hk)
  | cons c u ih =>
    have hpositive : most ≠ some 0 := fun h0 => by simpa using hmost 0 h0
    refine prefer_isSome.2 (.inl ?_)
    rw [if_pos ⟨hpositive, hu c List.mem_cons_self⟩]
    refine ih (fun d hd => hu d (List.mem_cons_of_mem c hd)) ?_ (by rwa [past_cons] at hk)
    intro n hn
    obtain ⟨m, rfl, rfl⟩ := Option.map_eq_some_iff.1 hn
    have hle := hmost m rfl
    rw [List.length_cons] at hle
    omega

/-- Where a pattern reads a text and the match can go on after it, the search finds an answer. -/
theorem goOn_isSome {p : Pattern} {k : Onward} {before : Option Char} {u v : List Char} {t : Trace}
    (h : p.Reads before u v t) (hk : (k ⟨past before u, v⟩).isSome = true) :
    (p.goOn k ⟨before, u ++ v⟩).isSome = true := by
  induction h generalizing k with
  | nothing => exact hk
  | char hc =>
    simp only [goOn, List.singleton_append, if_pos hc]
    exact hk
  | seq hp hq ihp ihq =>
    rw [List.append_assoc]
    exact ihp (ihq (by rwa [← past_append]))
  | first hp ih => simp [goOn, ih hk]
  | second hq ih => simp [goOn, ih hk]
  | run hu hmost => exact goOnRun_isSome hu hmost hk
  | group hp ih =>
    rw [goOn, Option.isSome_map]
    exact ih (by rwa [Option.isSome_map])
  | boundary hb =>
    simp only [goOn, List.nil_append, if_pos hb]
    exact hk
  | start => exact hk
  | stop => exact hk

/-! ### Finding -/

/-- **The marks of a match are the marks of a reading.** -/
theorem reads_of_find {p : Pattern} {s : List Char} {t : Trace} (h : p.find s = some t) :
    ∃ u v w, s = u ++ (v ++ w) ∧ p.Reads u.getLast? v w t := by
  rw [find_eq] at h
  obtain ⟨x, hx, hgo⟩ := List.exists_of_findSome?_eq_some h
  obtain ⟨u, hs, hb⟩ := Place.mem_all.1 hx
  obtain ⟨v, w, t₁, t₂, hrest, hp, ht, rfl⟩ := goOn_reads (s := x.rest) hgo
  obtain rfl : [] = t₂ := Option.some.inj ht
  rw [hb, past, Option.or_none] at hp
  exact ⟨u, v, w, by rw [← hrest]; exact hs, by rwa [List.append_nil]⟩

/-- **A pattern is found in a text iff it reads some block of it.** -/
theorem find_isSome_iff {p : Pattern} {s : List Char} :
    (p.find s).isSome = true ↔ ∃ u v w t, s = u ++ (v ++ w) ∧ p.Reads u.getLast? v w t := by
  constructor
  · intro h
    obtain ⟨t, ht⟩ := Option.isSome_iff_exists.1 h
    obtain ⟨u, v, w, hs, hp⟩ := reads_of_find ht
    exact ⟨u, v, w, t, hs, hp⟩
  · rintro ⟨u, v, w, t, rfl, hp⟩
    rw [find_eq, List.findSome?_isSome_iff]
    refine ⟨⟨u.getLast?, v ++ w⟩, Place.mem_all.2 ⟨u, rfl, by simp [past]⟩, ?_⟩
    exact goOn_isSome hp rfl

/-- The first place that has an answer, and no place before it has one. -/
theorem first_of_findSome? {f : Onward} {before : Option Char} {s : List Char} {t : Trace}
    (h : (Place.all before s).findSome? f = some t) :
    ∃ u rest, s = u ++ rest ∧ f ⟨past before u, rest⟩ = some t ∧
      ∀ u' rest', s = u' ++ rest' → u'.length < u.length → f ⟨past before u', rest'⟩ = none := by
  induction s generalizing before with
  | nil => exact ⟨[], [], rfl, by rwa [Place.all, List.findSome?_singleton] at h, fun u' _ _ hlt => nomatch hlt⟩
  | cons c s ih =>
    rw [Place.all, List.findSome?_cons] at h
    cases hhere : f ⟨before, c :: s⟩ with
    | some t' =>
      rw [hhere] at h
      exact ⟨[], c :: s, rfl, hhere.trans h, fun u' _ _ hlt => nomatch hlt⟩
    | none =>
      rw [hhere] at h
      obtain ⟨u, rest, rfl, hanswer, hearlier⟩ := ih h
      refine ⟨c :: u, rest, rfl, by rwa [past_cons], fun u' rest' hs hlt => ?_⟩
      cases u' with
      | nil =>
        obtain rfl : c :: (u ++ rest) = rest' := hs
        exact hhere
      | cons d u' =>
        obtain ⟨rfl, htail⟩ := List.cons_eq_cons.1 hs
        rw [past_cons]
        exact hearlier u' rest' htail (Nat.lt_of_succ_lt_succ hlt)

/-- **The match is a leftmost one**: no reading begins at an earlier place. -/
theorem find_leftmost {p : Pattern} {s : List Char} {t : Trace} (h : p.find s = some t) :
    ∃ u v w, s = u ++ (v ++ w) ∧ p.Reads u.getLast? v w t ∧
      ∀ u' v' w' t', s = u' ++ (v' ++ w') → p.Reads u'.getLast? v' w' t' → u.length ≤ u'.length := by
  have hpast : ∀ u : List Char, past none u = u.getLast? := fun u => by rw [past, Option.or_none]
  rw [find_eq] at h
  obtain ⟨u, rest, hs, hgo, hearlier⟩ := first_of_findSome? h
  obtain ⟨v, w, t₁, t₂, rfl, hread, hdone, rfl⟩ := goOn_reads hgo
  obtain rfl : [] = t₂ := Option.some.inj hdone
  rw [hpast] at hread
  refine ⟨u, v, w, hs, by rwa [List.append_nil], fun u' v' w' t' hs' hread' => Nat.le_of_not_lt fun hlt => ?_⟩
  have hnone := hearlier u' (v' ++ w') hs' hlt
  rw [← hpast] at hread'
  have hsome := goOn_isSome (k := fun _ => some []) hread' rfl
  rw [hnone] at hsome
  cases hsome

end Pattern

end PersonaDialogue
