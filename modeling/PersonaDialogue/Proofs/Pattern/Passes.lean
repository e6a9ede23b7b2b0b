import PersonaDialogue.Proofs.Pattern.Front

/-!
# Places that a pattern passes in one way only

`p.Passes before u rest` says that the search for `p` before `u ++ rest` comes down to one question: how the
match goes on after `u`.  Nothing is left to choose there, whatever follows the pattern, so a search can be
followed over the known beginning of a text as if the pattern were not there.
-/

namespace PersonaDialogue.Pattern

open Place (past past_append)

variable {p q r : Pattern} {before : Option Char} {u v s rest : List Char}

/-- The search for the pattern goes on after `u`, and nowhere else. -/
def Passes (p : Pattern) (before : Option Char) (u rest : List Char) : Prop :=
  ∀ k : Onward, p.goOn k ⟨before, u ++ rest⟩ = k ⟨past before u, rest⟩

/-- The pattern reads nothing of the text, not even the empty text. -/
def Silent (p : Pattern) (before : Option Char) (s : List Char) : Prop :=
  ∀ u v t, s = u ++ v → ¬ p.Reads before u v t

theorem Silent.goOn_eq (h : p.Silent before s) (k : Onward) : p.goOn k ⟨before, s⟩ = none := by
  refine Option.eq_none_iff_forall_ne_some.2 fun t ht => ?_
  obtain ⟨u, v, t₁, -, hs, hread, -, -⟩ := goOn_reads ht
  exact h u v t₁ hs hread

theorem StartsWith.silent {w : String} (hp : p.StartsWith w) (hw : ¬ w.toList <+: s) :
    p.Silent before s := by
  rintro u v t rfl hread
  exact hw ((hp hread).trans (List.prefix_append u v))

theorem silent_char {cls : CharClass} {c : Char} (hc : cls.accepts c = false) :
    (char cls).Silent before (c :: s) := by
  intro u v t hs hread
  obtain ⟨⟨d, rfl, hd⟩, -⟩ := reads_char_iff.1 hread
  obtain ⟨rfl, -⟩ := List.cons_eq_cons.1 hs
  rw [hc] at hd
  cases hd

theorem silent_anyWord {words : List String} (hwords : ∀ w ∈ words, ¬ w.toList <+: s) (hne : words ≠ []) :
    (anyWord words).Silent before s := by
  rintro u v t rfl hread
  obtain ⟨⟨w, hw, rfl⟩, -⟩ := (reads_anyWord_iff hne).1 hread
  exact hwords w hw (List.prefix_append _ _)

/-! ### Pieces that pass -/

theorem Passes.append (hp : p.Passes before u (v ++ rest)) (hq : q.Passes (past before u) v rest) :
    (p ++ q).Passes before (u ++ v) rest := by
  intro k
  have hfirst := hp (q.goOn k)
  have hsecond := hq k
  rw [past_append, List.append_assoc]
  exact hfirst.trans hsecond

theorem Passes.either_left (hp : p.Passes before u rest) (hq : q.Silent before (u ++ rest)) :
    (either p q).Passes before u rest := by
  intro k
  simp [goOn, hp k, hq.goOn_eq k]

theorem Passes.either_right (hp : p.Silent before (u ++ rest)) (hq : q.Passes before u rest) :
    (either p q).Passes before u rest := by
  intro k
  simp [goOn, hq k, hp.goOn_eq k]

/-- A piece that may be absent is passed where what follows it needs it. -/
theorem Passes.optional_append (hp : (p ++ q).Passes before u rest) (hq : q.Silent before (u ++ rest)) :
    (optional p ++ q).Passes before u rest := by
  intro k
  show ((p ++ q).goOn k ⟨before, u ++ rest⟩ <|> q.goOn k ⟨before, u ++ rest⟩) = _
  rw [hp k, hq.goOn_eq k]
  simp

theorem passes_assoc_iff : ((p ++ q) ++ r).Passes before u rest ↔ (p ++ (q ++ r)).Passes before u rest :=
  Iff.rfl

theorem passes_nothing : nothing.Passes before [] rest := fun _ => rfl

/-- A piece that may be absent is passed over where it reads nothing. -/
theorem passes_absent (hp : p.Silent before rest) : (optional p).Passes before [] rest :=
  .either_right hp passes_nothing

theorem passes_char {cls : CharClass} {c : Char} (hc : cls.accepts c = true) :
    (char cls).Passes before [c] rest := by
  intro k
  simp [goOn, hc, past]

theorem passes_word (w : String) : (word w).Passes before w.toList rest := by
  have hchars : ∀ (cs : List Char) (before : Option Char),
      (cs.foldr (fun c p => seq (char (.only c)) p) nothing).Passes before cs rest := by
    intro cs
    induction cs with
    | nil => exact fun _ => passes_nothing
    | cons c cs ih =>
      intro before
      have hc : (char (.only c)).Passes before [c] (cs ++ rest) := passes_char (by simp [CharClass.accepts])
      exact hc.append (ih _)
  exact hchars w.toList before

/-- One of several words is passed if none of them begins another. -/
theorem passes_anyWord {words : List String} {w : String} (hw : w ∈ words) (hwords : Apart words w)
    (hnodup : words.Nodup) : (anyWord words).Passes before w.toList rest := by
  induction words with
  | nil => cases hw
  | cons x words ih =>
    obtain ⟨hx, hnodup⟩ := List.nodup_cons.1 hnodup
    have hsilent : ∀ v ∈ words, v ≠ w → ¬ v.toList <+: w.toList ++ rest := by
      intro v hv hne
      obtain ⟨hleft, hright⟩ := hwords v (List.mem_cons_of_mem x hv) hne
      exact Text.not_prefix_append hleft hright rest
    cases words with
    | nil =>
      obtain rfl := List.mem_singleton.1 hw
      exact passes_word w
    | cons y words =>
      change (either (word x) (anyWord (y :: words))).Passes before w.toList rest
      rcases List.mem_cons.1 hw with rfl | hmem
      · refine .either_left (passes_word w) (silent_anyWord (fun v hv => hsilent v hv ?_) (by simp))
        rintro rfl
        exact hx hv
      · have hne : x ≠ w := fun heq => hx (heq ▸ hmem)
        obtain ⟨hleft, hright⟩ := hwords x List.mem_cons_self hne
        have hsilent : (word x).Silent before (w.toList ++ rest) :=
          (startsWith_word x).silent (Text.not_prefix_append hleft hright rest)
        exact .either_right hsilent (ih hmem (fun v hv => hwords v (List.mem_cons_of_mem x hv)) hnodup)

/-- A gap passes the one space that is there. -/
theorem passes_gap (hrest : Text.Flush rest) : gap.Passes before " ".toList rest := by
  have hmany : (many .blank).Passes (some ' ') [] rest := by
    intro k
    cases rest with
    | nil => rfl
    | cons c s =>
      have hc : CharClass.blank.accepts c = false := hrest c rfl
      simp [many, goOn, goOnRun, hc, Column.prefer, past]
  have hspace : ∀ b s, (char .blank).Passes b [' '] s := fun b s => passes_char (by decide)
  exact (hspace before _).append hmany

/-! ### Choices and whole texts -/

/-- The second of two patterns is taken only where the first one leads to no match. -/
theorem goOn_either_append {k : Onward} {x : Place} {t : Trace} (h : (either p q ++ r).goOn k x = some t) :
    (p ++ r).goOn k x = some t ∨ (p ++ r).goOn k x = none ∧ (q ++ r).goOn k x = some t := by
  have hchoice : ((p ++ r).goOn k x <|> (q ++ r).goOn k x) = some t := h
  exact Option.or_eq_some_iff.1 (by simpa using hchoice)

theorem find_congr (h : p.goOn = q.goOn) (s : List Char) : p.find s = q.find s := by
  rw [find_eq, find_eq, h]

/-- A pattern that asks for the beginning of the text is looked for there alone. -/
theorem find_start_append (p : Pattern) (s : List Char) :
    (start ++ p).find s = p.goOn (fun _ => some []) ⟨none, s⟩ := by
  have hlater : ∀ c s, (Place.all (some c) s).findSome? ((start ++ p).goOn fun _ => some []) = none := by
    refine fun c s => List.findSome?_eq_none_iff.2 fun x hx => ?_
    obtain ⟨u, -, hbefore⟩ := Place.mem_all.1 hx
    have hstart : x.isStart = false := by
      rw [Place.isStart, hbefore, past]
      cases u.getLast? <;> rfl
    exact if_neg (by simp [hstart])
  have hhere : (start ++ p).goOn (fun _ => some []) ⟨none, s⟩ = p.goOn (fun _ => some []) ⟨none, s⟩ := rfl
  rw [find_eq]
  cases s with
  | nil =>
    rw [Place.all, List.findSome?_singleton, hhere]
  | cons c s =>
    rw [Place.all, List.findSome?_cons, hlater, hhere]
    cases p.goOn (fun _ => some []) ⟨none, c :: s⟩ <;> rfl

end PersonaDialogue.Pattern
