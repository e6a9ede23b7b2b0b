import PersonaDialogue.Proofs.Toml.Mention
import PersonaDialogue.Toml.Document

/-!
# Statements that are read

A value that stands in a document is complete: none of the readers gives a table that is open to later
statements, and none gives an empty path.  So whenever a document is read, its table records what its
statements mention (`read_records`).
-/

namespace PersonaDialogue.Toml

/-- A reader that succeeds gives a value to which no later statement can add. -/
def GivesClosed (r : Option (Value × List Char)) : Prop := ∀ p ∈ r, p.1.isOpen = false

section GivesClosed

variable {α : Type} {o : Option α} {r r' : Option (Value × List Char)}

theorem givesClosed_none : GivesClosed none := fun _ h => nomatch h

theorem givesClosed_some {v : Value} (h : v.isOpen = false) (s : List Char) : GivesClosed (some (v, s)) := by
  rintro _ ⟨⟩
  exact h

theorem givesClosed_bind {f : α → Option (Value × List Char)} (h : ∀ x ∈ o, GivesClosed (f x)) :
    GivesClosed (o.bind f) := by
  intro p hp
  obtain ⟨x, hx, hp⟩ := Option.bind_eq_some_iff.1 hp
  exact h x hx p hp

theorem givesClosed_map {f : α → Value × List Char} (h : ∀ x, (f x).1.isOpen = false) :
    GivesClosed (o.map f) := by
  intro p hp
  obtain ⟨x, -, rfl⟩ := Option.map_eq_some_iff.1 hp
  exact h x

theorem GivesClosed.or (h : GivesClosed r) (h' : GivesClosed r') : GivesClosed (r.or r') := by
  intro p hp
  rcases Option.or_eq_some_iff.1 hp with hp | ⟨-, hp⟩
  · exact h p hp
  · exact h' p hp

end GivesClosed

/-! ### Numbers, dates and times -/

theorem wholeValue_closed {n : Int} {v : Value} (h : v ∈ wholeValue n) : v.isOpen = false := by
  obtain ⟨-, h⟩ := Option.ite_none_right_eq_some.1 h
  obtain rfl := Option.some.inj h
  rfl

theorem realValue_closed {negative : Bool} {m : Nat} {e : Int} {v : Value} (h : v ∈ realValue negative m e) :
    v.isOpen = false := by
  obtain ⟨-, h⟩ := Option.ite_none_right_eq_some.1 h
  obtain rfl := Option.some.inj h
  rfl

theorem based?_closed (base : Nat) (s : List Char) : GivesClosed (based? base s) := by
  refine givesClosed_bind ?_
  rintro ⟨ds, s⟩ -
  exact givesClosed_bind fun v hv => givesClosed_some (wholeValue_closed hv) _

theorem unsigned?_closed (negative : Bool) (s : List Char) : GivesClosed (unsigned? negative s) := by
  refine givesClosed_bind ?_
  rintro ⟨ds, s⟩ -
  dsimp only
  split
  · refine givesClosed_bind ?_
    rintro ⟨fs, s⟩ -
    refine givesClosed_bind ?_
    rintro ⟨e, s⟩ -
    exact givesClosed_bind fun v hv => givesClosed_some (realValue_closed hv) _
  · refine givesClosed_bind ?_
    rintro ⟨_ | e, s⟩ -
    · exact givesClosed_bind fun v hv => givesClosed_some (wholeValue_closed hv) _
    · exact givesClosed_bind fun v hv => givesClosed_some (realValue_closed hv) _

theorem number?_closed (s : List Char) : GivesClosed (number? s) := by
  rw [number?]
  split
  · exact based?_closed _ _
  · exact based?_closed _ _
  · exact based?_closed _ _
  · exact (givesClosed_map fun _ => rfl).or (unsigned?_closed _ _)

theorem figure?_closed (s : List Char) : GivesClosed (figure? s) := by
  rw [figure?]
  split
  · exact givesClosed_map fun _ => rfl
  · split
    · exact givesClosed_map fun _ => rfl
    · exact number?_closed s

/-! ### Values and statements -/

theorem inlineTable?_closed (value : ValueReader) (s : List Char) : GivesClosed (inlineTable? value s) := by
  rw [inlineTable?]
  dsimp only
  split
  · exact givesClosed_some rfl _
  · refine givesClosed_bind ?_
    rintro ⟨pairs, s⟩ -
    exact givesClosed_bind fun _ _ => givesClosed_some rfl _

/-- No value that is read is open. -/
theorem value?_closed (depth : Nat) (s : List Char) : GivesClosed (value? depth s) := by
  cases s with
  | nil =>
    rw [value?]
    exact givesClosed_none
  | cons c s =>
    rw [value?.eq_def]
    dsimp only
    split
    · exact givesClosed_map fun _ => rfl
    · split
      · cases depth with
        | zero => exact givesClosed_none
        | succ depth => exact givesClosed_map fun _ => rfl
      · split
        · cases depth with
          | zero => exact givesClosed_none
          | succ depth => exact inlineTable?_closed _ _
        · exact ((givesClosed_map fun _ => rfl).or (givesClosed_map fun _ => rfl)).or (figure?_closed _)

theorem key?_ne_nil {n : Nat} {s rest : List Char} {path : List String} (h : key? n s = some (path, rest)) :
    path ≠ [] := by
  cases n with
  | zero => cases h
  | succ n =>
    rw [key?] at h
    obtain ⟨⟨part, s⟩, -, h⟩ := Option.bind_eq_some_iff.1 h
    dsimp only at h
    split at h
    · obtain ⟨⟨more, s⟩, -, h⟩ := Option.bind_eq_some_iff.1 h
      obtain ⟨rfl, -⟩ := Prod.mk.inj (Option.some.inj h)
      exact List.cons_ne_nil _ _
    · obtain ⟨rfl, -⟩ := Prod.mk.inj (Option.some.inj h)
      exact List.cons_ne_nil _ _

theorem statement?_wellFormed {s rest : List Char} {st : Statement} (h : statement? s = some (st, rest)) :
    st.WellFormed := by
  rw [statement?] at h
  split at h
  · rw [header?] at h
    split at h
    · obtain ⟨⟨path, s₁⟩, -, h⟩ := Option.bind_eq_some_iff.1 h
      obtain ⟨s₂, -, h⟩ := Option.bind_eq_some_iff.1 h
      obtain ⟨s₃, -, h⟩ := Option.bind_eq_some_iff.1 h
      obtain ⟨rfl, -⟩ := Prod.mk.inj (Option.some.inj h)
      exact trivial
    · obtain ⟨⟨path, s₁⟩, -, h⟩ := Option.bind_eq_some_iff.1 h
      obtain ⟨s₂, -, h⟩ := Option.bind_eq_some_iff.1 h
      obtain ⟨rfl, -⟩ := Prod.mk.inj (Option.some.inj h)
      exact trivial
  · obtain ⟨⟨⟨path, v⟩, s'⟩, hpair, h⟩ := Option.map_eq_some_iff.1 h
    obtain ⟨rfl, -⟩ := Prod.mk.inj h
    obtain ⟨⟨path, s₁⟩, hkey, hpair⟩ := Option.bind_eq_some_iff.1 hpair
    obtain ⟨s₂, -, hpair⟩ := Option.bind_eq_some_iff.1 hpair
    obtain ⟨⟨v, s₃⟩, hvalue, hpair⟩ := Option.bind_eq_some_iff.1 hpair
    obtain ⟨hpv, -⟩ := Prod.mk.inj (Option.some.inj hpair)
    obtain ⟨rfl, rfl⟩ := Prod.mk.inj hpv
    exact ⟨key?_ne_nil hkey, value?_closed _ _ _ hvalue⟩

theorem statements?_wellFormed {fuel : Nat} {s : List Char} {sts : List Statement}
    (h : statements? fuel s = some sts) : ∀ st ∈ sts, st.WellFormed := by
  induction fuel generalizing s sts with
  | zero =>
    obtain ⟨-, h⟩ := Option.ite_none_right_eq_some.1 h
    obtain rfl := Option.some.inj h
    exact fun _ h => nomatch h
  | succ fuel ih =>
    rw [statements?] at h
    dsimp only at h
    split at h
    · obtain rfl := Option.some.inj h
      exact fun _ h => nomatch h
    · split at h
      · obtain ⟨s', -, h⟩ := Option.bind_eq_some_iff.1 h
        exact ih h
      · obtain ⟨⟨st, s'⟩, hst, h⟩ := Option.bind_eq_some_iff.1 h
        obtain ⟨s'', -, h⟩ := Option.bind_eq_some_iff.1 h
        obtain ⟨later, hlater, h⟩ := Option.bind_eq_some_iff.1 h
        obtain rfl := Option.some.inj h
        exact List.forall_mem_cons.2 ⟨statement?_wellFormed hst, ih hlater⟩

/-! ### Documents -/

def mentions? (text : String) : Option (List Mention) :=
  let s := text.toList
  let s := if s.head? = some byteOrderMark then s.drop 1 else s
  (statements? s.length s).map (mentions [])

/-- **The table of a document records what its statements mention.** -/
theorem read_records {text : String} {table : Members} (h : read text = some table) :
    ∃ l, mentions? text = some l ∧ table.Records l := by
  obtain ⟨sts, hsts, hbuild⟩ := Option.bind_eq_some_iff.1 h
  exact ⟨_, Option.map_eq_some_iff.2 ⟨sts, hsts, rfl⟩, build_mentions (statements?_wellFormed hsts) hbuild⟩

end PersonaDialogue.Toml
