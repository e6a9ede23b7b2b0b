import PersonaDialogue.Proofs.Pattern.Pieces
import PersonaDialogue.Proofs.Text.Cut

/-!
# The marks of a reading

Whoever reads a group marks where it begins and where it ends, by what is still to come there.  So in the
marks of a reading the end of a group never lies before its beginning, and both lie within what was read
(`bounds_of_reads`): the text of a group is a block of the text that was searched, and its span is where
that block lies (`exists_block_of_find`).  A reading sets marks only for the groups that the pattern has
(`unmarked_of_reads`), which tells the text of a group that is read by one piece of a pattern alone.
-/

namespace PersonaDialogue

namespace Trace

variable {index : Nat} {s after u : List Char} {t t' : Trace}

theorem entered?_append (index : Nat) (t t' : Trace) :
    (t ++ t').entered? index = (t.entered? index).or (t'.entered? index) := by
  induction t with
  | nil => rfl
  | cons m t ih =>
    cases m with
    | enter i rest =>
      rw [List.cons_append, entered?, entered?, ih]
      split <;> rfl
    | leave i rest => exact ih

theorem left?_append (index : Nat) (t t' : Trace) :
    (t ++ t').left? index = (t.left? index).or (t'.left? index) := by
  induction t with
  | nil => rfl
  | cons m t ih =>
    cases m with
    | enter i rest => exact ih
    | leave i rest =>
      rw [List.cons_append, left?, left?, ih]
      split <;> rfl

/-- No mark is about the group. -/
def Unmarked (index : Nat) (t : Trace) : Prop := t.entered? index = none ∧ t.left? index = none

theorem Unmarked.append (h : t.Unmarked index) (h' : t'.Unmarked index) :
    (t ++ t').Unmarked index := by
  rw [Unmarked, entered?_append, left?_append, h.1, h.2]
  exact h'

theorem entered?_group (index : Nat) (x y : List Char) (t : Trace) :
    Trace.entered? index (.enter index x :: (t ++ [.leave index y])) = some x := by
  rw [entered?, if_pos rfl]

theorem left?_group (index : Nat) (x y : List Char) (t : Trace) :
    Trace.left? index (.enter index x :: (t ++ [.leave index y])) = (t.left? index).or (some y) := by
  rw [left?, left?_append, left?, if_pos rfl]

/-- The marks of one group are not about another. -/
theorem unmarked_enter {i : Nat} (hi : i ≠ index) (x : List Char) : Unmarked index [.enter i x] :=
  ⟨by rw [entered?, if_neg hi]; rfl, rfl⟩

theorem unmarked_leave {i : Nat} (hi : i ≠ index) (y : List Char) : Unmarked index [.leave i y] :=
  ⟨rfl, by rw [left?, if_neg hi]; rfl⟩

/-- The marks of a group, from its beginning to its end, lie between `s` and `after`. -/
structure Within (index : Nat) (s after : List Char) (t : Trace) (x y : List Char) : Prop where
  entered : t.entered? index = some x
  left : t.left? index = some y
  ordered : y <:+ x
  first : x <:+ s
  last : after <:+ y

/-- The group is marked between `s` and `after`, or not at all. -/
def Bounds (index : Nat) (s after : List Char) (t : Trace) : Prop :=
  t.Unmarked index ∨ ∃ x y, t.Within index s after x y

theorem Within.append_left {x y : List Char} (h : t.Within index s after x y) (t' : Trace) :
    (t ++ t').Within index s after x y := by
  refine ⟨?_, ?_, h.ordered, h.first, h.last⟩
  · rw [entered?_append, h.entered, Option.some_or]
  · rw [left?_append, h.left, Option.some_or]

theorem Within.append_right {x y : List Char} (ht : t.Unmarked index)
    (h : t'.Within index s after x y) : (t ++ t').Within index s after x y := by
  refine ⟨?_, ?_, h.ordered, h.first, h.last⟩
  · rw [entered?_append, ht.1, Option.none_or, h.entered]
  · rw [left?_append, ht.2, Option.none_or, h.left]

theorem text?_append_right (h : t.Unmarked index) : (t ++ t').text? index = t'.text? index := by
  rw [text?, text?, entered?_append, left?_append, h.1, h.2, Option.none_or, Option.none_or]

theorem text?_append_left (h : t.text? index = some u) (t' : Trace) :
    (t ++ t').text? index = some u := by
  obtain ⟨x, hx, hrest⟩ := Option.bind_eq_some_iff.1 h
  obtain ⟨y, hy, -⟩ := Option.bind_eq_some_iff.1 hrest
  rw [← h, text?, text?, entered?_append, left?_append, hx, hy, Option.some_or, Option.some_or]

end Trace

namespace Pattern

open Trace (Unmarked Bounds)

variable {p q : Pattern} {index : Nat} {before : Option Char} {u after s : List Char} {t : Trace}

def groups : Pattern → List Nat
  | seq p q => groups p ++ groups q
  | either p q => groups p ++ groups q
  | group index p => index :: groups p
  | _ => []

theorem reads_group_iff : (group index p).Reads before u after t ↔
    ∃ t', p.Reads before u after t' ∧ t = .enter index (u ++ after) :: (t' ++ [.leave index after]) := by
  constructor
  · rintro ⟨⟩
    exact ⟨_, ‹_›, rfl⟩
  · rintro ⟨t', hp, rfl⟩
    exact .group hp

/-! ### Where the marks lie -/

/-- **Where a group is marked at all, it begins before it ends, and lies within what was read.** -/
theorem bounds_of_reads (h : p.Reads before u after t) (index : Nat) :
    t.Bounds index (u ++ after) after := by
  induction h with
  | seq hp hq ihp ihq =>
    -- the first of the two readings that marks the group decides
    rcases ihp with hfirst | ⟨x, y, hfirst⟩
    · rcases ihq with hsecond | ⟨x, y, hsecond⟩
      · exact .inl (hfirst.append hsecond)
      · refine .inr ⟨x, y, .append_right hfirst { hsecond with first := ?_ }⟩
        rw [List.append_assoc]
        exact hsecond.first.trans (List.suffix_append _ _)
    · refine .inr ⟨x, y, .append_left { hfirst with first := ?_, last := ?_ } _⟩
      · rw [List.append_assoc]
        exact hfirst.first
      · exact (List.suffix_append _ _).trans hfirst.last
  | first hp ih => exact ih
  | second hq ih => exact ih
  | @group i p before u after t hp ih =>
    by_cases hi : i = index
    · subst hi
      have hentered := Trace.entered?_group i (u ++ after) after t
      have hleft := Trace.left?_group i (u ++ after) after t
      rcases ih with hinner | ⟨x, y, hinner⟩
      · rw [hinner.2, Option.none_or] at hleft
        exact .inr ⟨_, _, hentered, hleft, List.suffix_append _ _, List.suffix_rfl, List.suffix_rfl⟩
      · rw [hinner.left, Option.some_or] at hleft
        exact .inr ⟨_, _, hentered, hleft, hinner.ordered.trans hinner.first, List.suffix_rfl,
          hinner.last⟩
    · have henter := Trace.unmarked_enter hi (u ++ after)
      have hleave := Trace.unmarked_leave hi after
      rcases ih with hinner | ⟨x, y, hinner⟩
      · exact .inl (henter.append (hinner.append hleave))
      · exact .inr ⟨x, y, .append_right henter (hinner.append_left _)⟩
  | nothing => exact .inl ⟨rfl, rfl⟩
  | char hc => exact .inl ⟨rfl, rfl⟩
  | run hu hmost => exact .inl ⟨rfl, rfl⟩
  | boundary hb => exact .inl ⟨rfl, rfl⟩
  | start => exact .inl ⟨rfl, rfl⟩
  | stop => exact .inl ⟨rfl, rfl⟩

/-- A reading marks only the groups that the pattern has. -/
theorem unmarked_of_reads (h : p.Reads before u after t) (hindex : index ∉ p.groups) :
    t.Unmarked index := by
  induction h with
  | seq hp hq ihp ihq =>
    rw [groups, List.mem_append, not_or] at hindex
    exact (ihp hindex.1).append (ihq hindex.2)
  | first hp ih =>
    rw [groups, List.mem_append, not_or] at hindex
    exact ih hindex.1
  | second hq ih =>
    rw [groups, List.mem_append, not_or] at hindex
    exact ih hindex.2
  | @group i p before u after t hp ih =>
    rw [groups, List.mem_cons, not_or] at hindex
    have hi : i ≠ index := fun heq => hindex.1 heq.symm
    exact (Trace.unmarked_enter hi _).append ((ih hindex.2).append (Trace.unmarked_leave hi _))
  | nothing => exact ⟨rfl, rfl⟩
  | char hc => exact ⟨rfl, rfl⟩
  | run hu hmost => exact ⟨rfl, rfl⟩
  | boundary hb => exact ⟨rfl, rfl⟩
  | start => exact ⟨rfl, rfl⟩
  | stop => exact ⟨rfl, rfl⟩

/-! ### The text of a group -/

/-- A group whose pattern has no groups marks what it reads. -/
theorem text?_of_reads_group (hp : p.groups = []) (h : (group index p).Reads before u after t) :
    t.text? index = some u := by
  obtain ⟨t', hinner, rfl⟩ := reads_group_iff.1 h
  have hnone : Unmarked index t' := unmarked_of_reads hinner (by simp [hp])
  rw [Trace.text?, Trace.entered?_group, Trace.left?_group, hnone.2, Option.none_or]
  simp

/-- **A group that takes part in a match marks a block of the text**, and its span is where the block
lies; a group that takes no part has neither a text nor a span. -/
theorem exists_block_of_find (h : p.find s = some t) (index : Nat) :
    (t.text? index = none ∧ t.span? index s = none) ∨ ∃ block start stop,
      t.text? index = some block ∧ t.span? index s = some (start, stop) ∧
        Text.IsCut s start stop block := by
  obtain ⟨v, block, w, rfl, hread⟩ := reads_of_find h
  rcases bounds_of_reads hread index with hnone | ⟨x, y, hmarks⟩
  · left
    rw [Trace.text?, Trace.span?, hnone.1]
    exact ⟨rfl, rfl⟩
  · right
    obtain ⟨c, rfl⟩ := hmarks.ordered
    obtain ⟨d, hd⟩ := hmarks.first
    have hsearched : v ++ (block ++ w) = v ++ d ++ (c ++ y) := by rw [← hd, List.append_assoc]
    refine ⟨c, _, _, ?_, ?_, v ++ d, y, hsearched, rfl, rfl⟩
    · rw [Trace.text?, hmarks.entered, hmarks.left]
      simp
    · have hstart : Text.byteSize (v ++ d ++ (c ++ y)) - Text.byteSize (c ++ y) = Text.byteSize (v ++ d) := by
        rw [Text.byteSize_append (v ++ d), Nat.add_sub_cancel]
      have hstop : Text.byteSize (v ++ d ++ (c ++ y)) - Text.byteSize y =
          Text.byteSize (v ++ d) + Text.byteSize c := by
        rw [Text.byteSize_append (v ++ d), Text.byteSize_append c, ← Nat.add_assoc, Nat.add_sub_cancel]
      rw [Trace.span?, hmarks.entered, hmarks.left, hsearched]
      exact congrArg some (Prod.ext hstart hstop)

end Pattern

end PersonaDialogue
