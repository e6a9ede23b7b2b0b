import PersonaDialogue.Proofs.Text.Case

/-!
# Blocks of a text by their offsets in bytes

`IsCut s start stop block` says that the bytes of `s` from `start` to `stop` are those of the characters
`block`: both offsets lie within the text and between two characters.  That is just where `cut` gives an
answer, and it gives the block (`IsCut.cut_eq`).  Since lower case for the letters `A` to `Z` keeps the size
of every character, a block of the text in lower case has the offsets of the block of the text as it was
written that it came from (`IsCut.of_lowerAscii`).
-/

namespace PersonaDialogue.Text

variable {s t block : List Char} {start stop : Nat}

theorem byteSize_append (s t : List Char) : byteSize (s ++ t) = byteSize s + byteSize t := by
  induction s with
  | nil => rw [List.nil_append, byteSize, Nat.zero_add]
  | cons c s ih => rw [List.cons_append, byteSize, ih, byteSize, Nat.add_assoc]

theorem byteSize_lowerAscii (s : List Char) : byteSize (lowerAscii s) = byteSize s := by
  induction s with
  | nil => rfl
  | cons c s ih =>
    rw [lowerAscii, List.map_cons, byteSize, utf8Size_toLower, byteSize]
    exact congrArg (c.utf8Size + ·) ih

theorem dropBytes_append (s t : List Char) : dropBytes (s ++ t) (byteSize s) = some t := by
  induction s with
  | nil => cases t <;> rfl
  | cons c s ih =>
    obtain ⟨n, hn⟩ := Nat.exists_eq_add_one_of_ne_zero c.utf8Size_pos.ne'
    have hsize : byteSize (c :: s) = n + byteSize s + 1 := by rw [byteSize, hn]; omega
    rw [hsize, List.cons_append, dropBytes, if_pos (by omega), hn]
    rwa [show n + byteSize s + 1 - (n + 1) = byteSize s by omega]

theorem takeBytes_append (s t : List Char) : takeBytes (s ++ t) (byteSize s) = some s := by
  induction s with
  | nil => cases t <;> rfl
  | cons c s ih =>
    obtain ⟨n, hn⟩ := Nat.exists_eq_add_one_of_ne_zero c.utf8Size_pos.ne'
    have hsize : byteSize (c :: s) = n + byteSize s + 1 := by rw [byteSize, hn]; omega
    rw [hsize, List.cons_append, takeBytes, if_pos (by omega), hn]
    rw [show n + byteSize s + 1 - (n + 1) = byteSize s by omega, ih]
    rfl

/-- The bytes of `s` from `start` to `stop` are those of the characters `block`. -/
def IsCut (s : List Char) (start stop : Nat) (block : List Char) : Prop :=
  ∃ before after, s = before ++ (block ++ after) ∧ byteSize before = start ∧
    start + byteSize block = stop

theorem IsCut.cut_eq (h : IsCut s start stop block) : cut s start stop = some block := by
  obtain ⟨before, after, rfl, rfl, rfl⟩ := h
  rw [cut, dropBytes_append, Option.bind_some, Nat.add_sub_cancel_left]
  exact takeBytes_append block after

theorem IsCut.isInfix (h : IsCut s start stop block) : block <:+: s := by
  obtain ⟨before, after, rfl, -⟩ := h
  exact ⟨before, after, by rw [List.append_assoc]⟩

/-- **The block of a text as it was written, from the block of the text in lower case.** -/
theorem IsCut.of_lowerAscii (h : IsCut (lowerAscii s) start stop block) :
    ∃ written, IsCut s start stop written ∧ lowerAscii written = block := by
  obtain ⟨before, after, hs, rfl, rfl⟩ := h
  obtain ⟨before', rest, rfl, rfl, hrest⟩ := List.map_eq_append_iff.1 hs
  obtain ⟨written, after', rfl, rfl, rfl⟩ := List.map_eq_append_iff.1 hrest
  refine ⟨written, ⟨before', after', rfl, (byteSize_lowerAscii before').symm, ?_⟩, rfl⟩
  exact congrArg (_ + ·) (byteSize_lowerAscii written).symm

end PersonaDialogue.Text
