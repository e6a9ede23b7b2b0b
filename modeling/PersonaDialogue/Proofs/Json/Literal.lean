import PersonaDialogue.Json.Source
import PersonaDialogue.Json.Value

/-!
# Strings that were written are read back

The literal that is written for a text is read as one piece for each character, and the pieces make the
text again.  Only a control without a name is written as a unit, and no control is a surrogate.
-/

namespace PersonaDialogue.Json

def namedControls : List Char := [Char.ofNat 8, '\t', '\n', Char.ofNat 12, '\r']

/-- The piece of a literal that stands for a character. -/
def pieceOf (c : Char) : Piece :=
  if c.toNat < 32 ∧ c ∉ namedControls then .unit c.toNat else .plain c

theorem literal_quote (s : List Char) : literal ('"' :: s) = (⟨[], none⟩, some s) := by
  rw [literal.eq_def]
  simp

theorem literal_escaped {e c : Char} (he : e ≠ 'u') (h : escaped? e = some c) (s : List Char) :
    literal ('\\' :: e :: s) = consPiece (.plain c) (literal s) := by
  rw [literal.eq_def ('\\' :: e :: s)]
  simp [he, h]

theorem literal_unit {a b c d : Char} {n : Nat} (h : unit? a b c d = some n) (s : List Char) :
    literal ('\\' :: 'u' :: a :: b :: c :: d :: s) = consPiece (.unit n) (literal s) := by
  rw [literal.eq_def ('\\' :: 'u' :: a :: b :: c :: d :: s)]
  simp [h]

theorem literal_plain {c : Char} (hquote : c ≠ '"') (hslash : c ≠ '\\') (hc : 32 ≤ c.toNat)
    (s : List Char) : literal (c :: s) = consPiece (.plain c) (literal s) := by
  rw [literal.eq_def (c :: s)]
  simp [hquote, hslash, Nat.not_lt.2 hc]

/-- The four digits that are written for a control make its unit. -/
theorem unit?_control : ∀ n < 32,
    unit? '0' '0' (Text.hexDigit (n / 16)) (Text.hexDigit (n % 16)) = some n := by decide

theorem toNat_ne_of_ne {c d : Char} (h : c ≠ d) : c.toNat ≠ d.toNat :=
  fun he => h (Char.toNat_inj.1 he)

theorem literal_escapeChar (c : Char) (s : List Char) :
    literal (escapeChar c ++ s) = consPiece (pieceOf c) (literal s) := by
  by_cases hnamed : c ∈ '"' :: '\\' :: namedControls
  · simp only [namedControls, List.mem_cons, List.not_mem_nil, or_false] at hnamed
    rcases hnamed with rfl | rfl | rfl | rfl | rfl | rfl | rfl <;>
      exact literal_escaped (by decide) rfl s
  · have hne : ∀ d ∈ '"' :: '\\' :: namedControls, c ≠ d ∧ c.toNat ≠ d.toNat := fun d hd =>
      have h : c ≠ d := fun he => hnamed (he ▸ hd)
      ⟨h, toNat_ne_of_ne h⟩
    simp only [namedControls, List.forall_mem_cons] at hne
    obtain ⟨⟨hquote, -⟩, ⟨hslash, -⟩, ⟨-, h8⟩, ⟨-, h9⟩, ⟨-, h10⟩, ⟨-, h12⟩, ⟨-, h13⟩, -⟩ := hne
    have hout : c ∉ namedControls := fun h => hnamed (by simp [h])
    have hwritten : escapeChar c = if c.toNat < 32 then
        ['\\', 'u', '0', '0', Text.hexDigit (c.toNat / 16), Text.hexDigit (c.toNat % 16)]
        else [c] := by
      rw [escapeChar, if_neg hquote, if_neg hslash, if_neg (show ¬ c.toNat = 8 from h8),
        if_neg (show ¬ c.toNat = 9 from h9), if_neg (show ¬ c.toNat = 10 from h10),
        if_neg (show ¬ c.toNat = 12 from h12), if_neg (show ¬ c.toNat = 13 from h13)]
    rw [hwritten]
    by_cases hc : c.toNat < 32
    · rw [if_pos hc, pieceOf, if_pos ⟨hc, hout⟩]
      exact literal_unit (unit?_control _ hc) s
    · rw [if_neg hc, pieceOf, if_neg (fun h => hc h.1)]
      exact literal_plain hquote hslash (Nat.not_lt.1 hc) s

/-- **What is written for a text is read as its pieces.** -/
theorem literal_text (t s : List Char) :
    literal (t.flatMap escapeChar ++ '"' :: s) = (⟨t.map pieceOf, none⟩, some s) := by
  induction t with
  | nil => exact literal_quote s
  | cons c t ih =>
    rw [List.flatMap_cons, List.append_assoc, literal_escapeChar, ih]
    rfl

theorem readPieces_unit {n : Nat} (hn : n < 32) (rest : List Piece) :
    readPieces none (.unit n :: rest) = (readPieces none rest).map (Char.ofNat n :: ·) := by
  have hhigh : isHighUnit n = false := by simp [isHighUnit]; omega
  have hlow : isLowUnit n = false := by simp [isLowUnit]; omega
  rcases rest with _ | ⟨p | m, rest⟩ <;> simp [readPieces, hhigh, hlow]

theorem readPieces_pieceOf (t : List Char) : readPieces none (t.map pieceOf) = .ok t := by
  induction t with
  | nil => rfl
  | cons c t ih =>
    rw [List.map_cons, pieceOf]
    split
    · rw [readPieces_unit (by omega), ih, Char.ofNat_toNat]
      rfl
    · rw [readPieces, ih]
      rfl

namespace Literal

def ofText (s : String) : Literal := ⟨s.toList.map pieceOf, none⟩

@[simp] theorem read_ofText (s : String) : (ofText s).read = .ok s := by
  simp [read, ofText, readPieces_pieceOf, Except.map]

end Literal
end PersonaDialogue.Json
