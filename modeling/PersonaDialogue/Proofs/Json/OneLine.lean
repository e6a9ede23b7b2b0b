import PersonaDialogue.Proofs.Json.NumberText

/-!
# A compact text is one line

Nothing in the compact text of a value is a control of ASCII: a control in a string is escaped, and
numbers and punctuation have none.  In particular there is no line feed and no carriage return in it,
so it stands on one line whatever the strings in the value are.
-/

namespace PersonaDialogue.Json

/-- Is there no control of ASCII in `s`? -/
def Visible (s : List Char) : Prop := ∀ c ∈ s, 32 ≤ c.toNat

instance (s : List Char) : Decidable (Visible s) := List.decidableBAll (fun c : Char => 32 ≤ c.toNat) s

namespace Visible

theorem nil : Visible [] := by simp [Visible]

theorem cons {c : Char} {s : List Char} (hc : 32 ≤ c.toNat) (hs : Visible s) : Visible (c :: s) := by
  intro d hd
  rcases List.mem_cons.1 hd with rfl | hd
  · exact hc
  · exact hs d hd

theorem append {s t : List Char} (hs : Visible s) (ht : Visible t) : Visible (s ++ t) := by
  intro c hc
  rcases List.mem_append.1 hc with hc | hc
  · exact hs c hc
  · exact ht c hc

theorem newline_not_mem {s : List Char} (h : Visible s) : '\n' ∉ s :=
  fun hmem => absurd (h _ hmem) (by decide)

theorem return_not_mem {s : List Char} (h : Visible s) : '\r' ∉ s :=
  fun hmem => absurd (h _ hmem) (by decide)

end Visible

/-! ### Strings -/

theorem hexDigit_visible : ∀ n < 16, 32 ≤ (Text.hexDigit n).toNat := by decide

theorem escapeChar_visible (c : Char) : Visible (escapeChar c) := by
  have hhigh : 32 ≤ (Text.hexDigit (c.toNat % 16)).toNat := hexDigit_visible _ (by omega)
  unfold escapeChar
  repeat' split
  · decide
  · decide
  · decide
  · decide
  · decide
  · decide
  · decide
  · have hlow : 32 ≤ (Text.hexDigit (c.toNat / 16)).toNat := hexDigit_visible _ (by omega)
    have hstart : Visible ['\\', 'u', '0', '0'] := by decide
    exact hstart.append (.cons hlow (.cons hhigh .nil))
  · exact .cons (by omega) .nil

theorem textLiteral_visible (s : String) : Visible (textLiteral s) := by
  have hbody : Visible (s.toList.flatMap escapeChar) := by
    intro d hd
    obtain ⟨c, -, hc⟩ := List.mem_flatMap.1 hd
    exact escapeChar_visible c d hc
  have hquote : Visible ['"'] := by decide
  exact (hquote.append hbody).append hquote

/-! ### Numbers -/

theorem digitChars_visible {ds : List Nat} (h : ∀ d ∈ ds, d < 10) : Visible (digitChars ds) := by
  have hdigit : ∀ d < 10, 32 ≤ d.digitChar.toNat := by decide
  intro c hc
  obtain ⟨d, hd, rfl⟩ := List.mem_map.1 hc
  exact hdigit d (h d hd)

theorem Numeral.WellFormed.visible {k : Numeral} (hk : k.WellFormed) : Visible k.chars := by
  have hfraction : Visible (fractionChars k.fraction) := by
    unfold fractionChars
    split
    · exact .nil
    · exact .cons (by decide) (digitChars_visible hk.fraction_digits)
  have hexponent : Visible (exponentChars k.exponent) := by
    cases he : k.exponent with
    | none => exact .nil
    | some e =>
      have hdigits := digitChars_visible (hk.exponent_digits e.1 e.2 he).2
      refine .cons (by decide) (.cons ?_ hdigits)
      split <;> decide
  have hmagnitude : Visible k.magnitudeChars :=
    (digitChars_visible hk.whole_digits).append (hfraction.append hexponent)
  unfold Numeral.chars
  split
  · exact .cons (by decide) hmagnitude
  · exact hmagnitude

theorem numericText_visible (n : Numeric) : Visible n.text := by
  rcases numericText_cases n with h | ⟨k, hk, h⟩
  · rw [h]
    decide
  · rw [← h]
    exact hk.visible

/-! ### Values -/

namespace Value

mutual

/-- **There is no control in the compact text of a value.** -/
theorem compact_visible : ∀ v : Value, Visible v.compactChars
  | null => by decide
  | boolean true => by decide
  | boolean false => by decide
  | number n => numericText_visible n
  | text s => textLiteral_visible s
  | array [] => by decide
  | array (v :: rest) => .cons (by decide) ((compact_visible v).append (moreItems_visible rest))
  | object [] => by decide
  | object ((key, v) :: rest) => by
    have hmember := Visible.cons (show 32 ≤ ':'.toNat by decide)
      ((compact_visible v).append (moreMembers_visible rest))
    exact .cons (by decide) ((textLiteral_visible key).append hmember)

theorem moreItems_visible : ∀ items : List Value, Visible (compactMoreItems items)
  | [] => by decide
  | v :: rest => .cons (by decide) ((compact_visible v).append (moreItems_visible rest))

theorem moreMembers_visible : ∀ members : List (String × Value), Visible (compactMoreMembers members)
  | [] => by decide
  | (key, v) :: rest => by
    have hmember := Visible.cons (show 32 ≤ ':'.toNat by decide)
      ((compact_visible v).append (moreMembers_visible rest))
    exact .cons (by decide) ((textLiteral_visible key).append hmember)

end

theorem compactText_visible (v : Value) : Visible v.compact.toList := by
  rw [compact, String.toList_ofList]
  exact v.compact_visible

end Value

end PersonaDialogue.Json
