import PersonaDialogue.Uuid

/-!
# Identifiers that were written are read back

An identifier has 32 digits in base sixteen, whose value it is, and the hyphens between the five groups
stand where the reader looks for them.
-/

namespace PersonaDialogue.Uuid

-- Powers are the built-in ones, also where others are in scope.
attribute [local instance (20000)] instPowNat

/-! ### Digits -/

theorem hexValue?_hexDigit : ∀ n < 16, Json.hexValue? (Text.hexDigit n) = some n := by decide

theorem length_hexDigits (n count : Nat) : (hexDigits n count).length = count := by
  induction count generalizing n with
  | zero => rfl
  | succ count ih => simp [hexDigits, ih]

theorem valueFrom?_append (soFar : Nat) (s t : List Char) :
    valueFrom? soFar (s ++ t) = (valueFrom? soFar s).bind fun n => valueFrom? n t := by
  induction s generalizing soFar with
  | nil => rfl
  | cons c s ih =>
    rw [List.cons_append, valueFrom?, valueFrom?]
    cases Json.hexValue? c with
    | none => rfl
    | some d => exact ih _

theorem valueFrom?_hexDigits (soFar : Nat) {n count : Nat} (h : n < 16 ^ count) :
    valueFrom? soFar (hexDigits n count) = some (soFar * 16 ^ count + n) := by
  induction count generalizing n with
  | zero =>
    have hn : n = 0 := by omega
    simp [hexDigits, valueFrom?, hn]
  | succ count ih =>
    have hdiv : n / 16 < 16 ^ count := by omega
    have hlast := hexValue?_hexDigit (n % 16) (by omega)
    have hvalue : (soFar * 16 ^ count + n / 16) * 16 + n % 16 = soFar * 16 ^ (count + 1) + n := by
      rw [Nat.pow_succ, ← Nat.mul_assoc]
      omega
    simp [hexDigits, valueFrom?_append, ih hdiv, valueFrom?, hlast, hvalue]

theorem ofDigits?_digits (u : Uuid) : ofDigits? u.digits = some u := by
  have hbits : u.bits.toNat < 16 ^ 32 := u.bits.isLt
  have hvalue : valueFrom? 0 u.digits = some u.bits.toNat := by
    rw [digits, valueFrom?_hexDigits 0 hbits, Nat.zero_mul, Nat.zero_add]
  have hlength : u.digits.length = 32 := length_hexDigits _ 32
  rw [ofDigits?, if_pos hlength, hvalue, Option.map_some, BitVec.ofNat_toNat,
    BitVec.setWidth_eq]

/-! ### Groups -/

theorem ofGroups?_hyphens {a b c d e : List Char} (ha : a.length = 8) (hb : b.length = 4)
    (hc : c.length = 4) (hd : d.length = 4) (he : e.length = 12) :
    ofGroups? (a ++ '-' :: b ++ '-' :: c ++ '-' :: d ++ '-' :: e) = ofDigits? (a ++ b ++ c ++ d ++ e) := by
  simp [ofGroups?, List.drop_append, List.drop_eq_nil_of_le, ha, hb, hc, hd, he]

theorem groups_append (ds : List Char) :
    ds.take 8 ++ (ds.drop 8).take 4 ++ (ds.drop 12).take 4 ++ (ds.drop 16).take 4 ++ ds.drop 20 = ds := by
  have hsplit : ∀ n, (ds.drop n).take 4 ++ ds.drop (n + 4) = ds.drop n := by
    intro n
    rw [← List.drop_drop, List.take_append_drop]
  simp only [List.append_assoc]
  rw [hsplit 16, hsplit 12, hsplit 8, List.take_append_drop]

/-- **The groups of an identifier are read as the identifier.** -/
theorem ofChars?_hyphenated (u : Uuid) : ofChars? u.hyphenated.toList = some u := by
  have hlength : u.digits.length = 32 := length_hexDigits _ 32
  have hgroups : u.hyphenated.toList.length = 36 := by simp [hyphenated, hlength]
  rw [ofChars?, if_neg (by omega), if_pos hgroups, hyphenated, String.toList_ofList,
    ofGroups?_hyphens (by simp [hlength]) (by simp [hlength]) (by simp [hlength]) (by simp [hlength])
      (by simp [hlength]), groups_append, ofDigits?_digits]

end PersonaDialogue.Uuid
