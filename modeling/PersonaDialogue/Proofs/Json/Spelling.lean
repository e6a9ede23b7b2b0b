import PersonaDialogue.Proofs.Json.Literal
import PersonaDialogue.Proofs.Json.Numeral

/-!
# Texts that spell a tree

`Spells s v` says that `s` is a text of the tree `v` without any fault, with space wherever a text may
have it, but none at either end.  Reading a text that spells a tree gives this tree, and goes on with
what follows it (`valueWithin_of_spells`).  So a writer is read back if all it writes are spellings.
-/

namespace PersonaDialogue.Json

/-- Space that may stand between the parts of a text. -/
structure Gap where
  chars : List Char
  isSpace_of_mem : ∀ c ∈ chars, isSpace c = true

def Gap.none : Gap := ⟨[], by simp⟩

mutual

/-- A text of a value. -/
inductive Spells : List Char → Node → Prop
  | null : Spells "null".toList .null
  | true : Spells "true".toList (.boolean true)
  | false : Spells "false".toList (.boolean false)
  | numeral {k : Numeral} (h : k.WellFormed) : Spells k.chars (.numeral k)
  | text (s : String) : Spells (textLiteral s) (.text (.ofText s))
  | emptyArray (g : Gap) : Spells ('[' :: (g.chars ++ [']'])) (.array [] none)
  | array (g : Gap) {s : List Char} {items : List Node} (hs : SpellsItems s items) :
    Spells ('[' :: (g.chars ++ s)) (.array items none)
  | emptyObject (g : Gap) : Spells ('\x7b' :: (g.chars ++ ['\x7d'])) (.object [] .closed)
  | object (g : Gap) {s : List Char} {members : List (Literal × Node)} (hs : SpellsMembers s members) :
    Spells ('\x7b' :: (g.chars ++ s)) (.object members .closed)

/-- A text of one or more elements of an array, and of its closing bracket. -/
inductive SpellsItems : List Char → List Node → Prop
  | last {s : List Char} {v : Node} (hv : Spells s v) (g : Gap) :
    SpellsItems (s ++ (g.chars ++ [']'])) [v]
  | more {s t : List Char} {v : Node} {items : List Node} (hv : Spells s v) (g h : Gap)
    (ht : SpellsItems t items) : SpellsItems (s ++ (g.chars ++ ',' :: (h.chars ++ t))) (v :: items)

/-- A text of one or more members of an object, and of its closing brace. -/
inductive SpellsMembers : List Char → List (Literal × Node) → Prop
  | last (key : String) (a b : Gap) {s : List Char} {v : Node} (hv : Spells s v) (g : Gap) :
    SpellsMembers
      (textLiteral key ++ (a.chars ++ ':' :: (b.chars ++ (s ++ (g.chars ++ ['\x7d'])))))
      [(.ofText key, v)]
  | more (key : String) (a b : Gap) {s t : List Char} {v : Node} {members : List (Literal × Node)}
    (hv : Spells s v) (g h : Gap) (ht : SpellsMembers t members) :
    SpellsMembers
      (textLiteral key ++ (a.chars ++ ':' :: (b.chars ++ (s ++ (g.chars ++ ',' :: (h.chars ++ t))))))
      ((.ofText key, v) :: members)

end

/-! ### Space -/

namespace Gap

variable (g : Gap)

theorem skipSpace_append (s : List Char) : skipSpace (g.chars ++ s) = skipSpace s :=
  List.dropWhile_append_of_pos g.isSpace_of_mem

theorem skipSpace_cons {c : Char} (h : isSpace c = false) (s : List Char) :
    skipSpace (c :: s) = c :: s := by
  simp [skipSpace, h]

theorem skipSpace_to {c : Char} (h : isSpace c = false) (s : List Char) :
    skipSpace (g.chars ++ c :: s) = c :: s := by
  rw [g.skipSpace_append, skipSpace_cons h]

theorem valueWithin_append (bound : Nat) (s : List Char) :
    valueWithin bound (g.chars ++ s) = valueWithin bound s := by
  cases bound with
  | zero => simp [valueWithin]
  | succ bound => simp only [valueWithin, g.skipSpace_append]

theorem moreItemsWithin_append (bound : Nat) (s : List Char) :
    moreItemsWithin bound (g.chars ++ s) = moreItemsWithin bound s := by
  cases bound with
  | zero => simp [moreItemsWithin]
  | succ bound => simp only [moreItemsWithin, g.valueWithin_append]

/-- Space and what may follow a value end a number. -/
theorem stops {c : Char} (hc : c = ',' ∨ c = ']' ∨ c = '\x7d') (s : List Char) :
    Stops (g.chars ++ c :: s) := by
  obtain ⟨_ | ⟨d, sp⟩, hspace⟩ := g
  · rintro d ⟨⟩
    rcases hc with rfl | rfl | rfl <;> decide
  · rintro e ⟨⟩
    have hd := hspace d (by simp)
    simp only [isSpace, Bool.or_eq_true, beq_iff_eq] at hd
    rcases hd with ((rfl | rfl) | rfl) | rfl <;> decide

end Gap

/-! ### The first character -/

/-- Does `s` begin with a character that can begin a value? -/
def Begins (s : List Char) : Prop := ∃ c t, s = c :: t ∧ isSpace c = false ∧ c ≠ ']'

theorem Begins.append {s : List Char} (h : Begins s) (t : List Char) : Begins (s ++ t) := by
  obtain ⟨c, r, rfl, hc⟩ := h
  exact ⟨c, r ++ t, rfl, hc⟩

theorem Begins.length_pos {s : List Char} (h : Begins s) : 0 < s.length := by
  obtain ⟨c, t, rfl, -⟩ := h
  exact Nat.succ_pos _

/-- A digit is no space and begins nothing but a number. -/
theorem digitChar_plain : ∀ d < 10, isSpace d.digitChar = false ∧ d.digitChar ∉
    ['"', '[', ']', '\x7b', 'n', 't', 'f', '-'] := by decide

/-- A well-formed numeral without sign begins with a digit. -/
theorem Numeral.WellFormed.magnitude {k : Numeral} (hk : k.WellFormed) :
    ∃ d < 10, ∃ t, k.magnitudeChars = d.digitChar :: t := by
  obtain ⟨d, ds, hd⟩ := List.exists_cons_of_ne_nil hk.whole_nonempty
  exact ⟨d, hk.whole_digits d (by simp [hd]),
    digitChars ds ++ (fractionChars k.fraction ++ exponentChars k.exponent),
    by simp [Numeral.magnitudeChars, hd, digitChars]⟩

theorem Numeral.WellFormed.begins {k : Numeral} (hk : k.WellFormed) : Begins k.chars := by
  unfold Numeral.chars
  split
  · exact ⟨'-', _, rfl, by decide, by decide⟩
  · obtain ⟨d, hd, t, ht⟩ := hk.magnitude
    have hplain := digitChar_plain d hd
    simp only [List.mem_cons, not_or] at hplain
    exact ⟨_, t, ht, hplain.1, hplain.2.2.2.1⟩

theorem Spells.begins {s : List Char} {v : Node} (h : Spells s v) : Begins s := by
  cases h with
  | numeral hk => exact hk.begins
  | _ => exact ⟨_, _, rfl, by decide, by decide⟩

theorem SpellsItems.begins {s : List Char} {items : List Node} (h : SpellsItems s items) :
    Begins s := by
  cases h with
  | last hv => exact hv.begins.append _
  | more hv => exact hv.begins.append _

/-! ### One step of the reader -/

theorem valueWithin_numeral {k : Numeral} (hk : k.WellFormed) {rest : List Char} (hs : Stops rest)
    (bound : Nat) : valueWithin (bound + 1) (k.chars ++ rest) = (.numeral k, some rest) := by
  have hread := Numeral.unsignedNumeral_chars hk hs
  unfold Numeral.chars
  split
  · next hneg =>
    rw [hneg] at hread
    simp [valueWithin, Gap.skipSpace_cons (show isSpace '-' = false by decide), hread]
  · next hneg =>
    obtain ⟨d, hd, t, ht⟩ := hk.magnitude
    obtain ⟨hspace, hplain⟩ := digitChar_plain d hd
    simp only [List.mem_cons, List.not_mem_nil, or_false, not_or] at hplain
    rw [eq_false_of_ne_true hneg, ht] at hread
    rw [ht]
    simp only [List.cons_append] at hread ⊢
    simp [valueWithin, Gap.skipSpace_cons hspace, hplain, digitValue?_digitChar d hd, hread]

theorem valueWithin_text (s : String) (rest : List Char) (bound : Nat) :
    valueWithin (bound + 1) (textLiteral s ++ rest) = (.text (.ofText s), some rest) := by
  simp [valueWithin, textLiteral, Gap.skipSpace_cons (show isSpace '"' = false by decide), literal_text,
    Literal.ofText]

theorem itemsWithin_begins {s : List Char} (h : Begins s) (g : Gap) (bound : Nat) :
    itemsWithin (bound + 1) (g.chars ++ s) = moreItemsWithin bound s := by
  obtain ⟨c, t, rfl, hc, hbracket⟩ := h
  simp [itemsWithin, g.skipSpace_to hc, hbracket]

theorem moreItemsWithin_last {bound : Nat} {s rest : List Char} {v : Node} (g : Gap)
    (hv : valueWithin bound s = (v, some (g.chars ++ ']' :: rest))) :
    moreItemsWithin (bound + 1) s = ([v], none, some rest) := by
  simp [moreItemsWithin, hv, g.skipSpace_to (show isSpace ']' = false by decide)]

theorem moreItemsWithin_more {bound : Nat} {s t rest : List Char} {v : Node} {vs : List Node} (g : Gap)
    (hv : valueWithin bound s = (v, some (g.chars ++ ',' :: t)))
    (ht : moreItemsWithin bound t = (vs, none, some rest)) :
    moreItemsWithin (bound + 1) s = (v :: vs, none, some rest) := by
  simp [moreItemsWithin, hv, g.skipSpace_to (show isSpace ',' = false by decide), ht]

theorem SpellsMembers.quoted {s : List Char} {members : List (Literal × Node)}
    (h : SpellsMembers s members) : ∃ t, s = '"' :: t := by
  cases h with
  | last => exact ⟨_, rfl⟩
  | more => exact ⟨_, rfl⟩

theorem membersWithin_quoted (g : Gap) (bound : Nat) (s : List Char) :
    membersWithin (bound + 1) (g.chars ++ '"' :: s) = memberWithin bound s := by
  simp [membersWithin, g.skipSpace_to (show isSpace '"' = false by decide)]

theorem memberWithin_value {bound : Nat} {key : String} {s t : List Char} {v : Node} (g : Gap)
    (hv : valueWithin bound s = (v, some t)) :
    memberWithin (bound + 1) (key.toList.flatMap escapeChar ++ '"' :: (g.chars ++ ':' :: s)) =
      ((.ofText key, v) :: (moreMembersWithin bound t).1, (moreMembersWithin bound t).2) := by
  simp [memberWithin, literal_text, g.skipSpace_to (show isSpace ':' = false by decide), hv,
    Literal.ofText]

theorem moreMembersWithin_last (g : Gap) (bound : Nat) (rest : List Char) :
    moreMembersWithin (bound + 1) (g.chars ++ '\x7d' :: rest) = ([], .closed, some rest) := by
  simp [moreMembersWithin, g.skipSpace_to (show isSpace '\x7d' = false by decide)]

theorem moreMembersWithin_more (g h : Gap) (bound : Nat) (t : List Char) :
    moreMembersWithin (bound + 1) (g.chars ++ ',' :: (h.chars ++ '"' :: t)) = memberWithin bound t := by
  simp [moreMembersWithin, g.skipSpace_to (show isSpace ',' = false by decide),
    h.skipSpace_to (show isSpace '"' = false by decide)]

/-! ### Reading what is spelled -/

theorem length_textLiteral (key : String) :
    (textLiteral key).length = (key.toList.flatMap escapeChar).length + 2 := by
  simp [textLiteral]

theorem afterQuote {key : String} {s t : List Char} (h : textLiteral key ++ s = '"' :: t) :
    t = key.toList.flatMap escapeChar ++ '"' :: s := by
  simpa [textLiteral] using h.symm

-- The induction is on the derivation.  From the bound a value takes one step, and an array or an object
-- two before the first value inside, which is never more than twice the characters passed so far.
mutual

/-- **A text that spells a tree is read as this tree.** -/
theorem valueWithin_of_spells {s : List Char} {v : Node} (hs : Spells s v) {b : Nat}
    (hb : 2 * s.length ≤ b) {rest : List Char} (hrest : Stops rest) :
    valueWithin b (s ++ rest) = (v, some rest) := by
  have hpos := hs.begins.length_pos
  obtain ⟨b, rfl⟩ : ∃ n, b = n + 2 := ⟨b - 2, by omega⟩
  match hs with
  | .null => rfl
  | .true => rfl
  | .false => rfl
  | .numeral hk => exact valueWithin_numeral hk hrest _
  | .text s => exact valueWithin_text s rest _
  | .emptyArray g =>
    simp [valueWithin, Gap.skipSpace_cons (show isSpace '[' = false by decide), itemsWithin,
      g.skipSpace_to (show isSpace ']' = false by decide)]
  | .array g hs =>
    simp only [List.length_cons, List.length_append] at hb
    have hitems := moreItemsWithin_of_spells hs (show _ ≤ b by omega) rest
    rw [← itemsWithin_begins (hs.begins.append rest) g] at hitems
    simp [valueWithin, Gap.skipSpace_cons (show isSpace '[' = false by decide), hitems]
  | .emptyObject g =>
    simp [valueWithin, Gap.skipSpace_cons (show isSpace '\x7b' = false by decide), membersWithin,
      g.skipSpace_to (show isSpace '\x7d' = false by decide)]
  | .object g hs =>
    obtain ⟨t, ht⟩ := hs.quoted
    simp only [List.length_cons, List.length_append] at hb
    have hmembers := memberWithin_of_spells hs ht (show _ ≤ b by omega) rest
    rw [← membersWithin_quoted g] at hmembers
    simp [valueWithin, Gap.skipSpace_cons (show isSpace '\x7b' = false by decide), ht, hmembers]

/-- A text of elements is read as these elements. -/
theorem moreItemsWithin_of_spells {s : List Char} {items : List Node} (hs : SpellsItems s items)
    {b : Nat} (hb : 2 * s.length ≤ b) (rest : List Char) :
    moreItemsWithin b (s ++ rest) = (items, none, some rest) := by
  have hpos := hs.begins.length_pos
  obtain ⟨b, rfl⟩ : ∃ n, b = n + 1 := ⟨b - 1, by omega⟩
  match hs with
  | .last hv g =>
    simp only [List.append_assoc, List.cons_append, List.nil_append, List.length_append,
      List.length_cons, List.length_nil] at hb ⊢
    exact moreItemsWithin_last g (valueWithin_of_spells hv (by omega) (g.stops (by simp) rest))
  | .more hv g h ht =>
    simp only [List.append_assoc, List.cons_append, List.length_append, List.length_cons] at hb ⊢
    have hmore := moreItemsWithin_of_spells ht (show _ ≤ b by omega) rest
    rw [← h.moreItemsWithin_append] at hmore
    exact moreItemsWithin_more g (valueWithin_of_spells hv (by omega) (g.stops (by simp) _)) hmore

/-- A text of members is read as these members; its first quote was read before. -/
theorem memberWithin_of_spells {s t : List Char} {members : List (Literal × Node)}
    (hs : SpellsMembers s members) (hquote : s = '"' :: t) {b : Nat} (hb : 2 * s.length ≤ b)
    (rest : List Char) : memberWithin b (t ++ rest) = (members, .closed, some rest) := by
  obtain ⟨b, rfl⟩ : ∃ n, b = n + 2 := ⟨b - 2, by
    rw [hquote, List.length_cons] at hb
    omega⟩
  match hs with
  | .last key a c hv g =>
    rw [afterQuote hquote]
    simp only [List.append_assoc, List.cons_append, List.nil_append, List.length_append,
      List.length_cons, List.length_nil, length_textLiteral] at hb ⊢
    have hvalue := valueWithin_of_spells hv (show _ ≤ b + 1 by omega)
      (g.stops (show '\x7d' = _ ∨ _ by simp) rest)
    rw [← c.valueWithin_append] at hvalue
    rw [memberWithin_value a hvalue, moreMembersWithin_last]
  | .more key a c hv g h ht =>
    rw [afterQuote hquote]
    obtain ⟨r, rfl⟩ := ht.quoted
    simp only [List.append_assoc, List.cons_append, List.length_append,
      List.length_cons, length_textLiteral] at hb ⊢
    have hvalue := valueWithin_of_spells hv (show _ ≤ b + 1 by omega)
      (g.stops (show ',' = _ ∨ _ by simp) (h.chars ++ '"' :: (r ++ rest)))
    rw [← c.valueWithin_append] at hvalue
    have hmore := memberWithin_of_spells ht rfl (show _ ≤ b by simp; omega) rest
    rw [memberWithin_value a hvalue, moreMembersWithin_more, hmore]

end

/-- A document that spells a tree, with space around it, has this tree and nothing after it. -/
theorem ofChars_of_spells {s : List Char} {v : Node} (hs : Spells s v) (g h : Gap) :
    Document.ofChars (g.chars ++ (s ++ h.chars)) = ⟨v, false⟩ := by
  have hstops : Stops h.chars := by
    have hlast := h.stops (show ',' = _ ∨ _ by simp) []
    revert hlast
    cases h.chars with
    | nil => exact fun _ => stops_nil
    | cons c after => exact id
  have hbound : 2 * s.length ≤ 3 * (g.chars ++ (s ++ h.chars)).length + 3 := by
    simp only [List.length_append]
    omega
  unfold Document.ofChars
  rw [g.valueWithin_append, valueWithin_of_spells hs hbound hstops]
  simp [List.all_eq_true.2 h.isSpace_of_mem]

theorem ofChars_of_spells_tight {s : List Char} {v : Node} (hs : Spells s v) :
    Document.ofChars s = ⟨v, false⟩ := by
  have hread := ofChars_of_spells hs .none .none
  rwa [show Gap.none.chars = [] from rfl, List.nil_append, List.append_nil] at hread

end PersonaDialogue.Json
