import PersonaDialogue.Proofs.Toml.Quoting
import PersonaDialogue.Toml.Document

/-!
# Documents that were written are read back

A document of lines that each give a value to a key is read as the table of these keys and values
(`readChars_lines`), if no key comes twice and every text of a value is *legible*: reading it gives the
value and stops at the end of the line.  Whole numbers and quoted texts are.
-/

namespace PersonaDialogue.Toml

open Json (digitChars decimals decimals_lt decimals_ne_nil decimals_no_leading_zero digitsValue
  digitsValue_decimals toDigits_eq)

/-! ### Digits at the end of a line -/

theorem isDigitIn_digitChar : ∀ d < 10, isDigitIn 10 d.digitChar = true := by decide

theorem hexValue?_digitChar : ∀ d < 10, (Json.hexValue? d.digitChar).getD 0 = d := by decide

theorem isDigitIn_of_mem {ds : List Nat} (hds : ∀ d ∈ ds, d < 10) {c : Char} (hc : c ∈ digitChars ds) :
    isDigitIn 10 c = true := by
  obtain ⟨d, hd, rfl⟩ := List.mem_map.1 hc
  exact isDigitIn_digitChar d (hds d hd)

theorem valueFrom_digitChars (n : Nat) {ds : List Nat} (hds : ∀ d ∈ ds, d < 10) :
    valueFrom 10 n (digitChars ds) = ds.foldl (fun n d => n * 10 + d) n := by
  induction ds generalizing n with
  | nil => rfl
  | cons d ds ih =>
    have hd := hexValue?_digitChar d (hds d (by simp))
    have hmore := ih (n * 10 + d) fun x hx => hds x (by simp [hx])
    simp only [valueFrom, digitChars, List.map_cons, List.foldl_cons, hd] at hmore ⊢
    exact hmore

section Digits

variable {s rest : List Char} (hs : ∀ c ∈ s, isDigitIn 10 c = true)
include hs

theorem moreDigits_append : moreDigits 10 (s ++ '\n' :: rest) = some (s, '\n' :: rest) := by
  induction s with
  | nil =>
    rw [List.nil_append, moreDigits.eq_def]
    simp [show isDigitIn 10 '\n' = false by decide]
  | cons c s ih =>
    have hmore := ih fun x hx => hs x (by simp [hx])
    rw [List.cons_append, moreDigits.eq_def]
    simp [hs c (by simp), hmore, emit]

theorem digits?_append (hne : s ≠ []) : digits? 10 (s ++ '\n' :: rest) = some (s, '\n' :: rest) := by
  obtain ⟨c, s, rfl⟩ := List.exists_cons_of_ne_nil hne
  have hmore : moreDigits 10 (s ++ '\n' :: rest) = some (s, '\n' :: rest) :=
    moreDigits_append fun x hx => hs x (List.mem_cons_of_mem c hx)
  simp [digits?, hs c (by simp), hmore, emit]

/-- Up to the end of the line there are only digits, and then a line feed. -/
theorem digit_or_feed {k : Nat} {c : Char} (hk : k ≤ s.length) (hc : (s ++ '\n' :: rest)[k]? = some c) :
    isDigitIn 10 c = true ∨ c = '\n' := by
  by_cases h : k < s.length
  · rw [List.getElem?_append_left h] at hc
    exact .inl (hs c (List.mem_of_getElem? hc))
  · obtain rfl : k = s.length := by omega
    rw [List.getElem?_append_right (Nat.le_refl _)] at hc
    exact .inr (by simpa using hc.symm)

/-- Digits that end with the line are not followed by the mark of a date or a time. -/
theorem fixed?_then_mark {k : Nat} {mark : Char} (hdigit : isDigitIn 10 mark = false)
    (hfeed : mark ≠ '\n') :
    ((fixed? k (s ++ '\n' :: rest)).isSome && (s ++ '\n' :: rest)[k]? == some mark) = false := by
  rw [Bool.and_eq_false_iff]
  by_cases hk : k ≤ s.length
  · refine .inr (beq_eq_false_iff_ne.2 fun h => ?_)
    rcases digit_or_feed hs hk h with h | h
    · rw [hdigit] at h
      cases h
    · exact hfeed h
  · -- The line ends before that many characters, and its end is no digit.
    left
    have hmem : '\n' ∈ (s ++ '\n' :: rest).take k := by
      rw [List.take_append, List.mem_append]
      obtain ⟨j, hj⟩ : ∃ j, k - s.length = j + 1 := ⟨k - s.length - 1, by omega⟩
      exact .inr (by simp [hj])
    have hall : ((s ++ '\n' :: rest).take k).all (isDigitIn 10) = false := by
      rw [List.all_eq_false]
      exact ⟨'\n', hmem, by decide⟩
    simp [fixed?, hall]

theorem word?_eq_none {w : String} {mark : Char} (hw : w.toList = ['0', mark])
    (hdigit : isDigitIn 10 mark = false) (hfeed : mark ≠ '\n') (hne : s ≠ []) :
    word? w (s ++ '\n' :: rest) = none := by
  have hk : 1 ≤ s.length := List.length_pos_iff.2 hne
  unfold word?
  simp only [hw]
  rw [if_neg]
  intro h
  have hmark : (s ++ '\n' :: rest)[1]? = some mark := by
    have htake := congrArg (fun t => t[1]?) h
    simpa [List.getElem?_take] using htake
  rcases digit_or_feed hs hk hmark with h | h
  · rw [hdigit] at h
    cases h
  · exact hfeed h

end Digits

/-! ### Whole numbers -/

section Whole

variable (n : Nat) (rest : List Char)

theorem decimal?_decimals :
    decimal? (digitChars (decimals n) ++ '\n' :: rest) = some (digitChars (decimals n), '\n' :: rest) := by
  obtain ⟨d, ds, hds⟩ := List.exists_cons_of_ne_nil (decimals_ne_nil n)
  by_cases hzero : d = 0
  · have hall : decimals n = [0] := decimals_no_leading_zero n (by simp [hds, hzero])
    simp [decimal?, hall, digitChars, Nat.digitChar]
  · have hd : d < 10 := decimals_lt n d (by simp [hds])
    have hhead : d.digitChar ≠ '0' := by
      revert hzero
      exact (by decide : ∀ d < 10, d ≠ 0 → d.digitChar ≠ '0') d hd
    have hread : digits? 10 (digitChars (decimals n) ++ '\n' :: rest) =
        some (digitChars (decimals n), '\n' :: rest) :=
      digits?_append (fun c => isDigitIn_of_mem (decimals_lt n)) (by simp [digitChars, decimals_ne_nil])
    rw [decimal?, if_neg (by simp [hds, digitChars, hhead]), hread]

theorem unsigned?_decimals (hn : n ≤ 9223372036854775807) :
    unsigned? false (digitChars (decimals n) ++ '\n' :: rest) = some (.whole n, '\n' :: rest) := by
  have hvalue : valueOf 10 (digitChars (decimals n)) = n :=
    (valueFrom_digitChars 0 (decimals_lt n)).trans (digitsValue_decimals n)
  have hwhole : wholeValue (n : Int) = some (.whole n) := by
    rw [wholeValue, if_pos ⟨by omega, by omega⟩]
  have hexponent : exponent? ('\n' :: rest) = some (none, '\n' :: rest) := by simp [exponent?]
  -- There is no point and no exponent; each branch is taken by itself, since the others are about
  -- numbers that are not whole.
  unfold unsigned?
  rw [decimal?_decimals, Option.bind_eq_bind, Option.bind_some]
  refine (if_neg (by simp)).trans ?_
  rw [hexponent, Option.bind_eq_bind, Option.bind_some, hvalue]
  change (wholeValue (if false = true then -(n : Int) else n)).bind (fun v => some (v, '\n' :: rest)) = _
  rw [if_neg (by decide), hwhole, Option.bind_some]

/-- What begins like no text, array or table is a truth value or a figure. -/
theorem value?_plain {c : Char} {s : List Char} (hdouble : c ≠ '"') (hsingle : c ≠ '\'')
    (hbracket : c ≠ '[') (hbrace : c ≠ '\x7b') (depth : Nat) :
    value? depth (c :: s) = (boolean? (c :: s)).or (figure? (c :: s)) := by
  rw [value?.eq_def]
  simp [hdouble, hsingle, hbracket, hbrace]

/-- A whole number that fits is read to the end of its line. -/
theorem value?_whole (hn : n ≤ 9223372036854775807) (depth : Nat) :
    value? depth (digitChars (decimals n) ++ '\n' :: rest) = some (.whole n, '\n' :: rest) := by
  have hs := fun c => isDigitIn_of_mem (c := c) (decimals_lt n)
  have hne : digitChars (decimals n) ≠ [] := by simp [digitChars, decimals_ne_nil]
  have hdate : atDate (digitChars (decimals n) ++ '\n' :: rest) = false :=
    fixed?_then_mark hs (by decide) (by decide)
  have htime : atTime (digitChars (decimals n) ++ '\n' :: rest) = false :=
    fixed?_then_mark hs (by decide) (by decide)
  have hx : word? "0x" (digitChars (decimals n) ++ '\n' :: rest) = none :=
    word?_eq_none hs rfl (by decide) (by decide) hne
  have ho : word? "0o" (digitChars (decimals n) ++ '\n' :: rest) = none :=
    word?_eq_none hs rfl (by decide) (by decide) hne
  have hb : word? "0b" (digitChars (decimals n) ++ '\n' :: rest) = none :=
    word?_eq_none hs rfl (by decide) (by decide) hne
  have hunsigned := unsigned?_decimals n rest hn
  obtain ⟨c, t, ht⟩ := List.exists_cons_of_ne_nil hne
  -- The first character is a digit, so nothing else is tried.
  have hfirst : ∀ m, isDigitIn 10 m = false → c ≠ m := by
    rintro m hm rfl
    rw [hs c (by simp [ht])] at hm
    cases hm
  have hnumber : number? (digitChars (decimals n) ++ '\n' :: rest) = some (.whole n, '\n' :: rest) := by
    rw [number?, hx, ho, hb]
    rw [ht, List.cons_append] at hunsigned ⊢
    simp [sign, special?, word?, hfirst '-' (by decide), hfirst '+' (by decide), hfirst 'i' (by decide),
      hfirst 'n' (by decide), hunsigned]
  rw [ht, List.cons_append] at hdate htime hnumber ⊢
  rw [value?_plain (hfirst '"' (by decide)) (hfirst '\'' (by decide)) (hfirst '[' (by decide))
    (hfirst '\x7b' (by decide))]
  simp [boolean?, word?, figure?, hfirst 't' (by decide), hfirst 'f' (by decide), hdate, htime, hnumber]

end Whole

/-! ### Lines -/

theorem isSpace_eq_false {p : Char → Bool} (hspace : p ' ' = false) (htab : p '\t' = false) {c : Char}
    (hc : p c = true) : isSpace c = false := by
  simp only [isSpace, Bool.or_eq_false_iff, beq_eq_false_iff_ne]
  constructor
  · rintro rfl
    exact absurd hc (by simp [hspace])
  · rintro rfl
    exact absurd hc (by simp [htab])

/-- A text of a value: reading it gives the value and stops at the end of the line. -/
structure Legible (text : List Char) (v : Value) : Prop where
  begins : ∀ c ∈ text.head?, isSpace c = false
  reads : ∀ rest, value? limit (text ++ '\n' :: rest) = some (v, '\n' :: rest)

theorem legible_whole {n : Nat} (hn : n ≤ 9223372036854775807) : Legible (Json.wholeText n) (.whole n) := by
  have htext : Json.wholeText n = digitChars (decimals n) := by
    simp [Json.wholeText, toDigits_eq]
  rw [htext]
  refine ⟨fun c hc => ?_, fun rest => value?_whole n rest hn limit⟩
  exact isSpace_eq_false (by decide) (by decide)
    (isDigitIn_of_mem (decimals_lt n) (List.mem_of_mem_head? hc))

theorem quoteChars_begins (s : List Char) :
    ∃ c t, quoteChars s = c :: t ∧ (c = '"' ∨ c = '\'') := by
  rcases (Needs.of s).quoting_cases with h | ⟨h, -⟩ | h | ⟨h, -⟩
  · exact ⟨'"', _, by simp [quoteChars, h, Quoting.marks, basic]; rfl, .inl rfl⟩
  · exact ⟨'\'', _, by simp [quoteChars, h, Quoting.marks, literal]; rfl, .inr rfl⟩
  · exact ⟨'"', _, by simp [quoteChars, h, Quoting.marks, basicLines]; rfl, .inl rfl⟩
  · exact ⟨'\'', _, by simp [quoteChars, h, Quoting.marks, literalLines]; rfl, .inr rfl⟩

theorem legible_quote (s : String) : Legible (quoteChars s.toList) (.text s) := by
  obtain ⟨c, t, ht, hc⟩ := quoteChars_begins s.toList
  refine ⟨fun d hd => ?_, fun rest => ?_⟩
  · obtain rfl : c = d := by simpa [ht] using hd
    rcases hc with rfl | rfl <;> rfl
  · have hread : string? (quoteChars s.toList ++ '\n' :: rest) = some (s.toList, '\n' :: rest) :=
      string?_quoteChars (by simp) s.toList
    rw [ht, List.cons_append] at hread ⊢
    rw [value?.eq_def]
    simp [hc, hread]

/-- A line that gives a value to a key. -/
structure Line where
  key : String
  text : List Char
  value : Value

namespace Line

def chars (l : Line) : List Char := l.key.toList ++ ' ' :: '=' :: ' ' :: (l.text ++ ['\n'])

/-- The key needs no quotes, and the text is one of the value. -/
structure Proper (l : Line) : Prop where
  nonempty : l.key.toList ≠ []
  bare : ∀ c ∈ l.key.toList, isBare c = true
  legible : Legible l.text l.value

variable {l : Line}

/-- A line begins with its key. -/
theorem Proper.begins (h : l.Proper) (rest : List Char) :
    ∃ c t, l.key.toList ++ rest = c :: t ∧ isBare c = true ∧ skipSpace (c :: t) = c :: t := by
  obtain ⟨c, t, ht⟩ := List.exists_cons_of_ne_nil h.nonempty
  have hc : isBare c = true := h.bare c (by simp [ht])
  exact ⟨c, t ++ rest, by simp [ht], hc,
    by simp [skipSpace, isSpace_eq_false (p := isBare) (by decide) (by decide) hc]⟩

theorem Proper.chars_begin (h : l.Proper) (rest : List Char) :
    ∃ c t, l.chars ++ rest = c :: t ∧ isBare c = true ∧ skipSpace (c :: t) = c :: t := by
  rw [chars, List.append_assoc]
  exact h.begins _

theorem Proper.key?_eq (h : l.Proper) (rest : List Char) :
    key? limit (l.key.toList ++ ' ' :: '=' :: rest) = some ([l.key], '=' :: rest) := by
  have hspace : isBare ' ' = false := by decide
  have hfirst : skipSpace (l.key.toList ++ ' ' :: '=' :: rest) = l.key.toList ++ ' ' :: '=' :: rest := by
    obtain ⟨c, t, ht, -, hskip⟩ := h.begins (' ' :: '=' :: rest)
    rw [ht, hskip]
  have htake : (l.key.toList ++ ' ' :: '=' :: rest).takeWhile isBare = l.key.toList := by
    rw [List.takeWhile_append_of_pos h.bare]
    simp [hspace]
  have hdrop : (l.key.toList ++ ' ' :: '=' :: rest).dropWhile isBare = ' ' :: '=' :: rest := by
    rw [List.dropWhile_append_of_pos h.bare]
    simp [hspace]
  have hskip : skipSpace (' ' :: '=' :: rest) = '=' :: rest := by simp [skipSpace, isSpace]
  have hpart : keyPart? (l.key.toList ++ ' ' :: '=' :: rest) = some (l.key, ' ' :: '=' :: rest) := by
    simp [keyPart?, htake, hdrop, h.nonempty]
  rw [limit, key?.eq_def]
  simp [hfirst, hpart, hskip]

theorem Proper.statement?_eq (h : l.Proper) (rest : List Char) :
    statement? (l.chars ++ rest) = some (.entry [l.key] l.value, '\n' :: rest) := by
  have hchars : l.chars ++ rest = l.key.toList ++ ' ' :: '=' :: ' ' :: (l.text ++ '\n' :: rest) := by
    simp [chars]
  have hskip : skipSpace (' ' :: (l.text ++ '\n' :: rest)) = l.text ++ '\n' :: rest := by
    cases htext : l.text with
    | nil => simp [skipSpace, isSpace]
    | cons c t =>
      have hc := h.legible.begins c (by simp [htext])
      simp only [isSpace] at hc
      simp [skipSpace, hc, isSpace]
  have hhead : (l.chars ++ rest).head? ≠ some '[' := by
    obtain ⟨c, t, ht, hc, -⟩ := h.chars_begin rest
    rw [ht]
    rintro ⟨⟩
    exact absurd hc (by decide)
  rw [statement?, if_neg hhead, hchars, pair?]
  simp [h.key?_eq, exactly?, hskip, h.legible.reads]

theorem length_le (ls : List Line) : ls.length ≤ (ls.flatMap chars).length := by
  induction ls with
  | nil => simp
  | cons l ls ih =>
    simp only [List.flatMap_cons, List.length_append, List.length_cons, chars]
    omega

/-- **Lines are read as statements**, each by itself. -/
theorem statements?_lines {ls : List Line} (hproper : ∀ l ∈ ls, l.Proper) {fuel : Nat}
    (hfuel : ls.length ≤ fuel) :
    statements? fuel (ls.flatMap chars) = some (ls.map fun l => .entry [l.key] l.value) := by
  induction ls generalizing fuel with
  | nil => cases fuel <;> simp [statements?, skipSpace]
  | cons l ls ih =>
    obtain ⟨fuel, rfl⟩ : ∃ n, fuel = n + 1 := ⟨fuel - 1, by simp at hfuel; omega⟩
    have hl := hproper l (by simp)
    have hmore := ih (fun x hx => hproper x (by simp [hx])) (by simpa using hfuel)
    have hstatement := hl.statement?_eq (ls.flatMap chars)
    have hend : endLine? ('\n' :: ls.flatMap chars) = some (ls.flatMap chars) := by
      simp [endLine?, skipSpace, isSpace, lineBreak?]
    obtain ⟨c, t, ht, hc, hskip⟩ := hl.chars_begin (ls.flatMap chars)
    rw [ht] at hstatement
    have hatEnd : atEnd (c :: t) = false := by
      have hhash : c ≠ '#' := by
        rintro rfl
        exact absurd hc (by decide)
      have hbreak : lineBreak? (c :: t) = none := by
        refine lineBreak?_eq_none ?_
        rintro d ⟨⟩
        constructor
        · rintro rfl
          exact absurd hc (by decide)
        · rintro rfl
          exact absurd hc (by decide)
      simp [atEnd, hhash, hbreak]
    rw [List.flatMap_cons, ht, statements?]
    simp [hskip, hatEnd, hstatement, hend, hmore]

end Line

/-! ### The table of a document -/

/-- Lines with different keys make the table of their keys and values. -/
theorem build_entries {es : Members} (h : (es.map Prod.fst).Nodup) :
    build (es.map fun e => .entry [e.1] e.2) = some es := by
  have hgo : ∀ (es done : Members), ((done ++ es).map Prod.fst).Nodup →
      (es.map fun e => Statement.entry [e.1] e.2).foldlM Draft.step ⟨done, []⟩ =
        some ⟨done ++ es, []⟩ := by
    intro es
    induction es with
    | nil => simp
    | cons e es ih =>
      intro done hdone
      have hnew : done.lookup e.1 = none := by
        rw [List.lookup_eq_none_iff]
        intro d hd
        rw [List.map_append, List.nodup_append] at hdone
        have hne := hdone.2.2 d.1 (List.mem_map_of_mem hd) e.1 (by simp)
        simpa using Ne.symm hne
      have hstep : Draft.step ⟨done, []⟩ (.entry [e.1] e.2) = some ⟨done ++ [e], []⟩ := by
        simp [Draft.step, Members.within, Members.assign, Members.add, hnew]
      have hrest := ih (done ++ [e]) (by simpa using hdone)
      simp [hstep, hrest]
  simpa [build, Draft.blank] using congrArg (Option.map Draft.root) (hgo es [] (by simpa using h))

/-- **A document of lines is read as the table of their keys and values.** -/
theorem readChars_lines {ls : List Line} (hproper : ∀ l ∈ ls, l.Proper)
    (hkeys : (ls.map Line.key).Nodup) :
    readChars (ls.flatMap Line.chars) = some (ls.map fun l => (l.key, l.value)) := by
  have hmark : (ls.flatMap Line.chars).head? ≠ some byteOrderMark := by
    cases ls with
    | nil => simp
    | cons l ls =>
      obtain ⟨c, t, ht, hc, -⟩ := (hproper l (by simp)).chars_begin (ls.flatMap Line.chars)
      rw [List.flatMap_cons, ht]
      rintro ⟨⟩
      exact absurd hc (by decide)
  have hnodup : ((ls.map fun l => (l.key, l.value)).map Prod.fst).Nodup := by
    rw [List.map_map]
    exact hkeys
  have hbuild := build_entries hnodup
  rw [List.map_map] at hbuild
  have hstatements := Line.statements?_lines hproper (Line.length_le ls)
  simp only [readChars, if_neg hmark, hstatements]
  exact hbuild

end PersonaDialogue.Toml
