import PersonaDialogue.Proofs.Json.Numeral
import PersonaDialogue.Toml.Writer

/-!
# Strings that were quoted are read back

A text is quoted in one of four ways, and reading it in the same way gives the text back, whatever
follows it that is not one more quotation mark (`string?_quoteChars`).  With escapes this holds of every
text (`body_escaped`), as it stands only of texts without the characters for which the writer falls back
on escapes (`body_asItStands`).  Over several lines the marks of the text and the closing marks can
touch: the writer leaves at most two marks in a row, and the reader allows for two
(`Quoting.close?_atEnd`).
-/

namespace PersonaDialogue.Toml

open Json (hexValue?)

/-! ### Characters that stand for themselves -/

theorem plain_of_not_control {c : Char} (h : isControl c = false) (hfeed : c ≠ '\n') :
    isPlain c = true := by
  by_cases htab : c = '\t'
  · simp [isPlain, htab]
  · simp only [isControl, Bool.or_eq_false_iff, Bool.and_eq_false_iff, bne_eq_false_iff_eq,
      decide_eq_false_iff_not, beq_eq_false_iff_ne, htab, hfeed, or_false] at h
    simp only [isPlain, Bool.or_eq_true, Bool.and_eq_true, decide_eq_true_eq, bne_iff_ne]
    exact .inr ⟨by omega, h.2⟩

theorem body_cons {q : Quoting} {c : Char} (hmark : c ≠ q.mark) (hescape : ¬ (c = '\\' ∧ q.escapes = true))
    (hcontrol : isControl c = false) (hfeed : c = '\n' → q.lines = true) (s : List Char) :
    q.body .text (c :: s) = emit c (q.body .text s) := by
  by_cases hc : c = '\n'
  · subst hc
    simp [Quoting.body, hmark, hfeed rfl]
  · have hreturn : c ≠ '\r' := by
      rintro rfl
      exact absurd hcontrol (by decide)
    simp [Quoting.body, hmark, hescape, hc, hreturn, plain_of_not_control hcontrol hc]

/-! ### Characters that are escaped -/

section Escaped

variable {lines : Bool} {s : List Char}

/-- Double quotes with escapes, on one line or over several. -/
def doubleQuotes (lines : Bool) : Quoting := ⟨'"', true, lines⟩

theorem body_named {x c : Char} (h : named? x = some c) :
    (doubleQuotes lines).body .text ('\\' :: x :: s) = emit c ((doubleQuotes lines).body .text s) := by
  have hu : x ≠ 'u' := by
    rintro rfl
    cases h
  have hU : x ≠ 'U' := by
    rintro rfl
    cases h
  simp [doubleQuotes, Quoting.body, hu, hU, h]

theorem hexValue?_upper : ∀ n < 16, hexValue? (Text.hexDigit n).toUpper = some n := by decide

theorem body_code {c : Char} (h : c.toNat < 128) :
    (doubleQuotes lines).body .text (codeEscape c ++ s) = emit c ((doubleQuotes lines).body .text s) := by
  have hhigh := hexValue?_upper (c.toNat / 16) (by omega)
  have hlow := hexValue?_upper (c.toNat % 16) (by omega)
  have hzero : hexValue? '0' = some 0 := by decide
  have hvalue : c.toNat / 16 * 16 + c.toNat % 16 = c.toNat := Nat.div_add_mod' ..
  have hscalar : scalar? c.toNat = some c := by
    rw [scalar?, if_pos (.inl (by omega)), Char.ofNat_toNat]
  simp [doubleQuotes, codeEscape, Quoting.body, hhigh, hlow, hzero, hvalue, hscalar]

/-- An escaped character is read back, and so is one that stands for itself; a quotation mark is only
escaped if it would close the string. -/
theorem body_escapeChar {run : Nat} {c : Char} (hquote : c = '"' → lines = false ∨ 2 ≤ run) :
    (doubleQuotes lines).body .text (escapeChar lines run c ++ s) =
      emit c ((doubleQuotes lines).body .text s) := by
  unfold escapeChar
  split
  · next h =>
    subst h
    have hclose : ¬ (lines = true ∧ run < 2) := by
      rcases hquote rfl with rfl | h
      · simp
      · omega
    rw [if_neg hclose]
    exact body_named rfl
  split
  · next h =>
    subst h
    exact body_named rfl
  split
  · next hquote hslash h =>
    exact body_cons hquote (fun hc => hslash hc.1) (h.1 ▸ by decide) (fun _ => h.2) s
  split
  · next h => exact h ▸ body_named rfl
  split
  · next h => exact h ▸ body_named rfl
  split
  · next h => exact h ▸ body_named rfl
  split
  · next h =>
    have hc : c = Char.ofNat 8 := by rw [← h, Char.ofNat_toNat]
    exact hc ▸ body_named rfl
  split
  · next h =>
    have hc : c = Char.ofNat 12 := by rw [← h, Char.ofNat_toNat]
    exact hc ▸ body_named rfl
  split
  · next h =>
    refine body_code ?_
    simp only [isControl, Bool.or_eq_true, Bool.and_eq_true, decide_eq_true_eq, beq_iff_eq] at h
    omega
  · next hquote hslash hlines hfeed htab hreturn hback hform hcontrol =>
    exact body_cons hquote (fun hc => hslash hc.1) (by simpa using hcontrol)
      (fun hc => absurd hc hfeed) s

/-- Between single double quotes every text is read back. -/
theorem body_escaped_short (run : Nat) (s rest : List Char) :
    basic.body .text (escaped false run s ++ '"' :: rest) = some (s, rest) := by
  induction s generalizing run with
  | nil => simp [escaped, basic, Quoting.body]
  | cons c s ih =>
    rw [escaped, List.append_assoc]
    exact (body_escapeChar fun _ => .inl rfl).trans (by rw [show doubleQuotes false = basic from rfl, ih]; rfl)

end Escaped

/-! ### Marks over several lines -/

def closing (mark : Char) : List Char := [mark, mark, mark]

namespace Quoting

variable {q : Quoting} {s rest : List Char}

/-- Of the marks that end a text and the three that close it, the first decides: those by which there
are more than three belong to the text. -/
theorem close?_marks (hrest : ∀ c ∈ rest.head?, c ≠ q.mark)
    (hs : s = [] ∨ s = [q.mark] ∨ s = [q.mark, q.mark]) :
    q.close? (s ++ q.mark :: q.mark :: rest) = some (s, rest) := by
  have hstop : ∀ n, (rest.take n).takeWhile (fun c => c == q.mark) = [] := by
    intro n
    obtain _ | ⟨c, rest⟩ := rest
    · simp
    · cases n <;> simp [hrest c rfl]
  rcases hs with rfl | rfl | rfl <;> simp [close?, hstop]

theorem close?_eq_none (hs : s.take 2 ≠ [q.mark, q.mark]) : q.close? s = none := if_neg hs

theorem body_closing (hlines : q.lines = true) (hrest : ∀ c ∈ rest.head?, c ≠ q.mark)
    (hs : s = [] ∨ s = [q.mark] ∨ s = [q.mark, q.mark]) :
    q.body .text (s ++ (closing q.mark ++ rest)) = some (s, rest) := by
  have hclose := close?_marks hrest hs
  have hmarks : s ++ (closing q.mark ++ rest) = q.mark :: (s ++ q.mark :: q.mark :: rest) := by
    rcases hs with rfl | rfl | rfl <;> rfl
  simp [hmarks, body, hlines, hclose]

theorem body_mark_of_none (hlines : q.lines = true) (h : q.close? s = none) :
    q.body .text (q.mark :: s) = emit q.mark (q.body .text s) := by
  simp [body, hlines, h]

end Quoting

/-- A character is written as it stands, or behind a backslash. -/
theorem escapeChar_cases (lines : Bool) (run : Nat) (c : Char) :
    (escapeChar lines run c = [c] ∧ c ≠ '\r' ∧ (c = '"' → run < 2)) ∨
      ∃ t, escapeChar lines run c = '\\' :: t := by
  unfold escapeChar
  split
  · next h =>
    split
    · next hrun => exact .inl ⟨rfl, by subst h; decide, fun _ => hrun.2⟩
    · exact .inr ⟨_, rfl⟩
  · next hquote =>
    by_cases hreturn : c = '\r'
    · subst hreturn
      exact .inr ⟨_, rfl⟩
    · simp only [hreturn, if_false]
      repeat' split
      all_goals first
        | exact .inr ⟨_, rfl⟩
        | exact .inl ⟨rfl, hreturn, fun h => absurd h hquote⟩

/-- A text with escapes does not begin with two marks, unless it ends there. -/
theorem escaped_lines_take (rest : List Char) {run : Nat} (hrun : 1 ≤ run) {s : List Char}
    (hs : ¬ (s = [] ∨ s = ['"'] ∧ run = 1)) :
    (escaped true run s ++ (closing '"' ++ rest)).take 2 ≠ ['"', '"'] := by
  obtain _ | ⟨c, s⟩ := s
  · exact absurd (.inl rfl) hs
  · rw [escaped]
    rcases escapeChar_cases true run c with ⟨hc, -, hquote⟩ | ⟨t, ht⟩
    · rw [hc]
      by_cases hmark : c = '"'
      · subst hmark
        obtain rfl : run = 1 := by
          have := hquote rfl
          omega
        obtain _ | ⟨d, s⟩ := s
        · exact absurd (.inr ⟨rfl, rfl⟩) hs
        · rw [show runAfter 1 '"' = 2 from rfl, escaped]
          rcases escapeChar_cases true 2 d with ⟨hd, -, hquote⟩ | ⟨u, hu⟩
          · rw [hd]
            have hne : d ≠ '"' := fun h => absurd (hquote h) (by omega)
            simp [hne]
          · simp [hu]
      · simp [hmark]
    · simp [ht]

/-- Between three double quotes every text is read back. -/
theorem body_escaped_lines {rest : List Char} (hrest : ∀ c ∈ rest.head?, c ≠ '"') (run : Nat)
    (s : List Char) :
    basicLines.body .text (escaped true run s ++ (closing '"' ++ rest)) = some (s, rest) := by
  induction s generalizing run with
  | nil => exact Quoting.body_closing (q := basicLines) rfl hrest (.inl rfl)
  | cons c s ih =>
    rw [escaped, List.append_assoc]
    by_cases hmark : c = '"' ∧ run < 2
    · obtain ⟨rfl, hrun⟩ := hmark
      have hstands : escapeChar true run '"' = ['"'] := by simp [escapeChar, hrun]
      have hnext : runAfter run '"' = run + 1 := by simp [runAfter, hrun]
      rw [hstands, hnext]
      by_cases hend : s = [] ∨ s = ['"'] ∧ run + 1 = 1
      · rcases hend with rfl | ⟨rfl, hrun⟩
        · exact Quoting.body_closing (q := basicLines) rfl hrest (.inr (.inl rfl))
        · obtain rfl : run = 0 := by omega
          exact Quoting.body_closing (q := basicLines) rfl hrest (.inr (.inr rfl))
      · have hopen := Quoting.close?_eq_none (q := basicLines)
          (escaped_lines_take rest (by omega : 1 ≤ run + 1) hend)
        exact (Quoting.body_mark_of_none rfl hopen).trans (by rw [ih]; rfl)
    · refine (body_escapeChar fun hc => .inr ?_).trans ?_
      · have hrun : ¬ run < 2 := fun h => hmark ⟨hc, h⟩
        omega
      · rw [show doubleQuotes true = basicLines from rfl, ih]
        rfl

/-! ### Texts without escapes -/

theorem le_longestRun (mark : Char) (run : Nat) (s : List Char) : run ≤ longestRun mark run s := by
  induction s generalizing run with
  | nil => exact Nat.le_refl run
  | cons c s ih =>
    rw [longestRun]
    split
    · exact Nat.le_trans (Nat.le_succ run) (ih (run + 1))
    · exact Nat.le_max_left ..

theorem not_mem_of_longestRun {mark : Char} {s : List Char} (h : longestRun mark 0 s = 0) :
    mark ∉ s := by
  induction s with
  | nil => simp
  | cons c s ih =>
    rw [longestRun] at h
    split at h
    · have hrun := le_longestRun mark (0 + 1) s
      omega
    · next hc =>
      have hrest := ih (by omega)
      simp [Ne.symm hc, hrest]

/-- Between single quotes a text is read back that has no mark, no line feed and no control character. -/
theorem body_literal {s : List Char} (hmark : '\'' ∉ s) (hfeed : '\n' ∉ s)
    (hcontrol : ∀ c ∈ s, isControl c = false) (rest : List Char) :
    literal.body .text (s ++ '\'' :: rest) = some (s, rest) := by
  induction s with
  | nil => simp [literal, Quoting.body]
  | cons c s ih =>
    simp only [List.mem_cons, not_or] at hmark hfeed
    have hc := body_cons (q := literal) (Ne.symm hmark.1) (by simp [literal]) (hcontrol c (by simp))
      (fun h => absurd h.symm hfeed.1) (s ++ '\'' :: rest)
    rw [List.cons_append, hc, ih hmark.2 hfeed.2 fun x hx => hcontrol x (by simp [hx])]
    rfl

/-- Between three single quotes a text is read back that has no control character and not three marks in
a row; `run` of them stand right before it. -/
theorem body_literalLines {s rest : List Char} {run : Nat} (hrun : longestRun '\'' run s ≤ 2)
    (hcontrol : ∀ c ∈ s, isControl c = false) (hrest : ∀ c ∈ rest.head?, c ≠ '\'') :
    literalLines.body .text (s ++ (closing '\'' ++ rest)) = some (s, rest) := by
  induction s generalizing run with
  | nil => exact Quoting.body_closing (q := literalLines) rfl hrest (.inl rfl)
  | cons c s ih =>
    rw [longestRun] at hrun
    have htail : ∀ x ∈ s, isControl x = false := fun x hx => hcontrol x (by simp [hx])
    by_cases hmark : c = '\''
    · subst hmark
      rw [if_pos rfl] at hrun
      by_cases hend : s = [] ∨ s = ['\'']
      · rcases hend with rfl | rfl
        · exact Quoting.body_closing (q := literalLines) rfl hrest (.inr (.inl rfl))
        · exact Quoting.body_closing (q := literalLines) rfl hrest (.inr (.inr rfl))
      · have htake : (s ++ (closing '\'' ++ rest)).take 2 ≠ ['\'', '\''] := by
          obtain _ | ⟨c, _ | ⟨d, s⟩⟩ := s
          · simp at hend
          · have hc : c ≠ '\'' := by simpa using hend
            simp [hc]
          · intro h
            obtain ⟨rfl, rfl⟩ : c = '\'' ∧ d = '\'' := by simpa using h
            have hlong := le_longestRun '\'' (run + 1 + 1 + 1) s
            simp only [longestRun, if_pos] at hrun
            omega
        exact (Quoting.body_mark_of_none (q := literalLines) rfl (Quoting.close?_eq_none htake)).trans
          (by rw [ih hrun htail]; rfl)
    · rw [if_neg hmark] at hrun
      have hc := body_cons (q := literalLines) hmark (by simp [literalLines]) (hcontrol c (by simp))
        (fun _ => rfl) (s ++ (closing '\'' ++ rest))
      rw [List.cons_append, hc, ih (Nat.le_trans (Nat.le_max_right ..) hrun) htail]
      rfl

/-! ### Strings of every kind -/

/-- A text is only quoted without escapes if it can be read back so. -/
theorem Needs.quoting_cases (n : Needs) :
    n.quoting = basic ∨ (n.quoting = literal ∧ n.control = false ∧ n.singles = 0 ∧ n.lineFeed = false) ∨
      n.quoting = basicLines ∨ (n.quoting = literalLines ∧ n.control = false ∧ n.singles ≤ 2) := by
  unfold quoting
  split
  · exact .inl rfl
  split
  · next h =>
    simp only [Bool.and_eq_true, Bool.not_eq_true', beq_iff_eq] at h
    exact .inr (.inl ⟨rfl, h.1.1, h.1.2, h.2⟩)
  split
  · exact .inr (.inr (.inl rfl))
  split
  · next h =>
    simp only [Bool.and_eq_true, Bool.not_eq_true', decide_eq_true_eq] at h
    exact .inr (.inr (.inr ⟨rfl, h.1, h.2⟩))
  split
  · exact .inr (.inr (.inl rfl))
  · exact .inl rfl

theorem lineBreak?_eq_none {s : List Char} (h : ∀ c ∈ s.head?, c ≠ '\n' ∧ c ≠ '\r') :
    lineBreak? s = none := by
  obtain _ | ⟨c, s⟩ := s
  · rfl
  · obtain ⟨hfeed, hreturn⟩ := h c rfl
    simp [lineBreak?, hfeed, hreturn]

theorem bodyOfLines_eq {q : Quoting} {feed : Bool} {s : List Char}
    (h : feed = false → ∀ c ∈ s.head?, c ≠ '\n' ∧ c ≠ '\r') :
    q.bodyOfLines ((if feed then ['\n'] else []) ++ s) = q.body .text s := by
  cases feed with
  | true => simp [Quoting.bodyOfLines, lineBreak?]
  | false => simp [Quoting.bodyOfLines, lineBreak?_eq_none (h rfl)]

theorem string?_doubles (s : List Char) : string? (closing '"' ++ s) = basicLines.bodyOfLines s := by
  simp [string?, closing]

theorem string?_singles (s : List Char) : string? (closing '\'' ++ s) = literalLines.bodyOfLines s := by
  simp [string?, closing]

section Strings

variable {s rest : List Char} (hrest : ∀ c ∈ rest.head?, c ≠ '"' ∧ c ≠ '\'')
include hrest

theorem string?_basic : string? ('"' :: (escaped false 0 s ++ '"' :: rest)) = some (s, rest) := by
  -- A second mark right after the first is the closing one, and what follows it is no mark.
  have htake : (escaped false 0 s ++ '"' :: rest).take 2 ≠ ['"', '"'] := by
    obtain _ | ⟨c, s⟩ := s
    · obtain _ | ⟨d, rest⟩ := rest
      · simp [escaped]
      · simp [escaped, (hrest d rfl).1]
    · rw [escaped]
      rcases escapeChar_cases false 0 c with ⟨hc, -, -⟩ | ⟨t, ht⟩
      · have hne : c ≠ '"' := by
          rintro rfl
          exact absurd hc (by decide)
        simp [hc, hne]
      · simp [ht]
  simp [string?, shortString?, htake, body_escaped_short]

theorem string?_literal (hmark : '\'' ∉ s) (hfeed : '\n' ∉ s) (hcontrol : ∀ c ∈ s, isControl c = false) :
    string? ('\'' :: (s ++ '\'' :: rest)) = some (s, rest) := by
  have htake : (s ++ '\'' :: rest).take 2 ≠ ['\'', '\''] := by
    obtain _ | ⟨c, s⟩ := s
    · obtain _ | ⟨d, rest⟩ := rest
      · simp
      · simp [(hrest d rfl).2]
    · have hne : c ≠ '\'' := by
        rintro rfl
        exact hmark (by simp)
      simp [hne]
  simp [string?, shortString?, htake, body_literal hmark hfeed hcontrol]

theorem string?_basicLines {feed : Bool} (hfeed : feed = false → '\n' ∉ s) :
    string? (closing '"' ++ ((if feed then ['\n'] else []) ++
      (escaped true 0 s ++ (closing '"' ++ rest)))) = some (s, rest) := by
  have hhead : feed = false →
      ∀ c ∈ (escaped true 0 s ++ (closing '"' ++ rest)).head?, c ≠ '\n' ∧ c ≠ '\r' := by
    intro hnone
    obtain _ | ⟨c, s⟩ := s
    · simp [escaped, closing]
    · have hc : c ≠ '\n' := fun h => hfeed hnone (by simp [h])
      rw [escaped]
      rcases escapeChar_cases true 0 c with ⟨hstands, hreturn, -⟩ | ⟨t, ht⟩
      · simp [hstands, hc, hreturn]
      · simp [ht]
  rw [string?_doubles, bodyOfLines_eq hhead]
  exact body_escaped_lines (fun c hc => (hrest c hc).1) 0 s

theorem string?_literalLines {feed : Bool} (hfeed : feed = false → '\n' ∉ s)
    (hrun : longestRun '\'' 0 s ≤ 2) (hcontrol : ∀ c ∈ s, isControl c = false) :
    string? (closing '\'' ++ ((if feed then ['\n'] else []) ++ (s ++ (closing '\'' ++ rest)))) =
      some (s, rest) := by
  have hhead : feed = false →
      ∀ c ∈ (s ++ (closing '\'' ++ rest)).head?, c ≠ '\n' ∧ c ≠ '\r' := by
    intro hnone
    obtain _ | ⟨c, s⟩ := s
    · simp [closing]
    · rintro d ⟨⟩
      refine ⟨fun h => hfeed hnone (by simp [h]), ?_⟩
      rintro rfl
      exact absurd (hcontrol '\r' (by simp)) (by decide)
  rw [string?_singles, bodyOfLines_eq hhead]
  exact body_literalLines hrun hcontrol fun c hc => (hrest c hc).2

/-- **Every text that was quoted is read back.** -/
theorem string?_quoteChars (s : List Char) : string? (quoteChars s ++ rest) = some (s, rest) := by
  have hfeed : (Needs.of s).lineFeed = false → '\n' ∉ s := by simp [Needs.of]
  have hcontrol : (Needs.of s).control = false → ∀ c ∈ s, isControl c = false := by simp [Needs.of]
  rcases (Needs.of s).quoting_cases with h | ⟨h, hnone, hsingles, hline⟩ | h | ⟨h, hnone, hsingles⟩
  · simpa [quoteChars, h, Quoting.marks, basic] using string?_basic hrest (s := s)
  · simpa [quoteChars, h, Quoting.marks, literal] using
      string?_literal hrest (not_mem_of_longestRun hsingles) (hfeed hline) (hcontrol hnone)
  · simpa [quoteChars, h, Quoting.marks, basicLines, closing] using string?_basicLines hrest hfeed
  · simpa [quoteChars, h, Quoting.marks, literalLines, closing] using
      string?_literalLines hrest hfeed hsingles (hcontrol hnone)

end Strings

end PersonaDialogue.Toml
