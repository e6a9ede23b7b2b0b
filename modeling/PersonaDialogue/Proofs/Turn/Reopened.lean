import Mathlib.Data.List.DropRight
import PersonaDialogue.Proofs.Json.Thorough
import PersonaDialogue.Proofs.Turn.Log

/-!
# Writing behind a log

A log that can be read may end in the middle of a line: the last event is read whether or not a line feed
ends it, and so is white space behind the last line feed.  An event that is written behind such a log does
not begin a line of its own.  It is read together with what stands there already, so the log stays readable if
and only if that is nothing but space in the sense of JSON (`readLog_writeEvent`).
-/

namespace PersonaDialogue

/-! ### Lines -/

namespace Text

/-- What stands behind the last line feed of a text. -/
def unfinished (s : List Char) : List Char := s.rtakeWhile (· != '\n')

theorem newline_not_mem_unfinished (s : List Char) : '\n' ∉ unfinished s := by
  intro h
  simpa using List.mem_rtakeWhile_imp h

theorem linesAfter_append_newline (line a t : List Char) :
    linesAfter line (a ++ '\n' :: t) = linesAfter line (a ++ ['\n']) ++ lines t := by
  induction a generalizing line with
  | nil => simp [linesAfter, lines]
  | cons c a ih =>
    rw [List.cons_append, List.cons_append, linesAfter, linesAfter, ih, ih]
    split <;> rfl

/-- Whatever is written behind a text, the lines that ended before are the same. -/
theorem lines_append_unfinished (s : List Char) :
    ∃ ended, s = ended ++ unfinished s ∧
      ∀ t, lines (s ++ t) = lines ended ++ lines (unfinished s ++ t) := by
  refine ⟨s.rdropWhile (· != '\n'), (List.rdropWhile_append_rtakeWhile ..).symm, fun t => ?_⟩
  have hsplit : s = s.rdropWhile (· != '\n') ++ unfinished s := (List.rdropWhile_append_rtakeWhile ..).symm
  rcases List.eq_nil_or_concat (s.rdropWhile (· != '\n')) with hnil | ⟨a, c, ha⟩
  · rw [hnil, List.nil_append] at hsplit
    rw [hnil, ← hsplit]
    rfl
  · have hc : c = '\n' := by
      have hlast := List.rdropWhile_last_not (· != '\n') s (by rw [ha]; simp)
      simpa [ha] using hlast
    subst hc
    rw [ha] at hsplit ⊢
    conv_lhs => rw [hsplit]
    simp only [List.concat_eq_append, List.append_assoc, List.singleton_append]
    exact linesAfter_append_newline [] a _

theorem linesAfter_of_not_mem {s : List Char} (h : '\n' ∉ s) (line : List Char) :
    linesAfter line s = if (s.reverse ++ line).isEmpty then [] else [line.reverse ++ s] := by
  induction s generalizing line with
  | nil => simp [linesAfter]
  | cons c s ih =>
    have hc : c ≠ '\n' := fun he => h (he ▸ List.mem_cons_self)
    have hs : '\n' ∉ s := fun hmem => h (List.mem_cons_of_mem _ hmem)
    rw [linesAfter, if_neg hc, ih hs]
    simp

/-- A text without a line feed is one line, unless it is empty. -/
theorem lines_of_not_mem {s : List Char} (h : '\n' ∉ s) : lines s = if s = [] then [] else [s] := by
  rw [lines, linesAfter_of_not_mem h]
  simp

theorem lines_ended {s : List Char} (hfeed : '\n' ∉ s) (hreturn : s.getLast? ≠ some '\r') :
    lines (s ++ ['\n']) = [s] := by
  have hkept : dropReturn s.reverse = s.reverse := by
    rw [← List.head?_reverse] at hreturn
    unfold dropReturn
    split
    · next hs => simp [hs] at hreturn
    · rfl
  rw [lines, linesAfter_append [] hfeed, List.append_nil, hkept, List.reverse_reverse]
  rfl

end Text

/-! ### Values with something in front -/

namespace Json

theorem isBlank_of_isSpace {c : Char} (h : isSpace c = true) : Text.isBlank c = true := by
  simp only [isSpace, Bool.or_eq_true, beq_iff_eq] at h
  rcases h with ((rfl | rfl) | rfl) | rfl <;> decide

/-- White space that is no space of JSON begins no value. -/
theorem ofChars_of_blank {s r : List Char} {c : Char} (hs : skipSpace s = c :: r)
    (hc : Text.isBlank c = true) : Document.ofChars s = ⟨.broken .nothing .malformed, false⟩ := by
  have hplain : ∀ d ∈ ['"', '[', '\x7b', 'n', 't', 'f', '-'], c ≠ d := by
    rintro _ hd rfl
    simp only [List.mem_cons, List.not_mem_nil, or_false] at hd
    rcases hd with rfl | rfl | rfl | rfl | rfl | rfl | rfl <;> exact absurd hc (by decide)
  simp only [List.forall_mem_cons] at hplain
  have hdigit : Text.digitValue? c = none := by
    rw [Text.digitValue?, if_neg]
    intro hrange
    simp [Text.isBlank] at hc
    omega
  simp [Document.ofChars, valueWithin, hs, hplain, hdigit]

/-- Space in front of a text that was written makes no difference. -/
theorem readChars_spaced {α : Type} (decode : Decoder α) {s : List Char}
    (hs : ∀ c ∈ s, isSpace c = true) (v : Value) :
    readChars decode (s ++ v.compactChars) = readChars decode v.compactChars := by
  have hspaced := ofChars_of_spells v.spells_compact ⟨s, hs⟩ .none
  rw [show Gap.none.chars = [] from rfl, List.append_nil] at hspaced
  rw [readChars, readChars, hspaced, ofChars_of_spells_tight v.spells_compact]

end Json

/-! ### Events with something in front -/

namespace Event

open Json

theorem thorough_decode : Thorough decode := by
  have hid : Thorough Uuid.decode :=
    thorough_of_string (fun _ _ => rfl) fun _ v hv => by
      cases v with
      | text l => exact absurd rfl (hv l)
      | _ => rfl
  have htime : Thorough Instant.decode :=
    thorough_of_string (fun _ _ => rfl) fun _ v hv => by
      cases v with
      | text l => exact absurd rfl (hv l)
      | _ => rfl
  have hdetails : Thorough decodeDetails := by
    intro depth v a h
    obtain ⟨b, hb, -⟩ := bind_eq_ok h
    exact skip_of_decodeValue v hb
  have hfields : fields.AllThorough :=
    ⟨hid, hid, thorough_variant EventKind.table, htime, hdetails, trivial⟩
  intro depth v e h
  obtain ⟨r, hr, -⟩ := bind_eq_ok h
  exact Fields.thorough_decode hfields _ hr

/-- The line of an event begins with a brace. -/
theorem toLine_cons (e : Event) : ∃ s, e.toLine.toList = '\x7b' :: s := by
  rw [toLine, Json.Value.compact, String.toList_ofList]
  exact ⟨_, rfl⟩

variable {s : List Char} {e : Event}

/-- An event behind another one is read as neither of them. -/
theorem ofLine_behind {e' : Event} (h : ofLine (String.ofList s) = .ok e') (e : Event) :
    ofLine (String.ofList (s ++ e.toLine.toList)) = malformed := by
  obtain ⟨r, hr⟩ := e.toLine_cons
  have hstops : Stops e.toLine.toList := by
    rw [hr]
    rintro c ⟨⟩
    decide
  have hspace : e.toLine.toList.all isSpace = false := by
    rw [hr]
    rfl
  rw [ofLine, Json.read, String.toList_ofList] at h ⊢
  exact readChars_append_refused thorough_decode h hstops hspace

/-- An event behind white space is read if and only if JSON knows the white space. -/
theorem ofLine_spaced (hs : s.all isSpace = true) (e : Event) :
    ofLine (String.ofList (s ++ e.toLine.toList)) = ofLine e.toLine := by
  have hline : e.toLine.toList = e.toJson.compactChars := by
    rw [toLine, Json.Value.compact, String.toList_ofList]
  rw [ofLine, ofLine, Json.read, Json.read, String.toList_ofList, hline]
  exact readChars_spaced decode (List.all_eq_true.1 hs) e.toJson

theorem ofLine_blank (hblank : Text.isAllBlank s = true) (hs : s.all isSpace = false) (t : List Char)
    (e : Event) : ofLine (String.ofList (s ++ t)) ≠ .ok e := by
  obtain ⟨c, r, hc⟩ : ∃ c r, skipSpace s = c :: r := by
    refine List.exists_cons_of_ne_nil fun hnil => ?_
    rw [skipSpace, List.dropWhile_eq_nil_iff, ← List.all_eq_true, hs] at hnil
    cases hnil
  have hmem : c ∈ s := by
    have hsuffix : skipSpace s <:+ s := List.dropWhile_suffix _
    exact hsuffix.subset (hc ▸ List.mem_cons_self)
  have hcblank : Text.isBlank c = true := List.all_eq_true.1 hblank c hmem
  rw [ofLine, Json.read, String.toList_ofList]
  exact readChars_broken_refused thorough_decode
    (ofChars_of_blank (skipSpace_append_cons hc t) hcblank) e

/-! ### Logs -/

theorem ofLines?_append (xs ys : List (List Char)) :
    ofLines? (xs ++ ys) = (ofLines? xs).bind fun es => (ofLines? ys).map (es ++ ·) := by
  induction xs with
  | nil => simp [ofLines?]
  | cons x xs ih =>
    rw [List.cons_append, ofLines?, ofLines?, ih]
    split
    · rfl
    · cases ofLine (String.ofList x) with
      | error p => rfl
      | ok e =>
        cases ofLines? xs <;> cases ofLines? ys <;> rfl

/-- A line that is not blank holds the event that is read in it. -/
theorem ofLines?_single {line : List Char} (h : Text.isAllBlank line = false) :
    ofLines? [line] = (ofLine (String.ofList line)).toOption.map fun e => [e] := by
  rw [ofLines?, h]
  cases ofLine (String.ofList line) <;> rfl

theorem behind_not_blank (s : List Char) (e : Event) :
    Text.isAllBlank (s ++ e.toLine.toList) = false := by
  have hline := e.toLine_not_blank
  rw [Text.isAllBlank] at hline ⊢
  rw [List.all_append, hline, Bool.and_false]

/-- What is read in a log to which an event was written. -/
theorem ofLog?_entry {text : String} {es : List Event} (h : ofLog? text = some es)
    (he : ofLine e.toLine = .ok e) :
    ofLog? (text ++ e.entry) =
      if (Text.unfinished text.toList).all isSpace then some (es ++ [e]) else none := by
  obtain ⟨ended, htext, hlines⟩ := Text.lines_append_unfinished text.toList
  have hfeed := Text.newline_not_mem_unfinished text.toList
  generalize Text.unfinished text.toList = tail at htext hlines hfeed ⊢
  -- The last line of the log before and after.
  have hbefore : Text.lines text.toList = Text.lines ended ++ Text.lines tail := by
    simpa using hlines []
  have hentry : (text ++ e.entry).toList = text.toList ++ (e.toLine.toList ++ ['\n']) := by
    simp [entry]
  have hglued : Text.lines (tail ++ (e.toLine.toList ++ ['\n'])) = [tail ++ e.toLine.toList] := by
    rw [← List.append_assoc]
    refine Text.lines_ended ?_ ?_
    · simp [hfeed, e.toLine_visible.newline_not_mem]
    · obtain ⟨r, hr⟩ := e.toLine_cons
      intro hlast
      have hmem : '\r' ∈ e.toLine.toList := by
        rw [List.getLast?_append_of_ne_nil _ (by rw [hr]; simp)] at hlast
        exact List.mem_of_getLast? hlast
      exact e.toLine_visible.return_not_mem hmem
  rw [ofLog?, hbefore, ofLines?_append] at h
  obtain ⟨first, hfirst, hrest⟩ := Option.bind_eq_some_iff.1 h
  obtain ⟨last, hlast, rfl⟩ := Option.map_eq_some_iff.1 hrest
  rw [ofLog?, hentry, hlines, hglued, ofLines?_append, hfirst, Option.bind_some,
    ofLines?_single (behind_not_blank tail e)]
  rw [Text.lines_of_not_mem hfeed] at hlast
  by_cases hspace : tail.all isSpace = true
  · -- Nothing was read in the last line, and nothing stands in the way now.
    have hblank : Text.isAllBlank tail = true :=
      List.all_eq_true.2 fun c hc => isBlank_of_isSpace (List.all_eq_true.1 hspace c hc)
    have hnone : last = [] := by
      split at hlast
      · exact (Option.some.inj hlast).symm
      · rw [ofLines?, hblank] at hlast
        exact (Option.some.inj hlast).symm
    rw [if_pos hspace, ofLine_spaced hspace, he, hnone]
    simp [Except.toOption]
  · have hspace : tail.all isSpace = false := Bool.eq_false_iff.2 hspace
    have hrefused : (ofLine (String.ofList (tail ++ e.toLine.toList))).toOption = none := by
      by_cases hblank : Text.isAllBlank tail = true
      · cases hread : ofLine (String.ofList (tail ++ e.toLine.toList)) with
        | error p => rfl
        | ok e' => exact absurd hread (ofLine_blank hblank hspace _ e')
      · -- The last line held an event.
        have hblank : Text.isAllBlank tail = false := Bool.eq_false_iff.2 hblank
        have htail : tail ≠ [] := by
          rintro rfl
          cases hspace
        rw [if_neg htail, ofLines?_single hblank] at hlast
        obtain ⟨e', he', -⟩ := Option.map_eq_some_iff.1 hlast
        cases hread : ofLine (String.ofList tail) with
        | error p =>
          rw [hread] at he'
          cases he'
        | ok e'' =>
          rw [ofLine_behind hread e]
          rfl
    rw [hspace, hrefused]
    rfl

end Event

/-! ### On a disk -/

/-- **An event that is written behind a log is read behind its events if and only if nothing but space
stands behind the last line feed of the log**; otherwise the log is not readable any more. -/
theorem Disk.readLog_writeEvent {d : Disk} {path text : String} {es : List Event} {e : Event}
    (h : d.Holds path text) (hread : d.readLog path = .ok es) (he : Event.ofLine e.toLine = .ok e) :
    (writeEvent path d e).readLog path =
      if (Text.unfinished text.toList).all Json.isSpace then .ok (es ++ [e]) else .error .malformed := by
  have hlog : Event.ofLog? text = some es := by
    rw [readLog, h.read, Event.ofFound] at hread
    split at hread
    · next events hevents => rw [hevents, Except.ok.inj hread]
    · cases hread
  rw [readLog, (h.writeEvent e).read, Event.ofFound, Event.ofLog?_entry hlog he]
  by_cases hspace : (Text.unfinished text.toList).all Json.isSpace = true
  · rw [if_pos hspace, if_pos hspace]
  · rw [if_neg hspace, if_neg hspace]

/-- Behind a line feed and a space. -/
theorem Disk.readLog_writeEvent_space :
    let e : Event := ⟨⟨1⟩, ⟨2⟩, .turnStarted, ⟨⟨2024, 1, 1⟩, 9, 0, 0, 0⟩, .text "x"⟩
    let d : Disk := ⟨fun p => if p = ["turns.jsonl", "desk"] then some (.file (.text (e.entry ++ " ")))
      else some .folder, ["desk"]⟩
    d.Holds "turns.jsonl" (e.entry ++ " ") ∧ d.readLog "turns.jsonl" = .ok [e] ∧
      Event.ofLine e.toLine = .ok e ∧
      (writeEvent "turns.jsonl" d e).readLog "turns.jsonl" = .ok [e, e] := by
  intro e d
  have hholds : d.Holds "turns.jsonl" (e.entry ++ " ") :=
    ⟨by rfl, by decide +kernel, ["turns.jsonl", "desk"], by decide +kernel, by rfl⟩
  have he : Event.ofLine e.toLine = .ok e :=
    Event.ofLine_toLine ⟨⟨by decide, by decide, by decide, by decide, .inl (by decide)⟩,
      Json.Value.settled_text 1 "x"⟩
  have hread : d.readLog "turns.jsonl" = .ok [e] := by
    have hlines : Text.lines (e.entry ++ " ").toList = [e.toLine.toList, [' ']] := by
      rw [show (e.entry ++ " ").toList = e.toLine.toList ++ '\n' :: [' '] by simp [Event.entry]]
      exact Text.lines_append e.toLine_visible.newline_not_mem e.toLine_visible.return_not_mem _
    have hlog : Event.ofLog? (e.entry ++ " ") = some [e] := by
      rw [Event.ofLog?, hlines, Event.ofLines?, e.toLine_not_blank, String.ofList_toList, he]
      rfl
    rw [readLog, hholds.read, Event.ofFound, hlog]
  refine ⟨hholds, hread, he, ?_⟩
  have hspace : (Text.unfinished (e.entry ++ " ").toList).all Json.isSpace = true := by decide +kernel
  rw [readLog_writeEvent hholds hread he, if_pos hspace]
  rfl

/-- **A log whose last line is an event without a line feed is read, but not after the next event was
written.** -/
theorem Disk.unfinished_log_broken :
    let e : Event := ⟨⟨1⟩, ⟨2⟩, .turnStarted, ⟨⟨2024, 1, 1⟩, 9, 0, 0, 0⟩, .text "x"⟩
    let d : Disk := ⟨fun p => if p = ["turns.jsonl", "desk"] then some (.file (.text e.toLine))
      else some .folder, ["desk"]⟩
    d.readLog "turns.jsonl" = .ok [e] ∧
      (writeEvent "turns.jsonl" d e).readLog "turns.jsonl" = .error .malformed := by
  intro e d
  have hholds : d.Holds "turns.jsonl" e.toLine :=
    ⟨by rfl, by decide +kernel, ["turns.jsonl", "desk"], by decide +kernel, by rfl⟩
  have he : Event.ofLine e.toLine = .ok e :=
    Event.ofLine_toLine ⟨⟨by decide, by decide, by decide, by decide, .inl (by decide)⟩,
      Json.Value.settled_text 1 "x"⟩
  have hlog : Event.ofLog? e.toLine = some [e] := by
    have hlines : Text.lines e.toLine.toList = [e.toLine.toList] := by decide +kernel
    rw [Event.ofLog?, hlines, Event.ofLines?, e.toLine_not_blank, String.ofList_toList, he]
    rfl
  have htail : (Text.unfinished e.toLine.toList).all Json.isSpace = false := by decide +kernel
  refine ⟨by rw [readLog, hholds.read, Event.ofFound, hlog], ?_⟩
  rw [readLog, (hholds.writeEvent e).read, Event.ofFound, Event.ofLog?_entry hlog he, htail]
  rfl

end PersonaDialogue
