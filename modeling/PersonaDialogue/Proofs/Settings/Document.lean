import PersonaDialogue.Proofs.Canvas.Codec
import PersonaDialogue.Proofs.Toml.Document
import PersonaDialogue.Settings.Document

/-!
# Settings are read back from their document

Whatever settings can be written are read back from what was written (`Settings.ofText?_of_toText?`),
the path of the log being any text at all.
-/

namespace PersonaDialogue

open Toml (Line Members)

namespace Settings

variable (s : Settings)

def logLines : Option String → List Line
  | some path => [⟨"event_log_path", Toml.quoteChars path.toList, .text path⟩]
  | none => []

def lines : List Line :=
  [⟨"latency_ms", Json.wholeText s.latency.toNat, .whole s.latency.toNat⟩,
    ⟨"relative_age_step", Json.wholeText s.ageStep.toNat, .whole s.ageStep.toNat⟩,
    ⟨"single_age_window", Json.wholeText s.ageWindow.toNat, .whole s.ageWindow.toNat⟩,
    ⟨"default_pain_point_priority", Toml.quoteChars s.painPointPriority.label.toList,
      .text s.painPointPriority.label⟩] ++ logLines s.eventLog

theorem logLine_toList (log : Option String) :
    (logLine log).toList = (logLines log).flatMap Line.chars := by
  cases log with
  | none => rfl
  | some path => simp [logLine, logLines, Toml.line, Toml.quote, Line.chars]

/-- The document of settings is made of their lines. -/
theorem toText?_eq_some_iff {text : String} :
    s.toText? = some text ↔
      s.latency.toNat ≤ latencyBound ∧ text.toList = s.lines.flatMap Line.chars := by
  have hlines : (Toml.line "latency_ms" (Toml.whole s.latency.toNat) ++
      Toml.line "relative_age_step" (Toml.whole s.ageStep.toNat) ++
      Toml.line "single_age_window" (Toml.whole s.ageWindow.toNat) ++
      Toml.line "default_pain_point_priority" (Toml.quote s.painPointPriority.label) ++
      logLine s.eventLog).toList = s.lines.flatMap Line.chars := by
    simp [lines, Toml.line, Toml.whole, Toml.quote, Line.chars, logLine_toList]
  unfold toText?
  split
  · next h =>
    constructor
    · intro htext
      exact ⟨h, Option.some.inj htext ▸ hlines⟩
    · intro htext
      rw [← hlines] at htext
      rw [String.toList_injective htext.2]
  · next h => simp [h]

theorem toText?_eq_none_iff : s.toText? = none ↔ latencyBound < s.latency.toNat := by
  unfold toText?
  split <;> simp <;> omega

theorem bare_proper {key : String} {text : List Char} {v : Toml.Value}
    (hkey : key.toList ≠ [] ∧ key.toList.all Toml.isBare = true) (h : Toml.Legible text v) :
    (⟨key, text, v⟩ : Line).Proper :=
  ⟨hkey.1, by simpa using hkey.2, h⟩

theorem lines_proper (h : s.latency.toNat ≤ latencyBound) : ∀ l ∈ s.lines, l.Proper := by
  have hword : ∀ n : UInt32, n.toNat ≤ 9223372036854775807 := fun n =>
    Nat.le_of_lt (Nat.lt_trans n.toNat_lt (by decide))
  intro l hl
  rcases List.mem_append.1 hl with hl | hl
  · simp only [List.mem_cons, List.not_mem_nil, or_false] at hl
    rcases hl with rfl | rfl | rfl | rfl
    · exact bare_proper (by decide) (Toml.legible_whole h)
    · exact bare_proper (by decide) (Toml.legible_whole (hword _))
    · exact bare_proper (by decide) (Toml.legible_whole (hword _))
    · exact bare_proper (by decide) (Toml.legible_quote _)
  · unfold logLines at hl
    split at hl
    · obtain rfl := List.mem_singleton.1 hl
      exact bare_proper (by decide) (Toml.legible_quote _)
    · cases hl

theorem lines_keys : (s.lines.map Line.key).Nodup := by
  unfold lines logLines
  split <;> simp

theorem readLong?_toNat (n : UInt64) : readLong? (.whole n.toNat) = some n := by
  rw [readLong?, if_pos ⟨Int.natCast_nonneg _, Int.ofNat_lt.2 n.toNat_lt_size⟩]
  simp

theorem readWord?_toNat (n : UInt32) : readWord? (.whole n.toNat) = some n := by
  rw [readWord?, if_pos ⟨Int.natCast_nonneg _, Int.ofNat_lt.2 n.toNat_lt_size⟩]
  simp

def table : Members := s.lines.map fun l => (l.key, l.value)

theorem setting?_of_lookup {α : Type} {read : Toml.Value → Option α} {fallback x : α} {key : String}
    {t : Members} {v : Toml.Value} (hkey : t.lookup key = some v) (hread : read v = some x) :
    setting? read fallback key t = some x := by
  rw [setting?, hkey]
  exact hread

theorem table_lookup_log : s.table.lookup "event_log_path" = s.eventLog.map .text := by
  obtain ⟨latency, ageStep, ageWindow, priority, log⟩ := s
  cases log <;> rfl

theorem ofTable?_table : ofTable? s.table = some s := by
  have hlatency : setting? readLong? default.latency "latency_ms" s.table = some s.latency :=
    setting?_of_lookup rfl (readLong?_toNat _)
  have hstep : setting? readWord? default.ageStep "relative_age_step" s.table = some s.ageStep :=
    setting?_of_lookup rfl (readWord?_toNat _)
  have hwindow : setting? readWord? default.ageWindow "single_age_window" s.table = some s.ageWindow :=
    setting?_of_lookup rfl (readWord?_toNat _)
  have hpriority : setting? readPriority? default.painPointPriority "default_pain_point_priority"
      s.table = some s.painPointPriority :=
    setting?_of_lookup rfl (Priority.lookup_label _)
  have hlog : setting? readPath? default.eventLog "event_log_path" s.table = some s.eventLog := by
    have hlookup := s.table_lookup_log
    cases hpath : s.eventLog with
    | none =>
      rw [hpath] at hlookup
      rw [setting?, hlookup]
      rfl
    | some path =>
      rw [hpath] at hlookup
      exact setting?_of_lookup hlookup rfl
  rw [ofTable?, hlatency, hstep, hwindow, hpriority, hlog]
  rfl

/-- **Settings that can be written are read back.** -/
theorem ofText?_of_toText? {text : String} (h : s.toText? = some text) : ofText? text = some s := by
  obtain ⟨hlatency, htext⟩ := s.toText?_eq_some_iff.1 h
  have hread : Toml.read text = some s.table := by
    rw [Toml.read, htext]
    exact Toml.readChars_lines (s.lines_proper hlatency) s.lines_keys
  rw [ofText?, hread, Option.bind_some, ofTable?_table]

end Settings

end PersonaDialogue
