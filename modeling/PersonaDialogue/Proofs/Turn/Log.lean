import PersonaDialogue.Proofs.Disk.Append
import PersonaDialogue.Proofs.Turn.Event

/-!
# The event log gives back the events

An event is written as one line, which is not blank, so the lines of a log are the lines of its events
and no other.  If the events are lasting, each line is read as the event, and a log that is written event
by event to a file that was not there holds the events that were written.
-/

namespace PersonaDialogue

/-! ### Lines -/

namespace Text

theorem linesAfter_append (line : List Char) {s : List Char} (h : '\n' ∉ s) (t : List Char) :
    linesAfter line (s ++ '\n' :: t) = (dropReturn (s.reverse ++ line)).reverse :: linesAfter [] t := by
  induction s generalizing line with
  | nil => simp [linesAfter]
  | cons c s ih =>
    have hc : c ≠ '\n' := fun he => h (he ▸ List.mem_cons_self)
    have hs : '\n' ∉ s := fun hmem => h (List.mem_cons_of_mem _ hmem)
    rw [List.cons_append, linesAfter, if_neg hc, ih (c :: line) hs]
    simp

theorem dropReturn_of_not_mem {line : List Char} (h : '\r' ∉ line) : dropReturn line = line := by
  unfold dropReturn
  split
  · exact absurd List.mem_cons_self h
  · rfl

/-- What has no line ending in it is one line when a line feed follows. -/
theorem lines_append {s : List Char} (hfeed : '\n' ∉ s) (hreturn : '\r' ∉ s) (t : List Char) :
    lines (s ++ '\n' :: t) = s :: lines t := by
  have hreversed : '\r' ∉ s.reverse := by simpa using hreturn
  rw [lines, linesAfter_append [] hfeed, List.append_nil, dropReturn_of_not_mem hreversed,
    List.reverse_reverse, lines]

end Text

namespace Event

theorem toLine_not_blank (e : Event) : Text.isAllBlank e.toLine.toList = false := by
  have hopen : e.toLine.toList.head? = some '\x7b' := by
    rw [toLine, Json.Value.compact, String.toList_ofList]
    rfl
  obtain ⟨c, s, hline⟩ : ∃ c s, e.toLine.toList = c :: s :=
    List.exists_cons_of_ne_nil (by rintro hnil; rw [hnil] at hopen; cases hopen)
  rw [hline] at hopen ⊢
  obtain rfl := Option.some.inj hopen
  rfl

def log : List Event → String
  | [] => ""
  | e :: es => e.entry ++ log es

theorem log_append (es fs : List Event) : log (es ++ fs) = log es ++ log fs := by
  induction es with
  | nil => simp [log]
  | cons e es ih => rw [List.cons_append, log, log, ih, String.append_assoc]

/-- **The log of lasting events is read as the events.** -/
theorem ofLog?_log {es : List Event} (h : ∀ e ∈ es, e.Lasting) : ofLog? (log es) = some es := by
  induction es with
  | nil => rfl
  | cons e es ih =>
    have hevent : ofLine e.toLine = .ok e := ofLine_toLine (h e List.mem_cons_self)
    have hrest : ofLines? (Text.lines (log es).toList) = some es :=
      ih fun f hf => h f (List.mem_cons_of_mem _ hf)
    have hlines : Text.lines (log (e :: es)).toList = e.toLine.toList :: Text.lines (log es).toList := by
      have hchars : (log (e :: es)).toList = e.toLine.toList ++ '\n' :: (log es).toList := by
        simp [log, entry]
      rw [hchars, Text.lines_append e.toLine_visible.newline_not_mem e.toLine_visible.return_not_mem]
    rw [ofLog?, hlines, ofLines?, e.toLine_not_blank]
    simp [hevent, hrest]

end Event

/-! ### On a disk -/

namespace Disk

variable {d : Disk} {path s : String}

theorem Holds.writeEvent (h : d.Holds path s) (e : Event) : (writeEvent path d e).Holds path (s ++ e.entry) := by
  obtain ⟨d', happend, hholds⟩ := h.append e.entry
  simpa [Disk.writeEvent, h.parent, happend] using hholds

theorem Awaits.writeEvent (h : d.Awaits path) (e : Event) : (writeEvent path d e).Holds path e.entry := by
  obtain ⟨d₁, hparent, d', happend, hholds⟩ := h.append e.entry
  simpa [Disk.writeEvent, hparent, happend] using hholds

/-- Does the log at a path hold just these events?  A log without events may be missing. -/
def Logs (d : Disk) (path : String) (es : List Event) : Prop :=
  (es = [] ∧ d.Awaits path) ∨ d.Holds path (Event.log es)

/-- An event that is written comes to those that the log holds. -/
theorem Logs.writeEvent {es : List Event} (h : d.Logs path es) (e : Event) :
    (Disk.writeEvent path d e).Logs path (es ++ [e]) := by
  refine .inr ?_
  rcases h with ⟨rfl, hawaits⟩ | hholds
  · have hwritten := hawaits.writeEvent e
    simpa [Event.log] using hwritten
  · have hwritten := hholds.writeEvent e
    simpa [Event.log_append, Event.log] using hwritten

theorem Logs.writeEvents {es : List Event} (h : d.Logs path es) (new : List Event) :
    (d.writeEvents path new).Logs path (es ++ new) := by
  induction new generalizing d es with
  | nil => simpa [Disk.writeEvents] using h
  | cons e new ih =>
    have hrest := ih (h.writeEvent e)
    rwa [List.append_assoc, List.singleton_append] at hrest

/-- **A log is read as the events that it holds**, if they are lasting. -/
theorem Logs.readLog {es : List Event} (h : d.Logs path es) (hlasting : ∀ e ∈ es, e.Lasting) :
    d.readLog path = .ok es := by
  rcases h with ⟨rfl, hawaits⟩ | hholds
  · rw [Disk.readLog, hawaits.read]
    rfl
  · rw [Disk.readLog, hholds.read, Event.ofFound, Event.ofLog?_log hlasting]

end Disk

end PersonaDialogue
