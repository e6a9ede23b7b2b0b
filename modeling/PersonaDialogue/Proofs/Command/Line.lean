import PersonaDialogue.Proofs.Json.OneLine
import PersonaDialogue.Proofs.Turn.Details

/-!
# The line of a command

A command is written as one line.  Its confidence is a number of 32 bits, written in the shortest way
that tells it from its neighbours but read as a number of 64 bits and rounded, so a line is shown to be
faithful for the confidences that are ever given to a command.  Everything else in it is arbitrary: the
combination of action, target, trait and operand, and the texts.
-/

namespace PersonaDialogue

open Json Json.Value
open Number (Binary single)

/-- The confidences that a command is ever given: before it is judged, by a rule, and by moving a number
into the interval from 0 to 1.  Zero may keep its sign there. -/
def Confidence.given : List Confidence :=
  .unjudged :: Intent.confidences ++
    [.zero single, (Binary.zero single).negate, .one single]

/-- The confidences that are given survive being written, read and rounded. -/
theorem decodeSingle_given : ∀ x ∈ Confidence.given,
    decodeSingle 0 (Value.number (.single x)).node = .ok x := by
  decide +kernel

theorem Confidence.given_of_rule {x : Confidence} (h : x ∈ Intent.confidences) : x ∈ given := by
  have hjudged : x ∈ Intent.confidences ++ [.zero single, (Binary.zero single).negate, .one single] :=
    List.mem_append_left _ h
  exact List.mem_cons_of_mem _ hjudged

namespace Command

/-- **The line of a command carries it.** -/
structure Travels (c : Command) : Prop where
  /-- The line is read back as the command. -/
  read : ofLine c.toLine = .ok c
  /-- It is one line. -/
  newline : '\n' ∉ c.toLine.toList
  carriage : '\r' ∉ c.toLine.toList
  /-- No other command has it. -/
  only : ∀ d : Command, d.confidence ∈ Confidence.given → d.toLine = c.toLine → d = c

theorem ofLine_toLine {c : Command} (h : c.confidence ∈ Confidence.given) : ofLine c.toLine = .ok c := by
  have hconfidence : decodeSingle (0 + 1) (id (Value.number (.single c.confidence))).node =
      .ok c.confidence := by
    rw [decodeSingle_depth]
    exact decodeSingle_given c.confidence h
  rw [ofLine, toLine, read_compact]
  exact decode_form isForm_id (by omega) hconfidence

theorem toLine_visible (c : Command) : Visible c.toLine.toList := c.toJson.compactText_visible

theorem travels_of_given {c : Command} (h : c.confidence ∈ Confidence.given) : c.Travels where
  read := ofLine_toLine h
  newline := c.toLine_visible.newline_not_mem
  carriage := c.toLine_visible.return_not_mem
  only d hd hline := by
    have hread : (.ok d : Reading Command) = .ok c := by
      rw [← ofLine_toLine hd, hline, ofLine_toLine h]
    exact Except.ok.inj hread

/-- **The line of every command carries it** whose confidence is one of those that are given, and so does
the line of every command that a message asks for. -/
theorem line_faithful :
    (∀ c : Command, c.confidence ∈ Confidence.given → c.Travels) ∧
      ∀ window message c, Intent.command? window message = some c →
        c.confidence ∈ Confidence.given ∧ c.Travels := by
  refine ⟨fun c h => travels_of_given h, fun window message c h => ?_⟩
  have hgiven : c.confidence ∈ Confidence.given := Confidence.given_of_rule (Intent.command?_confidence h)
  exact ⟨hgiven, travels_of_given hgiven⟩

/-- A command that no rule makes, with line breaks, quotes and a control in its texts, and the command of
a message of several lines. -/
theorem line_faithful_breaks :
    let odd : Command := ⟨.change, .journey, some .occupation, some (.text "\r\n\"a\\n\""), .unjudged,
      "\u0000first\nsecond\u2028"⟩
    let message := "set age to\n18-30\n!"
    let asked : Command := ⟨.set, .age, none, some (.ageRange ⟨18, 30⟩), Intent.explicit, message⟩
    odd.Travels ∧ Intent.command? 5 message = some asked ∧ asked.Travels := by
  intro odd message asked
  have hgiven : odd.confidence ∈ Confidence.given := by decide +kernel
  have hasked : Intent.command? 5 message = some asked := by decide +kernel
  exact ⟨line_faithful.1 odd hgiven, hasked, (line_faithful.2 5 message asked hasked).2⟩

end Command

end PersonaDialogue
