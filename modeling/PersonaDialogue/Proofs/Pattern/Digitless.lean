import PersonaDialogue.Proofs.Pattern.Pieces
import PersonaDialogue.Proofs.Text.Digit

/-!
# Patterns and digits

Some patterns read no digits, and some never read nothing; both can be told from the pattern alone
(`digitless`, `consumes`).  A pattern of both kinds keeps the digits before it apart from those after it
(`noDigit_of_reads`), and so does a word boundary next to a digit, since digits belong to words.
-/

namespace PersonaDialogue

def CharClass.digitless : CharClass → Bool
  | only c => !Text.isDigit c
  | among cs => cs.all fun c => !Text.isDigit c
  | blank => true
  | digit => false
  | nonDigit => true
  | notNewline => false

theorem CharClass.isDigit_of_accepts {cls : CharClass} {c : Char} (hcls : cls.digitless = true)
    (hc : cls.accepts c = true) : Text.isDigit c = false := by
  cases cls with
  | only d =>
    obtain rfl : c = d := by simpa [accepts] using hc
    simpa [digitless] using hcls
  | among cs =>
    have hmem : c ∈ cs := by simpa [accepts] using hc
    simpa using List.all_eq_true.1 hcls c hmem
  | blank => exact Text.isDigit_of_isBlank hc
  | digit => cases hcls
  | nonDigit => simpa [accepts] using hc
  | notNewline => cases hcls

namespace Pattern

open Place (past)
open Text (NoDigit)

/-- The pattern reads no digit. -/
def digitless : Pattern → Bool
  | char cls => cls.digitless
  | run cls _ _ => cls.digitless
  | seq p q => p.digitless && q.digitless
  | either p q => p.digitless && q.digitless
  | group _ p => p.digitless
  | _ => true

/-- The pattern reads at least one character. -/
def consumes : Pattern → Bool
  | char _ => true
  | seq p q => p.consumes || q.consumes
  | either p q => p.consumes && q.consumes
  | group _ p => p.consumes
  | _ => false

variable {p q : Pattern} {before : Option Char} {u after : List Char} {t : Trace}

theorem isDigit_of_digitless (h : p.Reads before u after t) (hp : p.digitless = true) :
    ∀ c ∈ u, Text.isDigit c = false := by
  induction h with
  | char hc =>
    intro d hd
    obtain rfl := List.mem_singleton.1 hd
    exact CharClass.isDigit_of_accepts hp hc
  | run hu hmost => exact fun d hd => CharClass.isDigit_of_accepts hp (hu d hd)
  | seq hleft hright ihl ihr =>
    obtain ⟨hpl, hpr⟩ := Bool.and_eq_true_iff.1 hp
    intro d hd
    rcases List.mem_append.1 hd with hd | hd
    · exact ihl hpl d hd
    · exact ihr hpr d hd
  | first hleft ih => exact ih (Bool.and_eq_true_iff.1 hp).1
  | second hright ih => exact ih (Bool.and_eq_true_iff.1 hp).2
  | group hinner ih => exact ih hp
  | nothing => exact fun d hd => nomatch hd
  | boundary hb => exact fun d hd => nomatch hd
  | start => exact fun d hd => nomatch hd
  | stop => exact fun d hd => nomatch hd

theorem ne_nil_of_consumes (h : p.Reads before u after t) (hp : p.consumes = true) : u ≠ [] := by
  induction h with
  | char hc => exact List.cons_ne_nil _ _
  | seq hleft hright ihl ihr =>
    rcases Bool.or_eq_true_iff.1 hp with hpl | hpr
    · exact List.append_ne_nil_of_left_ne_nil (ihl hpl) _
    · exact List.append_ne_nil_of_right_ne_nil _ (ihr hpr)
  | first hleft ih => exact ih (Bool.and_eq_true_iff.1 hp).1
  | second hright ih => exact ih (Bool.and_eq_true_iff.1 hp).2
  | group hinner ih => exact ih hp
  | run hu hmost => cases hp
  | nothing => cases hp
  | boundary hb => cases hp
  | start => cases hp
  | stop => cases hp

/-- After a pattern that reads something, but no digits, no digit stands before the next place, and no
digit stands at the place where it begins. -/
theorem noDigit_of_reads (h : p.Reads before u after t) (hp : p.digitless = true)
    (hp' : p.consumes = true) : NoDigit (past before u) ∧ NoDigit (u ++ after).head? := by
  have hdigits := isDigit_of_digitless h hp
  have hne := ne_nil_of_consumes h hp'
  constructor
  · intro c hc
    rw [past, List.getLast?_eq_some_getLast hne, Option.some_or] at hc
    obtain rfl := Option.some.inj hc
    exact hdigits _ (List.getLast_mem hne)
  · intro c hc
    rw [List.head?_append_of_ne_nil _ hne] at hc
    exact hdigits c (List.mem_of_head? hc)

/-! ### Word boundaries -/

theorem noDigit_after_digit {c : Char} (hc : Text.isDigit c = true)
    (h : Place.isBoundary ⟨some c, after⟩ = true) : NoDigit after.head? := by
  intro d hd
  by_contra hdigit
  have hword : Text.isWord d = true := Text.isWord_of_isDigit (by simpa using hdigit)
  rw [Option.mem_def] at hd
  simp [Place.isBoundary, hd, hword, Text.isWord_of_isDigit hc] at h

theorem noDigit_before_digit {c : Char} (hc : Text.isDigit c = true)
    (h : Place.isBoundary ⟨before, c :: after⟩ = true) : NoDigit before := by
  intro d hd
  by_contra hdigit
  have hword : Text.isWord d = true := Text.isWord_of_isDigit (by simpa using hdigit)
  rw [Option.mem_def] at hd
  simp [Place.isBoundary, hd, hword, Text.isWord_of_isDigit hc] at h

end Pattern

end PersonaDialogue
