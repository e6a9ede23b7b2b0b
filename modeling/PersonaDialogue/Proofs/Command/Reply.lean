import Mathlib.Data.List.Infix
import PersonaDialogue.Command.Reply
import PersonaDialogue.Proofs.Command.Effect
import PersonaDialogue.Proofs.Json.Numeral

/-!
# Replies and what they promise

The reply to a plain request is a sentence about its effect.  `Effect.Done` says when the sentence is
true of the canvas before and the canvas after, and a sound effect that was carried out is done
(`Effect.done_on`).  A sentence can be read in one way only: its opening words tell the kind of the
effect, since none of them begins with another, and the rest tells the range or the text
(`Effect.eq_of_sentence`).
-/

namespace PersonaDialogue

/-! ### Elements of collections -/

def Shelf.Element : Shelf → Type
  | .painPoints => PainPoint
  | .jobs => Job
  | .behaviors => Behavior
  | .stages => Stage

/-- The text by which an element is found. -/
def Shelf.textOf : (shelf : Shelf) → shelf.Element → String
  | .painPoints => PainPoint.description
  | .jobs => Job.statement
  | .behaviors => Behavior.description
  | .stages => Stage.name

def Canvas.elements (c : Canvas) : (shelf : Shelf) → List shelf.Element
  | .painPoints => c.painPoints
  | .jobs => c.jobs
  | .behaviors => c.behaviors
  | .stages => c.stages

namespace Canvas

variable {c : Canvas} {shelf : Shelf}

theorem elements_append (id text : String) (priority : Priority) :
    ∃ x : shelf.Element, shelf.textOf x = text ∧
      (c.append shelf id text priority).elements shelf = c.elements shelf ++ [x] := by
  cases shelf with
  | painPoints => exact ⟨(⟨id, text, priority⟩ : PainPoint), rfl, rfl⟩
  | jobs => exact ⟨(⟨id, text⟩ : Job), rfl, rfl⟩
  | behaviors => exact ⟨(⟨id, text⟩ : Behavior), rfl, rfl⟩
  | stages => exact ⟨(⟨id, text, ""⟩ : Stage), rfl, rfl⟩

theorem elements_removeMentioning (needle : String) :
    (c.removeMentioning shelf needle).elements shelf =
      (c.elements shelf).filter fun x => !mentions needle (shelf.textOf x) := by
  cases shelf <;> rfl

end Canvas

theorem Canvas.persona_withPersona (c : Canvas) (rank : Rank) (p : Persona) :
    (c.withPersona rank p).persona rank = p := by
  cases rank <;> rfl

theorem Persona.trait_withTrait (p : Persona) (t : Trait) (text : String) :
    (p.withTrait t text).trait t = text := by
  cases t <;> rfl

namespace Effect

/-! ### What a sentence promises -/

/-- The age was moved by one step in a direction, and kept between 0 and 120. -/
def Moved (settings : EditSettings) (d : Direction) (before after : UInt32) : Prop :=
  (after.toNat : Int) = min (max 0 (before.toNat + d.years settings.ageStep)) 120

/-- The canvas after is what the sentence about an effect says of it. -/
def Done (settings : EditSettings) (before after : Canvas) : Effect → Prop
  | setRange r =>
    after.primary.demographics.ageRange = r ∧
      after.primary.age.toNat = (r.min.toNat + r.max.toNat + 1) / 2
  | shift d =>
    Moved settings d before.primary.age after.primary.age ∧
      Moved settings d before.primary.demographics.ageRange.min
        after.primary.demographics.ageRange.min ∧
      Moved settings d before.primary.demographics.ageRange.max
        after.primary.demographics.ageRange.max
  | rewrite rank (some t) s => (after.persona rank).trait t = s
  | rewrite _ none _ => after = before
  | add shelf s => ∃ x : shelf.Element, shelf.textOf x = s ∧
      after.elements shelf = before.elements shelf ++ [x]
  | remove shelf s => ∀ x, x ∈ after.elements shelf ↔
      x ∈ before.elements shelf ∧ Canvas.mentions s (shelf.textOf x) = false
  | nothing => after = before

theorem moved_shiftAge (settings : EditSettings) (d : Direction) (age : UInt32) :
    Moved settings d age (shiftAge age (d.years settings.ageStep)) := by
  unfold Moved
  rw [shiftAge_toNat]
  omega

/-- **A sound effect that is carried out is done.** -/
theorem done_on {e : Effect} (h : e.Sound) (settings : EditSettings) (fresh : Uuid) (canvas : Canvas) :
    e.Done settings canvas (e.on settings fresh canvas) := by
  cases e with
  | setRange r =>
    have hvalid := isValid_of_sound h
    rw [on, if_pos hvalid]
    exact ⟨rfl, AgeRange.midpoint_toNat hvalid⟩
  | shift d => exact ⟨moved_shiftAge .., moved_shiftAge .., moved_shiftAge ..⟩
  | rewrite rank trait s =>
    cases trait with
    | none => rfl
    | some t =>
      simp only [Done, on]
      rw [Canvas.persona_withPersona, Persona.trait_withTrait]
  | add shelf s => exact Canvas.elements_append ..
  | remove shelf s =>
    intro x
    rw [on, Canvas.elements_removeMentioning, List.mem_filter, Bool.not_eq_true']
  | nothing => rfl

/-! ### Sentences -/

/-- The words of a sentence up to the range or the text. -/
def opening : Effect → String
  | setRange _ => "I've updated the age range to "
  | shift .decrease => "I've made the persona younger."
  | shift .increase => "I've made the persona older."
  | rewrite rank (some t) _ => "I've updated the " ++ rank.label ++ " persona's " ++ t.label ++ " to " ++ "\""
  | rewrite _ none _ => acknowledgement
  | add shelf _ => "I've added the " ++ shelf.label ++ ": " ++ "\""
  | remove shelf _ => "I've removed any " ++ shelf.label ++ "s matching " ++ "\""
  | nothing => acknowledgement

def particulars : Effect → String
  | setRange r => Json.decimal r.min.toNat ++ "-" ++ Json.decimal r.max.toNat ++ " years."
  | rewrite _ (some _) s => s ++ "\"" ++ "."
  | add _ s => s ++ "\"" ++ "."
  | remove _ s => s ++ "\"" ++ "."
  | _ => ""

def sentence (e : Effect) : String := e.opening ++ e.particulars

theorem inQuotes_append (s t : String) : inQuotes s ++ t = "\"" ++ (s ++ ("\"" ++ t)) := by
  rw [inQuotes, String.append_assoc, String.append_assoc]

/-- The reply to a plain request is the sentence about its effect. -/
theorem describe_request (confidence : Confidence) (raw : String) (e : Effect) :
    (e.request confidence raw).describe = e.sentence := by
  -- both sides are the same words; only their grouping differs
  cases e with
  | setRange r =>
    change "I've updated the age range to " ++ _ ++ _ ++ _ ++ _ =
      "I've updated the age range to " ++ (_ ++ _ ++ _ ++ _)
    simp only [String.append_assoc]
  | shift d =>
    change _ = _ ++ ""
    rw [String.append_empty]
    cases d <;> rfl
  | rewrite rank trait s =>
    cases trait with
    | none => cases rank <;> exact String.append_empty.symm
    | some t =>
      cases rank <;>
        change _ ++ _ ++ _ ++ _ ++ _ ++ inQuotes s ++ _ =
          (_ ++ _ ++ _ ++ _ ++ _ ++ _) ++ (_ ++ _ ++ _) <;>
        simp only [inQuotes_append, String.append_assoc]
  | add shelf s =>
    cases shelf <;>
      change _ ++ _ ++ _ ++ inQuotes s ++ _ = (_ ++ _ ++ _ ++ _) ++ (_ ++ _ ++ _) <;>
      simp only [inQuotes_append, String.append_assoc]
  | remove shelf s =>
    cases shelf <;>
      change _ ++ _ ++ _ ++ inQuotes s ++ _ = (_ ++ _ ++ _ ++ _) ++ (_ ++ _ ++ _) <;>
      simp only [inQuotes_append, String.append_assoc]
  | nothing => exact String.append_empty.symm

/-! ### The opening tells the kind -/

/-- Does the sentence say more than that the changes were made? -/
def IsSpecific : Effect → Prop
  | rewrite _ none _ => False
  | nothing => False
  | _ => True

/-- An effect without its range or text: all that its opening depends on. -/
def kind : Effect → Effect
  | setRange _ => setRange ⟨0, 0⟩
  | shift d => shift d
  | rewrite rank trait _ => rewrite rank trait ""
  | add shelf _ => add shelf ""
  | remove shelf _ => remove shelf ""
  | nothing => nothing

/-- The kinds of effects with a specific sentence. -/
def kinds : List Effect :=
  let traits : List Trait := [.name, .role, .goal, .occupation]
  let shelves : List Shelf := [.painPoints, .jobs, .behaviors, .stages]
  [setRange ⟨0, 0⟩, shift .increase, shift .decrease] ++
    (traits.map fun t => rewrite .primary (some t) "") ++
    (traits.map fun t => rewrite .secondary (some t) "") ++
    (shelves.map fun shelf => add shelf "") ++ shelves.map fun shelf => remove shelf ""

theorem kind_mem {e : Effect} (h : e.IsSpecific) : e.kind ∈ kinds := by
  cases e with
  | setRange r => exact (by decide : setRange ⟨0, 0⟩ ∈ kinds)
  | shift d => cases d <;> decide
  | rewrite rank trait s =>
    cases trait with
    | none => exact h.elim
    | some t =>
      change rewrite rank (some t) "" ∈ kinds
      cases rank <;> cases t <;> decide
  | add shelf s =>
    change add shelf "" ∈ kinds
    cases shelf <;> decide
  | remove shelf s =>
    change remove shelf "" ∈ kinds
    cases shelf <;> decide
  | nothing => exact h.elim

theorem opening_kind (e : Effect) : e.kind.opening = e.opening := by
  cases e with
  | rewrite rank trait s => cases trait <;> rfl
  | _ => rfl

/-- No opening begins another one, nor the general reply. -/
theorem openings_apart : ∀ e ∈ kinds, ∀ f ∈ nothing :: kinds,
    e.opening.toList <+: f.opening.toList → e = f := by
  decide +kernel

theorem opening_prefix (e : Effect) : e.opening.toList <+: e.sentence.toList := by
  rw [sentence, String.toList_append]
  exact List.prefix_append _ _

/-- The specific sentences are those that differ from the general reply. -/
theorem isSpecific_iff {e : Effect} : e.IsSpecific ↔ e.sentence ≠ acknowledgement := by
  constructor
  · intro h heq
    have hprefix : e.kind.opening.toList <+: nothing.opening.toList := by
      have hopening := e.opening_prefix
      rw [heq] at hopening
      rwa [opening_kind]
    have hkind : e.kind = nothing :=
      openings_apart e.kind (kind_mem h) nothing List.mem_cons_self hprefix
    exact absurd (hkind ▸ kind_mem h) (by decide : nothing ∉ kinds)
  · intro h
    cases e with
    | rewrite rank trait s =>
      cases trait with
      | none => exact h String.append_empty
      | some t => trivial
    | nothing => exact h String.append_empty
    | _ => trivial

theorem isSpecific_of_sound {e : Effect} (hsound : e.Sound) (hne : e ≠ nothing) : e.IsSpecific := by
  cases e with
  | rewrite rank trait s =>
    cases trait with
    | none => exact hsound.1 rfl
    | some t => trivial
  | nothing => exact hne rfl
  | _ => trivial

section Reading

variable {e f : Effect}

theorem kind_eq_of_sentence (he : e.IsSpecific) (hf : f.IsSpecific) (h : e.sentence = f.sentence) :
    e.kind = f.kind := by
  have hprefix : e.opening.toList <+: e.sentence.toList := e.opening_prefix
  have hprefix' : f.opening.toList <+: e.sentence.toList := h ▸ f.opening_prefix
  have hkinds : ∀ {a b : Effect}, a.IsSpecific → b.IsSpecific →
      a.opening.toList <+: b.opening.toList → a.kind = b.kind := by
    intro a b ha hb hab
    refine openings_apart a.kind (kind_mem ha) b.kind (List.mem_cons_of_mem _ (kind_mem hb)) ?_
    rwa [opening_kind, opening_kind]
  rcases List.prefix_or_prefix_of_prefix hprefix hprefix' with hef | hfe
  · exact hkinds he hf hef
  · exact (hkinds hf he hfe).symm

theorem particulars_eq_of_sentence (hkind : e.kind = f.kind) (h : e.sentence = f.sentence) :
    e.particulars = f.particulars := by
  have hopening : e.opening = f.opening := by rw [← opening_kind e, ← opening_kind f, hkind]
  unfold sentence at h
  rw [hopening] at h
  exact (String.append_right_inj _).1 h

end Reading

/-! ### The rest tells the range or the text -/

theorem decimal_append_inj {n m : Nat} {s t : List Char}
    (hs : ∀ c ∈ s.head?, Text.digitValue? c = none) (ht : ∀ c ∈ t.head?, Text.digitValue? c = none)
    (h : (Json.decimal n).toList ++ s = (Json.decimal m).toList ++ t) : n = m ∧ s = t := by
  have hread : ∀ (k : Nat) {u : List Char}, (∀ c ∈ u.head?, Text.digitValue? c = none) →
      Json.digits ((Json.decimal k).toList ++ u) = (Json.decimals k, u) := by
    intro k u hu
    rw [Json.decimal, String.toList_ofList, Json.toDigits_eq]
    exact Json.digits_append (Json.decimals_lt k) hu
  have heq := (hread n hs).symm.trans ((congrArg Json.digits h).trans (hread m ht))
  obtain ⟨hdigits, hst⟩ := Prod.mk.inj heq
  refine ⟨?_, hst⟩
  rw [← Json.digitsValue_decimals n, hdigits, Json.digitsValue_decimals]

theorem range_eq_of_particulars {r s : AgeRange}
    (h : (setRange r).particulars = (setRange s).particulars) : r = s := by
  obtain ⟨a, b⟩ := r
  obtain ⟨a', b'⟩ := s
  have hlist := congrArg String.toList h
  unfold particulars at hlist
  simp only [String.toList_append, List.append_assoc] at hlist
  have hdash : ∀ t, ∀ c ∈ ("-".toList ++ t).head?, Text.digitValue? c = none := by
    rintro t c ⟨⟩
    rfl
  have hyears : ∀ c ∈ " years.".toList.head?, Text.digitValue? c = none := by
    rintro c ⟨⟩
    rfl
  obtain ⟨hmin, hrest⟩ := decimal_append_inj (hdash _) (hdash _) hlist
  obtain ⟨hmax, -⟩ := decimal_append_inj hyears hyears (List.append_cancel_left hrest)
  rw [UInt32.toNat_inj.1 hmin, UInt32.toNat_inj.1 hmax]

theorem eq_of_quote_eq {s t : String} (h : s ++ "\"" ++ "." = t ++ "\"" ++ ".") : s = t :=
  (String.append_left_inj _).1 ((String.append_left_inj _).1 h)

theorem eq_of_particulars {e f : Effect} (he : e.IsSpecific) (hkind : e.kind = f.kind)
    (h : e.particulars = f.particulars) : e = f := by
  cases e with
  | setRange r =>
    cases f with
    | setRange s => rw [range_eq_of_particulars h]
    | _ => cases hkind
  | shift d =>
    cases f with
    | shift d' => exact hkind
    | _ => cases hkind
  | rewrite rank trait s =>
    cases f with
    | rewrite rank' trait' s' =>
      obtain ⟨rfl, rfl⟩ : rank = rank' ∧ trait = trait' := by simpa [kind] using hkind
      cases trait with
      | none => exact he.elim
      | some t => rw [eq_of_quote_eq h]
    | _ => cases hkind
  | add shelf s =>
    cases f with
    | add shelf' s' =>
      obtain rfl : shelf = shelf' := by simpa [kind] using hkind
      rw [eq_of_quote_eq h]
    | _ => cases hkind
  | remove shelf s =>
    cases f with
    | remove shelf' s' =>
      obtain rfl : shelf = shelf' := by simpa [kind] using hkind
      rw [eq_of_quote_eq h]
    | _ => cases hkind
  | nothing => exact he.elim

/-- **A specific sentence is about one effect only.** -/
theorem eq_of_sentence {e f : Effect} (he : e.IsSpecific) (h : e.sentence = f.sentence) : e = f := by
  have hf : f.IsSpecific := isSpecific_iff.2 (h ▸ isSpecific_iff.1 he)
  have hkind := kind_eq_of_sentence he hf h
  exact eq_of_particulars he hkind (particulars_eq_of_sentence hkind h)

end Effect

end PersonaDialogue
