import Mathlib.Data.List.TakeWhile
import PersonaDialogue.Text.Blank

/-!
# Layers around a text

To peel a text is to drop from its start, for one kind of character after the other, all that is of this
kind; each kind has its turn once.  What is peeled off is one layer of each kind (`exists_layers`).
Conversely layers before a text are all peeled off (`Layers.peel_isSuffix`), and of the text itself nothing
is if its first character is of none of these kinds (`Layers.peel_append`).  To drop from the end is to drop
from the start of the reversed text, and it makes no difference which of the two ends comes first
(`trimEndWhile_dropWhile`).
-/

namespace PersonaDialogue.Text

/-- `s` without the characters of each kind in turn that it begins with. -/
def peel (kinds : List (Char → Bool)) (s : List Char) : List Char :=
  kinds.foldl (fun s kind => s.dropWhile kind) s

/-- A text of one layer for each kind; a layer may be empty. -/
inductive Layers : List (Char → Bool) → List Char → Prop
  | nil : Layers [] []
  | cons {kind : Char → Bool} {kinds : List (Char → Bool)} {u v : List Char}
      (hu : ∀ c ∈ u, kind c = true) (hv : Layers kinds v) : Layers (kind :: kinds) (u ++ v)

variable {kind : Char → Bool} {kinds : List (Char → Bool)} {s t u : List Char}

theorem peel_cons : peel (kind :: kinds) s = peel kinds (s.dropWhile kind) := rfl

theorem layers_empty (kinds : List (Char → Bool)) : Layers kinds [] := by
  induction kinds with
  | nil => exact .nil
  | cons kind kinds ih => exact .cons (u := []) (by simp) ih

/-- **What is peeled off a text is made of layers.** -/
theorem exists_layers (kinds : List (Char → Bool)) (s : List Char) :
    ∃ u, Layers kinds u ∧ s = u ++ peel kinds s := by
  induction kinds generalizing s with
  | nil => exact ⟨[], .nil, rfl⟩
  | cons kind kinds ih =>
    obtain ⟨u, hu, hs⟩ := ih (s.dropWhile kind)
    refine ⟨s.takeWhile kind ++ u, .cons (fun c hc => List.mem_takeWhile_imp hc) hu, ?_⟩
    calc s
      _ = s.takeWhile kind ++ s.dropWhile kind := List.takeWhile_append_dropWhile.symm
      _ = s.takeWhile kind ++ (u ++ peel kinds (s.dropWhile kind)) := by rw [← hs]
      _ = s.takeWhile kind ++ u ++ peel (kind :: kinds) s := by rw [peel_cons, List.append_assoc]

theorem dropWhile_isSuffix (hu : ∀ c ∈ u, kind c = true) (h : t <:+ u ++ s) : t.dropWhile kind <:+ s := by
  induction u generalizing t with
  | nil => exact (List.dropWhile_suffix kind).trans h
  | cons c u ih =>
    have hrest : ∀ d ∈ u, kind d = true := fun d hd => hu d (List.mem_cons_of_mem c hd)
    rw [List.cons_append] at h
    rcases List.suffix_cons_iff.1 h with rfl | h
    · rw [List.dropWhile_cons_of_pos (hu c List.mem_cons_self)]
      exact ih hrest (List.suffix_refl _)
    · exact ih hrest h

/-- **Layers before a text are peeled off.** -/
theorem Layers.peel_isSuffix (hu : Layers kinds u) (h : t <:+ u ++ s) : peel kinds t <:+ s := by
  induction hu generalizing t with
  | nil => exact h
  | cons hu _ ih =>
    rw [List.append_assoc] at h
    exact ih (dropWhile_isSuffix hu h)

theorem Layers.peel_eq_nil (hu : Layers kinds u) : peel kinds u = [] :=
  List.suffix_nil.1 (hu.peel_isSuffix (s := []) (by simp))

/-- Of a text that begins with none of the kinds nothing is peeled off, whatever stands before it. -/
theorem peel_append (hs : ∀ kind ∈ kinds, ∀ c ∈ s.head?, kind c = false) (u : List Char) :
    peel kinds (u ++ s) = peel kinds u ++ s := by
  induction kinds generalizing u with
  | nil => rfl
  | cons kind kinds ih =>
    have hkept : s.dropWhile kind = s := by
      cases s with
      | nil => rfl
      | cons c s => exact List.dropWhile_cons_of_neg (by simp [hs kind (by simp) c rfl])
    have hfirst : (u ++ s).dropWhile kind = u.dropWhile kind ++ s := by
      rw [List.dropWhile_append, hkept]
      split
      · next hnil => rw [List.isEmpty_iff.1 hnil, List.nil_append]
      · rfl
    rw [peel_cons, hfirst, ih (fun k hk => hs k (List.mem_cons_of_mem _ hk)), peel_cons]

theorem Layers.peel_append (hu : Layers kinds u) (hs : ∀ kind ∈ kinds, ∀ c ∈ s.head?, kind c = false) :
    peel kinds (u ++ s) = s := by
  rw [Text.peel_append hs, hu.peel_eq_nil, List.nil_append]

theorem peel_isSuffix (kinds : List (Char → Bool)) (s : List Char) : peel kinds s <:+ s := by
  obtain ⟨u, -, hs⟩ := exists_layers kinds s
  exact ⟨u, hs.symm⟩

theorem dropWhile_isPrefix (h : t <+: s) : t.dropWhile kind <+: s.dropWhile kind := by
  obtain ⟨u, rfl⟩ := h
  rw [List.dropWhile_append]
  split
  · next hnil => simp [List.isEmpty_iff.1 hnil]
  · exact List.prefix_append _ _

/-- Of the beginning of a text no more is left than of the text. -/
theorem peel_isPrefix (kinds : List (Char → Bool)) (h : t <+: s) : peel kinds t <+: peel kinds s := by
  induction kinds generalizing s t with
  | nil => exact h
  | cons kind kinds ih => exact ih (dropWhile_isPrefix h)

/-- Nothing is peeled off exactly if the first character is of none of the kinds. -/
theorem peel_eq_self_iff : peel kinds s = s ↔ ∀ kind ∈ kinds, ∀ c ∈ s.head?, kind c = false := by
  refine ⟨fun h => ?_, fun h => (layers_empty kinds).peel_append h⟩
  induction kinds with
  | nil => simp
  | cons kind kinds ih =>
    have hsuffix : s.dropWhile kind <:+ s := List.dropWhile_suffix kind
    have hkept : s.dropWhile kind = s := by
      refine hsuffix.eq_of_length_le ?_
      calc s.length
        _ = (peel kinds (s.dropWhile kind)).length := by rw [← peel_cons, h]
        _ ≤ (s.dropWhile kind).length := (peel_isSuffix kinds _).length_le
    rw [peel_cons, hkept] at h
    intro k hk
    rcases List.mem_cons.1 hk with rfl | hk
    · intro c hc
      obtain ⟨rest, rfl⟩ := List.head?_eq_some_iff.1 hc
      have hfirst := List.dropWhile_eq_self_iff.1 hkept (by simp)
      simpa only [List.getElem_cons_zero, Bool.not_eq_true] using hfirst
    · exact ih h k hk

/-- **The order of the two ends makes no difference.** -/
theorem trimEndWhile_dropWhile (drop kind : Char → Bool) (s : List Char) :
    trimEndWhile drop (s.dropWhile kind) = (trimEndWhile drop s).dropWhile kind := by
  induction s with
  | nil => rfl
  | cons c s ih =>
    have hcons : trimEndWhile drop (c :: s) =
        if trimEndWhile drop s = [] then trimEndWhile drop [c] else c :: trimEndWhile drop s := by
      simp only [trimEndWhile, List.reverse_cons, List.dropWhile_append, List.isEmpty_iff,
        List.reverse_eq_nil_iff]
      split <;> simp
    have hsingle : trimEndWhile drop [c] = [] ∨ trimEndWhile drop [c] = [c] := by
      by_cases hc : drop c = true <;> simp [trimEndWhile, hc]
    by_cases hc : kind c = true
    · rw [List.dropWhile_cons_of_pos hc, ih, hcons]
      split
      · next hnil => rcases hsingle with h | h <;> simp [h, hnil, hc]
      · rw [List.dropWhile_cons_of_pos hc]
    · rw [List.dropWhile_cons_of_neg hc, hcons]
      split
      · rcases hsingle with h | h <;> simp [h, hc]
      · rw [List.dropWhile_cons_of_neg hc]

end PersonaDialogue.Text
