import PersonaDialogue.Proofs.Json.Form

/-!
# Values that are read back as they are

A reader that takes any value puts it into canonical form.  It gives back a value that is in this form
already, if nothing in the value is nested too deep and its numbers survive being written and read.
Such a value is *settled*; objects in canonical form are settled if their members are.
-/

namespace PersonaDialogue.Json

/-- Is a number read back from its text as it was? -/
def Numeric.restored (n : Numeric) : Bool :=
  match n.node with
  | .numeral k => k.read = .ok n
  | _ => false

namespace Value

/-- Is a value in canonical form, and read as it is from its tree inside `depth` arrays and objects? -/
structure Settled (depth : Nat) (v : Value) : Prop where
  read : decodeValue depth v.node = .ok v
  stays : v.canonical = v

theorem settled_null (depth : Nat) : Settled depth null := ⟨rfl, rfl⟩

theorem settled_text (depth : Nat) (s : String) : Settled depth (text s) where
  read := by simp [node, decodeValue]
  stays := rfl

theorem settled_ofText? (depth : Nat) (s : Option String) : Settled depth (ofText? s) := by
  cases s with
  | none => exact settled_null depth
  | some s => exact settled_text depth s

/-- A number that is held as it is, and that is read back from its text. -/
theorem settled_number (depth : Nat) {n : Numeric} (h : n.restored = true)
    (hstays : (number n).canonical = number n) : Settled depth (number n) where
  read := by
    unfold Numeric.restored at h
    split at h
    · next k hk =>
      have hread : k.read = .ok n := of_decide_eq_true h
      simp [node, hk, decodeValue, hread]
    · cases h
  stays := hstays

theorem settled_word (depth : Nat) (n : UInt32) : Settled depth (ofNat n.toNat) := by
  have hchars : (Numeric.whole n.toNat).text = (Numeral.ofNat n.toNat).chars := by
    simp [Numeric.text, wholeText, Numeral.chars_ofNat]
  refine settled_number depth ?_ rfl
  simp [Numeric.restored, numericNode_of_chars (Numeral.ofNat_wellFormed _) hchars,
    Numeral.read_ofNat_toNat]

/-! ### Members in order -/

/-- The keys of members are in order, and no key comes twice. -/
def Ordered (members : List (String × Value)) : Prop := (members.map Prod.fst).Pairwise (· < ·)

theorem mem_insertMember {key : String} {v : Value} {members : List (String × Value)}
    {m : String × Value} (h : m ∈ insertMember key v members) : m = (key, v) ∨ m ∈ members := by
  induction members with
  | nil => exact .inl (List.mem_singleton.1 h)
  | cons n rest ih =>
    rw [insertMember] at h
    split at h
    · exact List.mem_cons.1 h
    split at h
    · rcases List.mem_cons.1 h with h | h
      · exact .inl h
      · exact .inr (List.mem_cons_of_mem _ h)
    · rcases List.mem_cons.1 h with h | h
      · exact .inr (h ▸ List.mem_cons_self)
      · exact (ih h).imp id (List.mem_cons_of_mem _)

theorem ordered_cons {m : String × Value} {rest : List (String × Value)} :
    Ordered (m :: rest) ↔ (∀ n ∈ rest, m.1 < n.1) ∧ Ordered rest := by
  simp [Ordered]

theorem Ordered.insertMember {members : List (String × Value)} (h : Ordered members) (key : String)
    (v : Value) : Ordered (insertMember key v members) := by
  induction members with
  | nil => simp [Value.insertMember, Ordered]
  | cons n rest ih =>
    obtain ⟨hfirst, hrest⟩ := ordered_cons.1 h
    rw [Value.insertMember]
    split
    · next hlt =>
      refine ordered_cons.2 ⟨fun m hm => ?_, h⟩
      rcases List.mem_cons.1 hm with rfl | hm
      · exact hlt
      · exact String.lt_trans hlt (hfirst m hm)
    split
    · next heq => exact ordered_cons.2 ⟨fun m hm => heq ▸ hfirst m hm, hrest⟩
    · next hge hne =>
      have hlt : n.1 < key := Decidable.byContradiction fun hle =>
        hne (String.le_antisymm (String.not_lt.1 hle) (String.not_lt.1 hge))
      refine ordered_cons.2 ⟨fun m hm => ?_, ih hrest⟩
      rcases mem_insertMember hm with rfl | hm
      · exact hlt
      · exact hfirst m hm

theorem canonicalMembers_ordered {sorted : List (String × Value)} (h : Ordered sorted)
    (members : List (String × Value)) : Ordered (canonicalMembers sorted members) := by
  induction members generalizing sorted with
  | nil => exact h
  | cons m rest ih => exact ih (h.insertMember m.1 m.2.canonical)

/-- What holds of the members in canonical form holds of the members of the canonical form. -/
theorem canonicalMembers_forall {p : Value → Prop} {sorted members : List (String × Value)}
    (hsorted : ∀ m ∈ sorted, p m.2) (hmembers : ∀ m ∈ members, p m.2.canonical) :
    ∀ m ∈ canonicalMembers sorted members, p m.2 := by
  induction members generalizing sorted with
  | nil => exact hsorted
  | cons m rest ih =>
    refine ih (fun n hn => ?_) fun n hn => hmembers n (List.mem_cons_of_mem _ hn)
    rcases mem_insertMember hn with rfl | hn
    · exact hmembers m List.mem_cons_self
    · exact hsorted n hn

theorem canonical_of_ordered {members : List (String × Value)} (h : Ordered members)
    (hstays : ∀ m ∈ members, m.2.canonical = m.2) : (object members).canonical = object members := by
  have hkeys : (([] ++ members).map Prod.fst).Pairwise (· < ·) := h
  rw [canonical, canonicalMembers_sorted hkeys, List.nil_append]
  have hsame : ∀ m ∈ members, (m.1, m.2.canonical) = m := fun m hm => by rw [hstays m hm]
  rw [List.map_congr_left hsame, List.map_id']

theorem decodeMembers_of_forall {depth : Nat} {members : List (String × Value)}
    (h : ∀ m ∈ members, decodeValue depth m.2.node = .ok m.2) :
    decodeMembers depth .closed (memberNodes members) = .ok members := by
  induction members with
  | nil => rfl
  | cons m rest ih =>
    have hfirst := h m List.mem_cons_self
    have hrest := ih fun n hn => h n (List.mem_cons_of_mem _ hn)
    simp [memberNodes, decodeMembers, hfirst, hrest]

/-- **The canonical form of an object is settled** if the canonical forms of its members are. -/
theorem settled_object {depth : Nat} (hdepth : depth < 127) {members : List (String × Value)}
    (h : ∀ m ∈ members, Settled (depth + 1) m.2.canonical) : Settled depth (object members).canonical := by
  have hall : ∀ m ∈ canonicalMembers [] members, Settled (depth + 1) m.2 :=
    canonicalMembers_forall (by simp) h
  have hordered : Ordered (canonicalMembers [] members) := canonicalMembers_ordered (by simp [Ordered]) members
  rw [canonical]
  refine ⟨?_, canonical_of_ordered hordered fun m hm => (hall m hm).stays⟩
  simp [node, decodeValue, enter_of_lt hdepth, decodeMembers_of_forall fun m hm => (hall m hm).read]

end Value

end PersonaDialogue.Json
