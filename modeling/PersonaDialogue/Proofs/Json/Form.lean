import Mathlib.Data.List.Perm.Basic
import PersonaDialogue.Proofs.Json.Record

/-!
# Forms of a value

A value may be held as it was built, or in canonical form.  What a record is read from is the same in
both: the members of an object are there under the same names, only their order may differ, and every
text and whole number stays what it is.  `IsForm` says so of a map of values, and `decode_form` reads
a record from any form of an object.
-/

namespace PersonaDialogue.Json

/-! ### Members by name -/

section Lookup

variable {α β : Type}

theorem map_names (f : α → β) (members : List (String × α)) :
    (members.map fun m => (m.1, f m.2)).map Prod.fst = members.map Prod.fst := by
  rw [List.map_map]
  rfl

theorem lookup_map (f : α → β) (members : List (String × α)) (name : String) :
    (members.map fun m => (m.1, f m.2)).lookup name = (members.lookup name).map f := by
  induction members with
  | nil => rfl
  | cons m rest ih =>
    rw [List.map_cons, List.lookup_cons, List.lookup_cons, ih]
    cases name == m.1 <;> rfl

/-- Members of different names may change places. -/
theorem lookup_of_perm {l₁ l₂ : List (String × α)} (h : l₁.Perm l₂)
    (hkeys : (l₁.map Prod.fst).Nodup) (name : String) : l₁.lookup name = l₂.lookup name := by
  induction h with
  | nil => rfl
  | cons m _ ih =>
    rw [List.lookup_cons, List.lookup_cons, ih (List.nodup_cons.1 hkeys).2]
  | swap m n l =>
    have hne : n.1 ≠ m.1 := by
      simp only [List.map_cons, List.nodup_cons, List.mem_cons, not_or] at hkeys
      exact hkeys.1.1
    rw [List.lookup_cons, List.lookup_cons, List.lookup_cons, List.lookup_cons]
    cases hm : name == m.1 <;> cases hn : name == n.1 <;> try rfl
    exact absurd ((beq_iff_eq.1 hn).symm.trans (beq_iff_eq.1 hm)) hne
  | trans h₁ _ ih₁ ih₂ => rw [ih₁ hkeys, ih₂ ((h₁.map Prod.fst).nodup_iff.1 hkeys)]

end Lookup

namespace Value

/-- A form in which values may be held. -/
structure IsForm (form : Value → Value) : Prop where
  null : form .null = .null
  text : ∀ s, form (.text s) = .text s
  whole : ∀ n, form (.number (.whole n)) = .number (.whole n)
  array : ∀ items, form (.array items) = .array (items.map form)
  object : ∀ members, (members.map Prod.fst).Nodup → ∃ members',
    form (.object members) = .object members' ∧ members'.Perm (members.map fun m => (m.1, form m.2))
  sorted : ∀ members, (members.map Prod.fst).Pairwise (· < ·) →
    form (.object members) = .object (members.map fun m => (m.1, form m.2))

theorem isForm_id : IsForm id where
  null := rfl
  text _ := rfl
  whole _ := rfl
  array items := by simp
  object members _ := ⟨members, rfl, by simp⟩
  sorted members _ := by simp

/-! ### The canonical form -/

theorem insertMember_last {key : String} {members : List (String × Value)}
    (hlast : ∀ m ∈ members, m.1 < key) (v : Value) :
    insertMember key v members = members ++ [(key, v)] := by
  induction members with
  | nil => rfl
  | cons m rest ih =>
    have hm := hlast m (by simp)
    have hne : key ≠ m.1 := fun he => String.lt_irrefl key (by rw [he] at hm ⊢; exact hm)
    rw [insertMember, if_neg (String.lt_asymm hm), if_neg hne,
      ih fun n hn => hlast n (List.mem_cons_of_mem _ hn), List.cons_append]

theorem canonicalMembers_sorted {members sorted : List (String × Value)}
    (hkeys : ((sorted ++ members).map Prod.fst).Pairwise (· < ·)) :
    canonicalMembers sorted members = sorted ++ members.map fun m => (m.1, canonical m.2) := by
  induction members generalizing sorted with
  | nil => simp [canonicalMembers]
  | cons m rest ih =>
    obtain ⟨key, v⟩ := m
    have hlast : ∀ n ∈ sorted, n.1 < key := by
      rw [List.map_append, List.pairwise_append] at hkeys
      exact fun n hn => hkeys.2.2 n.1 (List.mem_map_of_mem hn) key (by simp)
    have hnext : ((sorted ++ [(key, canonical v)] ++ rest).map Prod.fst).Pairwise (· < ·) := by
      simpa using hkeys
    rw [canonicalMembers, insertMember_last hlast, ih hnext]
    simp

end Value

open Value (IsForm)

/-- **A record is read from any form of an object.** -/
theorem Fields.decode_form {ρ : Type} {fs : Fields ρ} {form : Value → Value} (hform : IsForm form)
    (title : String) (hnames : fs.names.Nodup) {members : List (String × Value)}
    (hkeys : (members.map Prod.fst).Nodup) (hknown : ∀ m ∈ members, m.1 ∈ fs.names) {depth : Nat}
    (hdepth : depth < 127) {r : ρ}
    (h : fs.Reads (depth + 1) (fun k => ((Value.object members).member? k).map fun v => (form v).node) r) :
    fs.decode title depth (form (.object members)).node = .ok r := by
  obtain ⟨members', hobject, hperm⟩ := hform.object members hkeys
  have hkeys' : (members'.map Prod.fst).Perm (members.map Prod.fst) := by
    rw [← map_names form members]
    exact hperm.map Prod.fst
  have hnodup := hkeys'.nodup_iff.2 hkeys
  have hnode : (form (.object members)).node =
      .object (asMembers (members'.map fun m => (m.1, m.2.node))) .closed := by
    rw [hobject, Value.node, Value.memberNodes_eq_map, asMembers, List.map_map]
    rfl
  rw [hnode]
  refine decode_members title hnames ((map_names Value.node members').symm ▸ hnodup) ?_ hdepth ?_
  · rintro ⟨name, v⟩ hm
    have hname : name ∈ members'.map Prod.fst := by
      obtain ⟨m, hm', he⟩ := List.mem_map.1 hm
      exact List.mem_map.2 ⟨m, hm', congrArg Prod.fst he⟩
    obtain ⟨m, hm', rfl⟩ := List.mem_map.1 (hkeys'.mem_iff.1 hname)
    exact hknown m hm'
  · have hfind : (fun k => (members'.map fun m => (m.1, m.2.node)).lookup k) =
        fun k => ((Value.object members).member? k).map fun v => (form v).node := by
      funext name
      rw [lookup_map, lookup_of_perm hperm hnodup, lookup_map, Option.map_map]
      rfl
    rwa [hfind]

/-! ### Texts, options and lists -/

theorem decodeItems_of_forall {α : Type} {decode : Decoder α} {depth : Nat} {node : α → Node}
    {as : List α} (h : ∀ a ∈ as, decode depth (node a) = .ok a) :
    decodeItems decode depth none (as.map node) = .ok as := by
  induction as with
  | nil => rfl
  | cons a as ih =>
    have hhead := h a (by simp)
    have htail := ih fun b hb => h b (List.mem_cons_of_mem _ hb)
    simp [decodeItems, hhead, htail]

section Decoders

variable {α : Type} {form : Value → Value} (hform : IsForm form) (depth : Nat)
include hform

theorem decodeText_form (s : String) : decodeText depth (form (.text s)).node = .ok s := by
  simp [hform.text, Value.node, decodeText]

theorem decodeVariant_form {table : List (String × α)} {s : String} {a : α}
    (h : table.lookup s = some a) : decodeVariant table depth (form (.text s)).node = .ok a := by
  simp [hform.text, Value.node, decodeVariant, variant, h]

theorem decodeOption_null (decode : Decoder α) :
    decodeOption decode depth (form .null).node = .ok none := by
  rw [hform.null]
  rfl

theorem decodeOption_text {decode : Decoder α} {s : String} {a : α}
    (h : decode depth (form (.text s)).node = .ok a) :
    decodeOption decode depth (form (.text s)).node = .ok (some a) := by
  rw [hform.text] at h ⊢
  simp only [Value.node] at h ⊢
  simp [decodeOption, h]

theorem decodeOption_object {decode : Decoder α} {members : List (String × Value)}
    (hkeys : (members.map Prod.fst).Nodup) {a : α}
    (h : decode depth (form (.object members)).node = .ok a) :
    decodeOption decode depth (form (.object members)).node = .ok (some a) := by
  obtain ⟨members', hobject, -⟩ := hform.object members hkeys
  rw [hobject] at h ⊢
  simp only [Value.node] at h ⊢
  simp [decodeOption, h]

/-- A list is read from any form of an array if its elements are. -/
theorem decodeList_form {decode : Decoder α} {toJson : α → Value} {as : List α} (hdepth : depth < 127)
    (h : ∀ a ∈ as, decode (depth + 1) (form (toJson a)).node = .ok a) :
    decodeList decode depth (form (.array (as.map toJson))).node = .ok as := by
  have hnode : (form (.array (as.map toJson))).node =
      .array (as.map fun a => (form (toJson a)).node) none := by
    rw [hform.array, Value.node, Value.nodes_eq_map, List.map_map, List.map_map]
    rfl
  rw [hnode, decodeList, enter_of_lt hdepth]
  exact decodeItems_of_forall h

end Decoders

end PersonaDialogue.Json
