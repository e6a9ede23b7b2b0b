import PersonaDialogue.Proofs.Json.Compact
import PersonaDialogue.Proofs.Json.Reading

/-!
# Records are read from their members in any order

The members of an object give a record (`Fields.Reads`) if the value of every field that is there is
read as the part of the record that belongs to it, and every field that is not there may be left out.
While the members are read, every field is either in the draft already or still to come
(`Fields.Awaits`), so it does not matter in which order they come (`Fields.decode_members`).
-/

namespace PersonaDialogue.Json

/-- The value of a field that an object leaves out, if it may do so. -/
def Presence.default? {α : Type} : Presence α → Option α
  | required => none
  | inObject a => some a
  | anywhere a => some a

namespace Fields

def names : {ρ : Type} → Fields ρ → List String
  | _, nil => []
  | _, field name _ _ later => name :: later.names

/-- Is `a` the value of a field, given what stands for the field in the object? -/
def Supplies {α : Type} (depth : Nat) (decode : Decoder α) (presence : Presence α) (a : α) :
    Option Node → Prop
  | some v => decode depth v = .ok a
  | none => presence.default? = some a

/-- Do the nodes that `find` has for the names of the fields make up a record? -/
def Reads (depth : Nat) (find : String → Option Node) : {ρ : Type} → Fields ρ → ρ → Prop
  | _, nil, _ => True
  | _, field name decode presence later, r =>
    Supplies depth decode presence r.1 (find name) ∧ Reads depth find later r.2

/-- Will a draft make up a record once the nodes that `find` has were read into it? -/
def Awaits (depth : Nat) (find : String → Option Node) :
    {ρ : Type} → (fs : Fields ρ) → fs.Draft → ρ → Prop
  | _, nil, _, _ => True
  | _, field (α := α) name decode presence later, draft, r =>
    let draft : Option α × later.Draft := draft
    (match draft.1 with
      | some a => a = r.1 ∧ find name = none
      | none => Supplies depth decode presence r.1 (find name)) ∧
    Awaits depth find later draft.2 r.2

section Put

variable {α ρ : Type} {key : String} {decode : Decoder α} {presence : Presence α} {later : Fields ρ}
  {depth : Nat} {v : Node}

/-- A member is read by the field of its name. -/
theorem put_same (a : Option α) (others : later.Draft) :
    put depth key v (field key decode presence later) (a, others) =
      some (if a.isSome then complain (.duplicateField key)
        else (decode depth v).map fun b => (some b, others)) := by
  simp only [put, if_true]
  cases a with
  | some a => rfl
  | none => cases decode depth v <;> rfl

theorem put_later {name : String} (h : key ≠ name) (a : Option α) (others : later.Draft) :
    put depth name v (field key decode presence later) (a, others) =
      (put depth name v later others).map fun r => r.map fun others => (a, others) := by
  simp only [put, if_neg h]
  rfl

/-- A member that was read is in the field of its name, and everything else is as it was. -/
theorem put_ok {name : String} {a : Option α} {others : later.Draft}
    {draft : (field key decode presence later).Draft}
    (h : put depth name v (field key decode presence later) (a, others) = some (.ok draft)) :
    (key = name ∧ ∃ b, decode depth v = .ok b ∧ draft = (some b, others)) ∨
      (key ≠ name ∧ ∃ others', put depth name v later others = some (.ok others') ∧
        draft = (a, others')) := by
  by_cases heq : key = name
  · subst heq
    rw [put_same] at h
    have h := Option.some.inj h
    cases a with
    | some a => cases h
    | none =>
      cases hdecode : decode depth v with
      | error p =>
        rw [hdecode] at h
        cases h
      | ok b =>
        rw [hdecode] at h
        exact .inl ⟨rfl, b, rfl, (Except.ok.inj h).symm⟩
  · rw [put_later heq] at h
    obtain ⟨r, hr, hmap⟩ := Option.map_eq_some_iff.1 h
    cases r with
    | error p => cases hmap
    | ok others' => exact .inr ⟨heq, others', hr, (Except.ok.inj hmap).symm⟩

end Put

section Draft

variable {ρ : Type} {fs : Fields ρ} {depth : Nat} {find : String → Option Node} {r : ρ}

theorem awaits_blank (h : fs.Reads depth find r) : fs.Awaits depth find fs.blank r := by
  induction fs with
  | nil => trivial
  | field name decode presence later ih => exact ⟨h.1, ih h.2⟩

theorem awaits_congr {find' : String → Option Node} {draft : fs.Draft}
    (hfind : ∀ name ∈ fs.names, find' name = find name) (h : fs.Awaits depth find draft r) :
    fs.Awaits depth find' draft r := by
  induction fs with
  | nil => trivial
  | field name decode presence later ih =>
    have hname := hfind name (by simp [names])
    refine ⟨?_, ih (fun k hk => hfind k (by simp [names, hk])) h.2⟩
    simp only [hname]
    exact h.1

/-- A member that a draft awaits is read into it. -/
theorem put_of_mem (hnames : fs.names.Nodup) {key : String} (hkey : key ∈ fs.names) {v : Node}
    (hv : find key = some v) {draft : fs.Draft} (h : fs.Awaits depth find draft r)
    {find' : String → Option Node} (hgone : find' key = none)
    (hrest : ∀ name, name ≠ key → find' name = find name) :
    ∃ draft', put depth key v fs draft = some (.ok draft') ∧ fs.Awaits depth find' draft' r := by
  induction fs with
  | nil => simp [names] at hkey
  | field name decode presence later ih =>
    obtain ⟨hname, hlater⟩ := List.nodup_cons.1 hnames
    obtain ⟨a, others⟩ := draft
    obtain ⟨hfirst, hothers⟩ := h
    by_cases heq : name = key
    · subst heq
      have hnone : a = none := by
        cases a with
        | none => rfl
        | some a => exact absurd (hv.symm.trans hfirst.2) (by simp)
      subst hnone
      have hdecode : decode depth v = .ok r.1 := by simpa [hv, Supplies] using hfirst
      refine ⟨(some r.1, others), ?_, ⟨⟨rfl, hgone⟩, awaits_congr ?_ hothers⟩⟩
      · rw [put_same, hdecode]
        rfl
      · exact fun k hk => hrest k fun he => hname (he ▸ hk)
    · have hmem : key ∈ later.names := by simpa [names, Ne.symm heq] using hkey
      obtain ⟨others', hput, hawaits⟩ := ih hlater hmem hothers
      refine ⟨(a, others'), ?_, ⟨?_, hawaits⟩⟩
      · rw [put_later heq, hput]
        rfl
      · simp only [hrest name heq]
        exact hfirst

theorem complete_of_awaits {draft : fs.Draft} (h : fs.Awaits depth (fun _ => none) draft r) :
    fs.complete draft = .ok r := by
  induction fs with
  | nil => rfl
  | field name decode presence later ih =>
    obtain ⟨a, others⟩ := draft
    obtain ⟨a', r⟩ := r
    obtain ⟨hfirst, hothers⟩ := h
    have hlater := ih hothers
    cases a with
    | some a =>
      obtain rfl := hfirst.1
      simp [complete, hlater]
    | none =>
      cases presence <;> simp [Supplies, Presence.default?] at hfirst
      · subst hfirst
        simp [complete, hlater]
      · subst hfirst
        simp [complete, hlater]

end Draft

/-! ### Whole objects -/

section Members

variable {ρ : Type} {fs : Fields ρ} {depth : Nat} {r : ρ}

/-- The members of a value of a record, as the members of its tree. -/
def asMembers (members : List (String × Node)) : List (Literal × Node) :=
  members.map fun m => (.ofText m.1, m.2)

theorem readMembers_of_awaits (hnames : fs.names.Nodup) {members : List (String × Node)}
    (hkeys : (members.map Prod.fst).Nodup) (hknown : ∀ m ∈ members, m.1 ∈ fs.names)
    {draft : fs.Draft} (h : fs.Awaits depth (fun k => members.lookup k) draft r) :
    ∃ draft', fs.readMembers depth .closed (asMembers members) draft = .ok draft' ∧
      fs.Awaits depth (fun _ => none) draft' r := by
  induction members generalizing draft with
  | nil => exact ⟨draft, rfl, h⟩
  | cons m rest ih =>
    obtain ⟨key, v⟩ := m
    obtain ⟨hkey, hrest⟩ := List.nodup_cons.1 hkeys
    have hgone : rest.lookup key = none := by
      rw [List.lookup_eq_none_iff]
      intro m hm
      exact bne_iff_ne.2 fun he => hkey (List.mem_map.2 ⟨m, hm, he.symm⟩)
    have hothers : ∀ name, name ≠ key → rest.lookup name = ((key, v) :: rest).lookup name := by
      intro name hname
      rw [List.lookup_cons, beq_eq_false_iff_ne.2 hname]
    obtain ⟨draft', hput, hawaits⟩ := put_of_mem hnames (hknown (key, v) (by simp))
      (List.lookup_cons_self) h hgone hothers
    obtain ⟨done, hread, hdone⟩ := ih hrest (fun m hm => hknown m (List.mem_cons_of_mem _ hm)) hawaits
    refine ⟨done, ?_, hdone⟩
    simpa [asMembers, readMembers, hput] using hread

theorem decode_members (title : String) (hnames : fs.names.Nodup) {members : List (String × Node)}
    (hkeys : (members.map Prod.fst).Nodup) (hknown : ∀ m ∈ members, m.1 ∈ fs.names)
    (hdepth : depth < 127) (h : fs.Reads (depth + 1) (fun k => members.lookup k) r) :
    fs.decode title depth (.object (asMembers members) .closed) = .ok r := by
  obtain ⟨draft, hread, hdraft⟩ := readMembers_of_awaits hnames hkeys hknown (awaits_blank h)
  simp [decode, enter_of_lt hdepth, hread, complete_of_awaits hdraft]

end Members

end Fields

end PersonaDialogue.Json
