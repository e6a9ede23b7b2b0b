import PersonaDialogue.Proofs.Json.Record

/-!
# A record is refused for the first member that is wrong

While the members of an object come with different names, what becomes of a member depends only on the
field of its name (`Fields.outcome`), not on what was read before.  So the first member that its field
refuses is the problem of the whole object (`Fields.decode_refused`).
-/

namespace PersonaDialogue.Json

namespace Fields

/-- What the field of a name makes of a value: nothing if there is no such field. -/
def outcome (depth : Nat) (name : String) (v : Node) : {ρ : Type} → Fields ρ → Option (Reading Unit)
  | _, nil => none
  | _, field key decode _ later =>
    if key = name then some ((decode depth v).map fun _ => ()) else later.outcome depth name v

/-- Is nothing in a draft for a name? -/
def Lacks (name : String) : {ρ : Type} → (fs : Fields ρ) → fs.Draft → Prop
  | _, nil, _ => True
  | _, field (α := α) key _ _ later, draft =>
    let draft : Option α × later.Draft := draft
    (key = name → draft.1 = none) ∧ later.Lacks name draft.2

section Members

variable {ρ : Type} {fs : Fields ρ} {depth : Nat}

theorem blank_lacks (name : String) : fs.Lacks name fs.blank := by
  induction fs with
  | nil => trivial
  | field key decode presence later ih => exact ⟨fun _ => rfl, ih⟩

/-- What becomes of a member does not depend on the other members that were read. -/
theorem put_outcome {name : String} {v : Node} {draft : fs.Draft} (h : fs.Lacks name draft) :
    (put depth name v fs draft).map (fun r => r.map fun _ => ()) = fs.outcome depth name v := by
  induction fs with
  | nil => rfl
  | field key decode presence later ih =>
    obtain ⟨a, others⟩ := draft
    obtain ⟨hfirst, hothers⟩ := h
    by_cases heq : key = name
    · subst heq
      obtain rfl : a = none := hfirst rfl
      rw [put_same, outcome, if_pos rfl]
      cases decode depth v <;> rfl
    · rw [put_later heq, outcome, if_neg heq, ← ih hothers]
      rcases put depth name v later others with _ | _ | _ <;> rfl

/-- A member fills nothing but its own field. -/
theorem put_lacks {name other : String} (hne : other ≠ name) {v : Node} {draft draft' : fs.Draft}
    (h : fs.Lacks other draft) (hput : put depth name v fs draft = some (.ok draft')) :
    fs.Lacks other draft' := by
  induction fs with
  | nil => trivial
  | field key decode presence later ih =>
    obtain ⟨a, others⟩ := draft
    obtain ⟨hfirst, hothers⟩ := h
    obtain ⟨rfl, b, -, rfl⟩ | ⟨-, others', hlater, rfl⟩ := put_ok hput
    · exact ⟨fun heq => absurd heq.symm hne, hothers⟩
    · exact ⟨hfirst, ih hothers hlater⟩

theorem put_of_refused {name : String} {v : Node} {p : Problem} {draft : fs.Draft}
    (h : fs.Lacks name draft) (hrefused : fs.outcome depth name v = some (.error p)) :
    put depth name v fs draft = some (.error p) := by
  have hput : (put depth name v fs draft).map (fun r => r.map fun _ => ()) = fs.outcome depth name v :=
    put_outcome h
  rw [hrefused] at hput
  obtain ⟨_ | draft', hr, hmap⟩ := Option.map_eq_some_iff.1 hput
  · rw [hr, Except.error.inj hmap]
  · cases hmap

theorem put_of_accepted {name : String} {v : Node} {draft : fs.Draft} (h : fs.Lacks name draft)
    (haccepted : fs.outcome depth name v = some (.ok ())) :
    ∃ draft', put depth name v fs draft = some (.ok draft') := by
  have hput : (put depth name v fs draft).map (fun r => r.map fun _ => ()) = fs.outcome depth name v :=
    put_outcome h
  rw [haccepted] at hput
  obtain ⟨_ | draft', hr, hmap⟩ := Option.map_eq_some_iff.1 hput
  · cases hmap
  · exact ⟨draft', hr⟩

variable {before after : List (String × Node)} {name : String} {v : Node} {p : Problem}

/-- Members that their fields accept are passed, and the first that is refused is the problem. -/
theorem readMembers_refused (hnames : ((before ++ (name, v) :: after).map Prod.fst).Nodup)
    (hbefore : ∀ m ∈ before, fs.outcome depth m.1 m.2 = some (.ok ()))
    (hrefused : fs.outcome depth name v = some (.error p)) {draft : fs.Draft}
    (hdraft : ∀ m ∈ before ++ (name, v) :: after, fs.Lacks m.1 draft) :
    fs.readMembers depth .closed (asMembers (before ++ (name, v) :: after)) draft = .error p := by
  induction before generalizing draft with
  | nil =>
    have hput := put_of_refused (hdraft (name, v) (by simp)) hrefused
    simp [asMembers, readMembers, hput]
    rfl
  | cons m before ih =>
    obtain ⟨draft', hput⟩ := put_of_accepted (hdraft m (by simp)) (hbefore m (by simp))
    obtain ⟨hnew, hrest⟩ := List.nodup_cons.1 hnames
    have hlacks : ∀ n ∈ before ++ (name, v) :: after, fs.Lacks n.1 draft' := by
      intro n hn
      have hne : n.1 ≠ m.1 := fun heq => hnew (heq ▸ List.mem_map_of_mem hn)
      exact put_lacks hne (hdraft n (List.mem_cons_of_mem _ hn)) hput
    have hread := ih hrest (fun n hn => hbefore n (List.mem_cons_of_mem _ hn)) hlacks
    simpa [asMembers, readMembers, hput] using hread

/-- **The first member that its field refuses is the problem of the object.** -/
theorem decode_refused (title : String) (hdepth : depth < 127)
    (hnames : ((before ++ (name, v) :: after).map Prod.fst).Nodup)
    (hbefore : ∀ m ∈ before, fs.outcome (depth + 1) m.1 m.2 = some (.ok ()))
    (hrefused : fs.outcome (depth + 1) name v = some (.error p)) :
    fs.decode title depth (.object (asMembers (before ++ (name, v) :: after)) .closed) = .error p := by
  have hread := readMembers_refused hnames hbefore hrefused fun m _ => blank_lacks m.1
  simp [decode, enter_of_lt hdepth, hread]
  rfl

end Members

end Fields

end PersonaDialogue.Json
