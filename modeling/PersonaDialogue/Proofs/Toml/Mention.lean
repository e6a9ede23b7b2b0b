import Mathlib.Data.List.Nodup
import PersonaDialogue.Toml.Table

/-!
# What a document says about its own keys

A statement names a path, and what it names begins at the header that holds.  With that header in front, a
statement is a *mention*: a whole path, and the value that it gets if the statement gives one.  The members of
the whole table come from the mentions alone: a value to which no later statement can add is there if and only
if one mention gives it to the key itself, a key is there if and only if a mention begins with it, and no key is
there twice (`build_mentions`).  So what is said about one key is not touched by anything else in the document.
-/

namespace PersonaDialogue.Toml

/-! ### Looking up keys -/

section Lookup

variable {α : Type} {l : List (String × α)} {key : String} {x : α}

theorem not_mem_keys (h : l.lookup key = none) : key ∉ l.map Prod.fst := by
  rw [List.lookup_eq_none_iff] at h
  intro hmem
  obtain ⟨m, hm, rfl⟩ := List.mem_map.1 hmem
  simpa using h m hm

theorem mem_of_lookup (h : l.lookup key = some x) : (key, x) ∈ l := by
  obtain ⟨before, behind, rfl, -⟩ := List.lookup_eq_some_iff.1 h
  exact List.mem_append_right _ List.mem_cons_self

/-- Where no key comes twice, a member is what its key has. -/
theorem lookup_of_mem (hnodup : (l.map Prod.fst).Nodup) (h : (key, x) ∈ l) : l.lookup key = some x := by
  cases hlookup : l.lookup key with
  | none => exact absurd (List.mem_map_of_mem h) (not_mem_keys hlookup)
  | some y =>
    have heq : (key, y) = (key, x) := List.inj_on_of_nodup_map hnodup (mem_of_lookup hlookup) h rfl
    rw [(Prod.mk.inj heq).2]

end Lookup

/-! ### Mentions -/

/-- May later statements add to the value?  They may add to tables, except those on one line. -/
def Value.isOpen : Value → Bool
  | .table origin _ => origin ≠ .inline
  | .tables _ => true
  | _ => false

/-- A path from the root of the document, and the value that is given to it, if any. -/
structure Mention where
  path : List String
  value : Option Value

/-- What a statement mentions under a header. -/
def Statement.mention (current : List String) : Statement → Mention
  | .entry path v => ⟨current ++ path, some v⟩
  | .header path => ⟨path, none⟩
  | .row path => ⟨path, none⟩

def Statement.next (current : List String) : Statement → List String
  | .entry _ _ => current
  | .header path => path
  | .row path => path

def mentions (current : List String) : List Statement → List Mention
  | [] => []
  | st :: later => st.mention current :: mentions (st.next current) later

/-- A statement as a document can have it: it gives a value to some path, and none that is open. -/
def Statement.WellFormed : Statement → Prop
  | .entry path v => path ≠ [] ∧ v.isOpen = false
  | _ => True

namespace Members

/-- The members to whose values no later statement can add. -/
def settled (ms : Members) : Members := ms.filter fun m => !m.2.isOpen

/-- The members with the keys of the table itself to which a mention gives values. -/
def given (m : Mention) : Members :=
  match m.path, m.value with
  | [key], some v => [(key, v)]
  | _, _ => []

/-- The members `ms'` are what `ms` come to by some mentions. -/
structure After (l : List Mention) (ms ms' : Members) : Prop where
  nodup : (ms.map Prod.fst).Nodup → (ms'.map Prod.fst).Nodup
  settled : (ms.map Prod.fst).Nodup → ms'.settled = ms.settled ++ l.flatMap given
  keys : ∀ key, key ∈ ms'.map Prod.fst ↔ key ∈ ms.map Prod.fst ∨ ∃ m ∈ l, m.path.head? = some key

theorem after_nil (ms : Members) : After [] ms ms :=
  ⟨id, fun _ => (List.append_nil _).symm, by simp⟩

theorem After.trans {l l' : List Mention} {ms ms' ms'' : Members} (h : After l ms ms') (h' : After l' ms' ms'') :
    After (l ++ l') ms ms'' := by
  refine ⟨fun hnodup => h'.nodup (h.nodup hnodup), fun hnodup => ?_, fun key => ?_⟩
  · rw [h'.settled (h.nodup hnodup), h.settled hnodup, List.flatMap_append, List.append_assoc]
  · rw [h'.keys, h.keys, or_assoc]
    simp only [List.mem_append, or_and_right, exists_or]

variable {ms ms' : Members} {key : String} {v w : Value} {path : List String}

/-- A member that is added at the end. -/
theorem after_append {m : Mention} (hnew : ms.lookup key = none) (hpath : m.path.head? = some key)
    (hgiven : given m = if v.isOpen then [] else [(key, v)]) : After [m] ms (ms ++ [(key, v)]) := by
  have hkey := not_mem_keys hnew
  refine ⟨fun hnodup => ?_, fun _ => ?_, fun k => ?_⟩
  · rw [List.map_append, List.nodup_append]
    refine ⟨hnodup, List.nodup_singleton _, fun k hk k' hk' heq => ?_⟩
    rw [heq, List.mem_singleton.1 hk'] at hk
    exact hkey hk
  · rw [Members.settled, List.filter_append, List.flatMap_singleton, hgiven]
    cases hopen : v.isOpen <;> simp [Members.settled, hopen]
  · simp [hpath, eq_comm]

theorem map_fst_replace (ms : Members) (key : String) (w : Value) :
    (ms.replace key w).map Prod.fst = ms.map Prod.fst := by
  rw [replace, List.map_map]
  refine List.map_congr_left fun m _ => ?_
  simp only [Function.comp]
  split <;> rfl

theorem settled_replace (hw : w.isOpen = true) (hkey : ∀ m ∈ ms, m.1 = key → m.2.isOpen = true) :
    (ms.replace key w).settled = ms.settled := by
  induction ms with
  | nil => rfl
  | cons m ms ih =>
    have hrest : Members.settled (replace key w ms) = Members.settled ms :=
      ih fun m hm => hkey m (List.mem_cons_of_mem _ hm)
    obtain ⟨k, v⟩ := m
    change Members.settled ((if k = key then (k, w) else (k, v)) :: replace key w ms) = _
    split
    · next h =>
      have hv : v.isOpen = true := hkey (k, v) List.mem_cons_self h
      simpa [Members.settled, hw, hv] using hrest
    · cases hopen : v.isOpen <;> simpa [Members.settled, hopen] using hrest

/-- An open value that grows. -/
theorem after_replace {m : Mention} (hlookup : ms.lookup key = some v) (hv : v.isOpen = true)
    (hw : w.isOpen = true) (hpath : m.path.head? = some key) (hgiven : given m = []) :
    After [m] ms (ms.replace key w) := by
  have hmem : (key, v) ∈ ms := mem_of_lookup hlookup
  refine ⟨fun hnodup => by rwa [map_fst_replace], fun hnodup => ?_, fun k => ?_⟩
  · rw [List.flatMap_singleton, hgiven, List.append_nil]
    refine settled_replace hw ?_
    rintro ⟨k, x⟩ hx rfl
    obtain rfl := Option.some.inj ((lookup_of_mem hnodup hx).symm.trans hlookup)
    exact hv
  · rw [map_fst_replace]
    refine ⟨.inl, ?_⟩
    rintro (h | ⟨_, hm, h⟩)
    · exact h
    · obtain rfl := List.mem_singleton.1 hm
      exact Option.some.inj (hpath.symm.trans h) ▸ List.mem_map_of_mem hmem

/-! ### One statement -/

theorem after_assign {v : Value} (hv : v.isOpen = false) (h : assign path v ms = some ms') :
    After [⟨path, some v⟩] ms ms' := by
  match path with
  | [] => cases h
  | [key] =>
    rw [assign, add] at h
    split at h
    · cases h
    · next hnew =>
      obtain rfl := Option.some.inj h
      exact after_append (Option.not_isSome_iff_eq_none.1 hnew) rfl (by rw [hv]; rfl)
  | key :: next :: more =>
    rw [assign] at h
    split at h
    · next hlookup =>
      obtain ⟨inner, -, h⟩ := Option.bind_eq_some_iff.1 h
      obtain rfl := Option.some.inj h
      exact after_append hlookup rfl rfl
    · next inner hlookup =>
      obtain ⟨inner', -, h⟩ := Option.bind_eq_some_iff.1 h
      obtain rfl := Option.some.inj h
      exact after_replace hlookup rfl rfl rfl rfl
    · next inner hlookup =>
      obtain ⟨-, h⟩ := Option.ite_none_left_eq_some.1 h
      obtain ⟨inner', -, h⟩ := Option.bind_eq_some_iff.1 h
      obtain rfl := Option.some.inj h
      exact after_replace hlookup rfl rfl rfl rfl
    · next rows hlookup =>
      obtain ⟨-, h⟩ := Option.ite_none_left_eq_some.1 h
      obtain ⟨rows', -, h⟩ := Option.bind_eq_some_iff.1 h
      obtain rfl := Option.some.inj h
      exact after_replace hlookup rfl rfl rfl rfl
    · cases h

/-- Whatever is changed in a table below, the member that leads there is open. -/
theorem after_within {f : Members → Option Members} {m : Mention} (hpath : m.path.head? = some key)
    (hgiven : given m = []) (h : within f (key :: path) ms = some ms') : After [m] ms ms' := by
  rw [within] at h
  split at h
  · next hlookup =>
    obtain ⟨inner, -, h⟩ := Option.bind_eq_some_iff.1 h
    obtain rfl := Option.some.inj h
    exact after_append hlookup hpath hgiven
  · next origin inner hlookup =>
    obtain ⟨horigin, h⟩ := Option.ite_none_left_eq_some.1 h
    obtain ⟨inner', -, h⟩ := Option.bind_eq_some_iff.1 h
    obtain rfl := Option.some.inj h
    exact after_replace hlookup (decide_eq_true horigin) (decide_eq_true horigin) hpath hgiven
  · next rows hlookup =>
    obtain ⟨rows', -, h⟩ := Option.bind_eq_some_iff.1 h
    obtain rfl := Option.some.inj h
    exact after_replace hlookup rfl rfl hpath hgiven
  · cases h

theorem after_openTable (h : openTable key ms = some ms') : After [⟨[key], none⟩] ms ms' := by
  rw [openTable] at h
  split at h
  · next hlookup =>
    obtain rfl := Option.some.inj h
    exact after_append hlookup rfl rfl
  · next inner hlookup =>
    obtain rfl := Option.some.inj h
    exact after_replace hlookup rfl rfl rfl rfl
  · cases h

theorem after_openRow (h : openRow key ms = some ms') : After [⟨[key], none⟩] ms ms' := by
  rw [openRow] at h
  split at h
  · next hlookup =>
    obtain rfl := Option.some.inj h
    exact after_append hlookup rfl rfl
  · next rows hlookup =>
    obtain rfl := Option.some.inj h
    exact after_replace hlookup rfl rfl rfl rfl
  · cases h

/-- A header opens something at the end of its path. -/
theorem after_header {f : Members → Option Members}
    (hf : ∀ {ms ms'}, f ms = some ms' → After [⟨[key], none⟩] ms ms')
    (hlast : path.getLast? = some key) (h : within f path.dropLast ms = some ms') :
    After [⟨path, none⟩] ms ms' := by
  obtain ⟨front, rfl⟩ := List.getLast?_eq_some_iff.1 hlast
  rw [List.dropLast_concat] at h
  cases front with
  | nil => exact hf h
  | cons k front => exact after_within rfl (by cases front <;> rfl) h

end Members

/-! ### A run of statements -/

theorem Draft.after_step {d d' : Draft} {st : Statement} (hst : st.WellFormed) (h : d.step st = some d') :
    d'.current = st.next d.current ∧ Members.After [st.mention d.current] d.root d'.root := by
  cases st with
  | entry path v =>
    obtain ⟨hpath, hv⟩ := hst
    obtain ⟨root, hroot, h⟩ := Option.bind_eq_some_iff.1 h
    obtain rfl := Option.some.inj h
    refine ⟨rfl, ?_⟩
    rw [Statement.mention]
    cases hcurrent : d.current with
    | nil =>
      rw [hcurrent, Members.within] at hroot
      exact Members.after_assign hv hroot
    | cons key front =>
      rw [hcurrent] at hroot
      obtain ⟨next, more, hnext⟩ := List.exists_cons_of_ne_nil (List.append_ne_nil_of_right_ne_nil front hpath)
      refine Members.after_within rfl ?_ hroot
      rw [List.cons_append, hnext]
      rfl
  | header path =>
    obtain ⟨key, hlast, h⟩ := Option.bind_eq_some_iff.1 h
    obtain ⟨root, hroot, h⟩ := Option.bind_eq_some_iff.1 h
    obtain rfl := Option.some.inj h
    exact ⟨rfl, Members.after_header Members.after_openTable hlast hroot⟩
  | row path =>
    obtain ⟨key, hlast, h⟩ := Option.bind_eq_some_iff.1 h
    obtain ⟨root, hroot, h⟩ := Option.bind_eq_some_iff.1 h
    obtain rfl := Option.some.inj h
    exact ⟨rfl, Members.after_header Members.after_openRow hlast hroot⟩

theorem Draft.after_run {sts : List Statement} {d d' : Draft} (hsts : ∀ st ∈ sts, st.WellFormed)
    (h : sts.foldlM Draft.step d = some d') : Members.After (mentions d.current sts) d.root d'.root := by
  induction sts generalizing d with
  | nil =>
    obtain rfl := Option.some.inj h
    exact Members.after_nil _
  | cons st later ih =>
    rw [List.foldlM_cons] at h
    obtain ⟨d₁, hstep, h⟩ := Option.bind_eq_some_iff.1 h
    obtain ⟨hcurrent, hfirst⟩ := after_step (hsts st List.mem_cons_self) hstep
    have hlater := ih (fun st hst => hsts st (List.mem_cons_of_mem _ hst)) h
    rw [hcurrent] at hlater
    exact hfirst.trans hlater

/-- A table holds what some mentions say about its own keys. -/
structure Members.Records (table : Members) (l : List Mention) : Prop where
  /-- No key is there twice. -/
  nodup : (table.map Prod.fst).Nodup
  /-- A value that is not open is there exactly if it was given to the key itself. -/
  written : ∀ key v, (key, v) ∈ table ∧ v.isOpen = false ↔ ⟨[key], some v⟩ ∈ l
  /-- A key is there exactly if a mention begins with it. -/
  keys : ∀ key, key ∈ table.map Prod.fst ↔ ∃ m ∈ l, m.path.head? = some key

theorem Members.mem_given_iff {m : Mention} {key : String} {v : Value} :
    (key, v) ∈ given m ↔ m = ⟨[key], some v⟩ := by
  obtain ⟨path, value⟩ := m
  unfold given
  split
  · next k w hpath hvalue =>
    obtain rfl : path = [k] := hpath
    obtain rfl : value = some w := hvalue
    simp [eq_comm]
  · next hne =>
    simp only [List.not_mem_nil, false_iff]
    rintro ⟨⟩
    exact hne key v rfl rfl

/-- **A document makes the table of what it mentions.** -/
theorem build_mentions {sts : List Statement} {table : Members} (hsts : ∀ st ∈ sts, st.WellFormed)
    (h : build sts = some table) : table.Records (mentions [] sts) := by
  obtain ⟨d, hrun, rfl⟩ := Option.map_eq_some_iff.1 h
  have hafter := Draft.after_run hsts hrun
  refine ⟨hafter.nodup List.nodup_nil, fun key v => ?_, fun key => ?_⟩
  · have hsettled : d.root.settled = (mentions [] sts).flatMap Members.given := hafter.settled List.nodup_nil
    have hmem : (key, v) ∈ d.root.settled ↔ (key, v) ∈ d.root ∧ v.isOpen = false := by
      simp [Members.settled, List.mem_filter]
    rw [← hmem, hsettled, List.mem_flatMap]
    simp [Members.mem_given_iff]
  · simpa [Draft.blank] using hafter.keys key

end PersonaDialogue.Toml
