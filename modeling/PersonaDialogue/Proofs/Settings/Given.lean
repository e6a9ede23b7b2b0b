import PersonaDialogue.Proofs.Settings.Document
import PersonaDialogue.Proofs.Toml.Statements
import PersonaDialogue.Settings.Store

/-!
# No setting is passed over

Five keys are known, and what they can have is said here without reading anything: `Key.Denotes` ties a value
to the settings that it stands for, and `Key.Admits` tells whether it stands for any.  A document is refused
if it is no TOML, or if a known key has a value that it does not admit.  Otherwise every known key that is
there has what was written, and every other has its default (`ofTable?_eq_some_iff`).  Whatever else stands in
the document makes no difference, since a table holds what the document mentions of its keys, each key by
itself (`load_heeds_document`).
-/

namespace PersonaDialogue

open Toml (Members Value)

namespace Settings

/-- What settings have for one key. -/
inductive Part
  | long (n : UInt64)
  | word (n : UInt32)
  | priority (p : Priority)
  | path (path : Option String)
deriving DecidableEq

/-- The value is how the part is written.  A priority is a name, or a table with the name as only key and nothing
in it; that there is no path cannot be written. -/
def Part.WrittenAs : Part → Value → Prop
  | long n, v => v = .whole n.toNat
  | word n, v => v = .whole n.toNat
  | priority p, v => v = .text p.label ∨
      ∃ origin content, v = .table origin [(p.label, content)] ∧ isHollow content = true
  | path o, v => ∃ s, o = some s ∧ v = .text s

inductive Key
  | latency
  | ageStep
  | ageWindow
  | priority
  | eventLog
deriving DecidableEq, Repr

namespace Key

def name : Key → String
  | latency => "latency_ms"
  | ageStep => "relative_age_step"
  | ageWindow => "single_age_window"
  | priority => "default_pain_point_priority"
  | eventLog => "event_log_path"

/-- What settings have for the key. -/
def part (s : Settings) : Key → Part
  | latency => .long s.latency
  | ageStep => .word s.ageStep
  | ageWindow => .word s.ageWindow
  | priority => .priority s.painPointPriority
  | eventLog => .path s.eventLog

/-- The key can have the value: a whole number that fits, the name of a priority, or a text. -/
def Admits (v : Value) : Key → Prop
  | latency => ∃ n : Int, v = .whole n ∧ 0 ≤ n ∧ n < UInt64.size
  | ageStep | ageWindow => ∃ n : Int, v = .whole n ∧ 0 ≤ n ∧ n < UInt32.size
  | priority => ∃ name ∈ ["low", "medium", "high"], v = .text name ∨
      ∃ origin content, v = .table origin [(name, content)] ∧ isHollow content = true
  | eventLog => ∃ path, v = .text path

/-- The settings have for the key what the table says, or the default where the table says nothing. -/
def Settles (table : Members) (s : Settings) (k : Key) : Prop :=
  match table.lookup k.name with
  | some v => (k.part s).WrittenAs v
  | none => k.part s = k.part default

end Key

/-! ### Readers -/

variable {v : Value}

theorem readLong?_eq_some_iff {n : UInt64} : readLong? v = some n ↔ (Part.long n).WrittenAs v := by
  constructor
  · intro h
    unfold readLong? at h
    split at h
    · next k =>
      obtain ⟨⟨hnonneg, hlt⟩, h⟩ := Option.ite_none_right_eq_some.1 h
      obtain rfl := Option.some.inj h
      have hfits : k.toNat < UInt64.size := (Int.toNat_lt hnonneg).2 hlt
      have hnat : (UInt64.ofNat k.toNat).toNat = k.toNat := UInt64.toNat_ofNat_of_lt' hfits
      rw [Part.WrittenAs, hnat, Int.toNat_of_nonneg hnonneg]
    · cases h
  · rintro rfl
    exact readLong?_toNat n

theorem readWord?_eq_some_iff {n : UInt32} : readWord? v = some n ↔ (Part.word n).WrittenAs v := by
  constructor
  · intro h
    unfold readWord? at h
    split at h
    · next k =>
      obtain ⟨⟨hnonneg, hlt⟩, h⟩ := Option.ite_none_right_eq_some.1 h
      obtain rfl := Option.some.inj h
      have hfits : k.toNat < UInt32.size := (Int.toNat_lt hnonneg).2 hlt
      have hnat : (UInt32.ofNat k.toNat).toNat = k.toNat := UInt32.toNat_ofNat_of_lt' hfits
      rw [Part.WrittenAs, hnat, Int.toNat_of_nonneg hnonneg]
    · cases h
  · rintro rfl
    exact readWord?_toNat n

theorem lookup_priority_iff {name : String} {p : Priority} :
    Priority.table.lookup name = some p ↔ name = p.label := by
  constructor
  · intro h
    have hlabels : ∀ m ∈ Priority.table, m.1 = m.2.label := by decide
    exact hlabels (name, p) (Toml.mem_of_lookup h)
  · rintro rfl
    exact Priority.lookup_label p

theorem readPriority?_eq_some_iff {p : Priority} : readPriority? v = some p ↔ (Part.priority p).WrittenAs v := by
  constructor
  · intro h
    unfold readPriority? at h
    split at h
    · next name => exact .inl (by rw [lookup_priority_iff.1 h])
    · next origin name content =>
      obtain ⟨hhollow, h⟩ := Option.ite_none_right_eq_some.1 h
      exact .inr ⟨origin, content, by rw [lookup_priority_iff.1 h], hhollow⟩
    · cases h
  · rintro (rfl | ⟨origin, content, rfl, hhollow⟩)
    · exact Priority.lookup_label p
    · rw [readPriority?, if_pos hhollow]
      exact Priority.lookup_label p

theorem readPath?_eq_some_iff {o : Option String} : readPath? v = some o ↔ (Part.path o).WrittenAs v := by
  constructor
  · intro h
    unfold readPath? at h
    split at h
    · next s => exact ⟨s, (Option.some.inj h).symm, rfl⟩
    · cases h
  · rintro ⟨s, rfl, rfl⟩
    rfl

/-! ### Tables -/

theorem setting?_eq_some_iff {α : Type} {read : Value → Option α} {fallback x : α} {key : String} {table : Members}
    {part : α → Part} (hread : ∀ {v x}, read v = some x ↔ (part x).WrittenAs v)
    (hpart : ∀ {x y}, part x = part y → x = y) :
    setting? read fallback key table = some x ↔
      match table.lookup key with
      | some v => (part x).WrittenAs v
      | none => part x = part fallback := by
  unfold setting?
  cases table.lookup key with
  | some v => exact hread
  | none =>
    refine ⟨fun h => by rw [Option.some.inj h], fun h => by rw [hpart h]⟩

/-- **A table holds exactly the settings that have for every key what it says, or the default.** -/
theorem ofTable?_eq_some_iff {table : Members} {s : Settings} :
    ofTable? table = some s ↔ ∀ k : Key, k.Settles table s := by
  have hlatency : setting? readLong? default.latency "latency_ms" table = some s.latency ↔
      Key.latency.Settles table s := setting?_eq_some_iff readLong?_eq_some_iff Part.long.inj
  have hstep : setting? readWord? default.ageStep "relative_age_step" table = some s.ageStep ↔
      Key.ageStep.Settles table s := setting?_eq_some_iff readWord?_eq_some_iff Part.word.inj
  have hwindow : setting? readWord? default.ageWindow "single_age_window" table = some s.ageWindow ↔
      Key.ageWindow.Settles table s := setting?_eq_some_iff readWord?_eq_some_iff Part.word.inj
  have hpriority : setting? readPriority? default.painPointPriority "default_pain_point_priority" table =
      some s.painPointPriority ↔ Key.priority.Settles table s :=
    setting?_eq_some_iff readPriority?_eq_some_iff Part.priority.inj
  have hlog : setting? readPath? default.eventLog "event_log_path" table = some s.eventLog ↔
      Key.eventLog.Settles table s := setting?_eq_some_iff readPath?_eq_some_iff Part.path.inj
  constructor
  · intro h
    obtain ⟨latency, h₁, h⟩ := Option.bind_eq_some_iff.1 h
    obtain ⟨step, h₂, h⟩ := Option.bind_eq_some_iff.1 h
    obtain ⟨window, h₃, h⟩ := Option.bind_eq_some_iff.1 h
    obtain ⟨priority, h₄, h⟩ := Option.bind_eq_some_iff.1 h
    obtain ⟨log, h₅, h⟩ := Option.bind_eq_some_iff.1 h
    obtain rfl := Option.some.inj h
    intro k
    cases k with
    | latency => exact hlatency.1 h₁
    | ageStep => exact hstep.1 h₂
    | ageWindow => exact hwindow.1 h₃
    | priority => exact hpriority.1 h₄
    | eventLog => exact hlog.1 h₅
  · intro h
    rw [ofTable?, hlatency.2 (h .latency), hstep.2 (h .ageStep), hwindow.2 (h .ageWindow),
      hpriority.2 (h .priority), hlog.2 (h .eventLog)]
    rfl

theorem exists_word_iff :
    (∃ n, (Part.word n).WrittenAs v) ↔ ∃ n : Int, v = .whole n ∧ 0 ≤ n ∧ n < UInt32.size := by
  constructor
  · rintro ⟨n, rfl⟩
    exact ⟨_, rfl, Int.natCast_nonneg _, Int.ofNat_lt.2 n.toNat_lt_size⟩
  · rintro ⟨n, rfl, hn⟩
    exact ⟨UInt32.ofNat n.toNat, readWord?_eq_some_iff.1 (if_pos hn)⟩

namespace Key

variable {k : Key} {s s' : Settings} {table : Members}

/-- A key can have what stands for something that settings can have, and nothing else. -/
theorem admits_iff : k.Admits v ↔ ∃ s, (k.part s).WrittenAs v := by
  cases k with
  | latency =>
    constructor
    · rintro ⟨n, rfl, hn⟩
      exact ⟨{ default with latency := UInt64.ofNat n.toNat }, readLong?_eq_some_iff.1 (if_pos hn)⟩
    · rintro ⟨s, rfl⟩
      exact ⟨_, rfl, Int.natCast_nonneg _, Int.ofNat_lt.2 s.latency.toNat_lt⟩
  | ageStep =>
    constructor
    · intro h
      obtain ⟨n, hn⟩ := exists_word_iff.2 h
      exact ⟨{ default with ageStep := n }, hn⟩
    · rintro ⟨s, hs⟩
      exact exists_word_iff.1 ⟨s.ageStep, hs⟩
  | ageWindow =>
    constructor
    · intro h
      obtain ⟨n, hn⟩ := exists_word_iff.2 h
      exact ⟨{ default with ageWindow := n }, hn⟩
    · rintro ⟨s, hs⟩
      exact exists_word_iff.1 ⟨s.ageWindow, hs⟩
  | priority =>
    have hnames : ["low", "medium", "high"] = [Priority.low, .medium, .high].map Priority.label := rfl
    constructor
    · rintro ⟨name, hname, hv⟩
      rw [hnames] at hname
      obtain ⟨p, -, rfl⟩ := List.mem_map.1 hname
      exact ⟨{ default with painPointPriority := p }, hv⟩
    · rintro ⟨s, hv⟩
      refine ⟨s.painPointPriority.label, ?_, hv⟩
      rw [hnames]
      exact List.mem_map_of_mem (by cases s.painPointPriority <;> decide)
  | eventLog =>
    constructor
    · rintro ⟨path, rfl⟩
      exact ⟨{ default with eventLog := some path }, path, rfl, rfl⟩
    · rintro ⟨s, path, -, rfl⟩
      exact ⟨path, rfl⟩

/-- What a table says about a key depends on nothing but the key. -/
theorem Settles.congr (h : k.Settles table s) (hpart : k.part s' = k.part s) : k.Settles table s' := by
  rw [Settles, hpart]
  exact h

theorem exists_settles (h : ∀ v, (k.name, v) ∈ table → k.Admits v) : ∃ s, k.Settles table s := by
  unfold Settles
  cases hlookup : table.lookup k.name with
  | some v => exact admits_iff.1 (h v (Toml.mem_of_lookup hlookup))
  | none => exact ⟨default, rfl⟩

end Key

/-- A table in which every key has something that it can have holds settings. -/
theorem exists_ofTable? {table : Members} (h : ∀ (k : Key) v, (k.name, v) ∈ table → k.Admits v) :
    ∃ s, ofTable? table = some s := by
  obtain ⟨s₁, h₁⟩ := Key.exists_settles (h .latency)
  obtain ⟨s₂, h₂⟩ := Key.exists_settles (h .ageStep)
  obtain ⟨s₃, h₃⟩ := Key.exists_settles (h .ageWindow)
  obtain ⟨s₄, h₄⟩ := Key.exists_settles (h .priority)
  obtain ⟨s₅, h₅⟩ := Key.exists_settles (h .eventLog)
  refine ⟨⟨s₁.latency, s₂.ageStep, s₃.ageWindow, s₄.painPointPriority, s₅.eventLog⟩,
    ofTable?_eq_some_iff.2 fun k => ?_⟩
  cases k with
  | latency => exact h₁.congr rfl
  | ageStep => exact h₂.congr rfl
  | ageWindow => exact h₃.congr rfl
  | priority => exact h₄.congr rfl
  | eventLog => exact h₅.congr rfl

/-! ### Documents -/

/-- What loading the settings at a path gives. -/
structure Loads (d : Disk) (path : String) : Prop where
  /-- A file that is missing means the defaults. -/
  missing : d.entry? path = none → load d path = .ok default
  /-- What cannot be read is no missing file. -/
  unreadable : d.read path = .unreadable → load d path = .error (.unreadable path)
  /-- A text that is no TOML is refused. -/
  broken : ∀ text, d.read path = .text text → Toml.read text = none → load d path = .error (.invalid path)
  /-- A document is refused if one key has a value that it cannot have. -/
  spoilt : ∀ text table, d.read path = .text text → Toml.read text = some table →
    ∀ (k : Key) v, (k.name, v) ∈ table → ¬ k.Admits v → load d path = .error (.invalid path)
  /-- Otherwise every key that is there has what was written, and every other has its default. -/
  heeded : ∀ text table, d.read path = .text text → Toml.read text = some table →
    (∀ (k : Key) v, (k.name, v) ∈ table → k.Admits v) → ∃ s, load d path = .ok s ∧ ∀ k : Key,
      (∀ v, (k.name, v) ∈ table → (k.part s).WrittenAs v) ∧
      (k.name ∉ table.map Prod.fst → k.part s = k.part default)

theorem load_loads (d : Disk) (path : String) : Loads d path := by
  have hload : ∀ text table, d.read path = .text text → Toml.read text = some table →
      load d path = (ofTable? table).elim (.error (.invalid path)) .ok := by
    intro text table htext htable
    rw [load, htext, ofFound, ofText?, htable, Option.bind_some]
    cases ofTable? table <;> rfl
  refine ⟨fun h => ?_, fun h => by rw [load, h, ofFound], fun text htext hnone => ?_,
    fun text table htext htable k v hv hspoilt => ?_, fun text table htext htable hadmits => ?_⟩
  · rw [load, Disk.read, h]
    rfl
  · rw [load, htext, ofFound, ofText?, hnone]
    rfl
  · obtain ⟨l, -, hrecords⟩ := Toml.read_records htable
    have hnone : ofTable? table = none := by
      refine Option.eq_none_iff_forall_ne_some.2 fun s hs => hspoilt (Key.admits_iff.2 ⟨s, ?_⟩)
      have hsettles := ofTable?_eq_some_iff.1 hs k
      rwa [Key.Settles, Toml.lookup_of_mem hrecords.nodup hv] at hsettles
    rw [hload text table htext htable, hnone]
    rfl
  · obtain ⟨l, -, hrecords⟩ := Toml.read_records htable
    obtain ⟨s, hs⟩ := exists_ofTable? hadmits
    refine ⟨s, by rw [hload text table htext htable, hs]; rfl, fun k => ?_⟩
    have hsettles := ofTable?_eq_some_iff.1 hs k
    rw [Key.Settles] at hsettles
    constructor
    · intro v hv
      rwa [Toml.lookup_of_mem hrecords.nodup hv] at hsettles
    · intro habsent
      cases hlookup : table.lookup k.name with
      | none => rwa [hlookup] at hsettles
      | some v => exact absurd (List.mem_map_of_mem (Toml.mem_of_lookup hlookup)) habsent

/-- **No setting that is given is passed over.**  A missing file means the defaults, and a document is refused if it
is no TOML or a known key has a value that stands for nothing; otherwise every known key that is there has what
was written, and only the others have their defaults.  What is there is what the document mentions, each key by
itself: no other key, table or order of lines makes a difference to it. -/
theorem load_heeds_document (d : Disk) (path : String) :
    Loads d path ∧
    (∀ (k : Key) v, k.Admits v ↔ ∃ s, (k.part s).WrittenAs v) ∧
    ∀ (text : String) (table : Members), Toml.read text = some table →
      ∃ l, Toml.mentions? text = some l ∧ table.Records l :=
  ⟨load_loads d path, fun _ _ => Key.admits_iff, fun _ _ => Toml.read_records⟩

/-- Three of the keys in an order of their own, among a key that nobody knows and tables that have keys by the same
names. -/
theorem load_heeds_document_mixed :
    let text := "event_log_path = 'a \"b\"' # turns\ntitle = 7\ndefault_pain_point_priority.high = []\n" ++
      "\"single_age_window\" = 0xffff_ffff\n[ui]\nlatency_ms = -1\n[[rows]]\nrelative_age_step = 'one'\n"
    let disk := (Disk.withFolders []).put ["config.toml"] (.file (.text text))
    disk.read "/config.toml" = .text text ∧ ∃ table l, Toml.read text = some table ∧
      Toml.mentions? text = some l ∧ table.Records l ∧ (∀ (k : Key) v, (k.name, v) ∈ table → k.Admits v) ∧
      load disk "/config.toml" = .ok ⟨1500, 5, 4294967295, .high, some "a \"b\""⟩ ∧
      ∃ s, load disk "/config.toml" = .ok s ∧ ∀ k : Key,
        (∀ v, (k.name, v) ∈ table → (k.part s).WrittenAs v) ∧
        (k.name ∉ table.map Prod.fst → k.part s = k.part default) := by
  intro text disk
  obtain ⟨hloads, -, hrecords⟩ := load_heeds_document disk "/config.toml"
  have hread : disk.read "/config.toml" = .text text := by decide +kernel
  have hsettings : ofText? text = some ⟨1500, 5, 4294967295, .high, some "a \"b\""⟩ := by decide +kernel
  have hload : load disk "/config.toml" = .ok ⟨1500, 5, 4294967295, .high, some "a \"b\""⟩ := by
    rw [load, hread, ofFound, hsettings]
  obtain ⟨table, htable, -⟩ := Option.bind_eq_some_iff.1 hsettings
  have hadmits : ∀ (k : Key) v, (k.name, v) ∈ table → k.Admits v := by
    intro k v hv
    by_contra hspoilt
    have hrefused := hloads.spoilt text table hread htable k v hv hspoilt
    rw [hload] at hrefused
    cases hrefused
  obtain ⟨l, hl, hrecorded⟩ := hrecords text table htable
  exact ⟨hread, table, l, htable, hl, hrecorded, hadmits, hload,
    hloads.heeded text table hread htable hadmits⟩

/-- A fraction, a text, a number below zero, one that is too great, a priority in other letters, and a number for a
path. -/
example : ∀ text ∈ ["relative_age_step = 5.0", "latency_ms = '5'", "latency_ms = -1",
    "single_age_window = 4294967296", "default_pain_point_priority = 'High'", "event_log_path = 1"],
    ofText? text = none := by
  decide +kernel

end Settings

end PersonaDialogue
