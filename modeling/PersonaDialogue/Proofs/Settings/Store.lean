import PersonaDialogue.Proofs.Disk.Folder
import PersonaDialogue.Proofs.Settings.Document
import PersonaDialogue.Settings.Store

/-!
# Settings that were saved are loaded

Saving makes the folder of the settings, writes their document and then the file.  So if the latency
can be written and nothing is in the way, the settings are loaded afterwards as they were saved; and if
the latency is too great, the document fails before the file is touched, and everything that was loaded
before is loaded still (`Settings.save_spec`).
-/

namespace PersonaDialogue

def Home.fileName : String := "config.toml"

theorem Home.fileName_isPiece : IsPiece Home.fileName := ⟨by decide, by decide, by decide⟩

theorem Home.folderName_isPiece : IsPiece "config" := ⟨by decide, by decide, by decide⟩

namespace Home

variable (h : Home)

/-- The folder of the settings ends in its name. -/
theorem folder_cases : h.folder = "config" ∨ ∃ base, h.folder = base ++ "/" ++ "config" := by
  unfold folder joinPaths
  split
  · exact .inl rfl
  split
  · next hslash =>
    obtain ⟨start, hstart⟩ := List.getLast?_eq_some_iff.1 hslash
    refine .inr ⟨String.ofList start, ?_⟩
    rw [← String.toList_inj]
    simp [hstart]
  · exact .inr ⟨h.root, rfl⟩

theorem folder_ne : h.folder ≠ "" := by
  rcases h.folder_cases with he | ⟨base, he⟩
  · rw [he]
    decide
  · rw [he]
    simp

theorem folder_names_ne : (Route.ofPath h.folder).names ≠ [] := by
  rcases h.folder_cases with he | ⟨base, he⟩
  · rw [he]
    decide
  · rw [he, Route.names_child folderName_isPiece]
    simp

/-- The file of the settings is in their folder. -/
theorem file_eq : h.file = h.folder ++ "/" ++ fileName := by
  have hlast : h.folder.toList.getLast? ≠ some '/' := by
    rcases h.folder_cases with he | ⟨base, he⟩
    · rw [he]
      decide
    · rw [he]
      simp
  rw [file, joinPaths, if_neg (by simp [h.folder_ne]), if_neg hlast]
  rfl

/-- The folder of the settings can be made, and no folder is in the place of their file. -/
def Writable (d : Disk) : Prop :=
  ∃ d₁, d.makeFolders (Route.ofPath h.folder) = some d₁ ∧ d₁.entry? h.file ≠ some .folder

/-- There is something at the path of the file, or the path leads down into folders only. -/
def Steady (d : Disk) : Prop :=
  d.entry? h.file ≠ none ∨ d.IsTree ∧ ".." ∉ (Route.ofPath h.folder).names

variable {h} {d d₁ : Disk}

theorem file_folderOnly : (Route.ofPath h.file).folderOnly = false := by
  rw [file_eq]
  exact Route.folderOnly_child fileName_isPiece

/-- To make the folder does not change what is at the path of the file. -/
theorem Steady.entry?_eq (hsteady : h.Steady d) (hmade : d.makeFolders (Route.ofPath h.folder) = some d₁) :
    d₁.entry? h.file = d.entry? h.file := by
  unfold Steady at hsteady
  rw [file_eq] at hsteady ⊢
  exact Disk.makeFolders_entry? fileName_isPiece (by decide) (by decide) h.folder_ne h.folder_names_ne
    hmade hsteady

/-- Once the folder is made, a text is written to the file, if no folder is there, and read again. -/
theorem read_of_write (hmade : d.makeFolders (Route.ofPath h.folder) = some d₁)
    (hfile : d₁.entry? h.file ≠ some .folder) (text : String) :
    ∃ d₂, d₁.write h.file text = some d₂ ∧ d₂.read h.file = .text text := by
  obtain ⟨target, -, hfolder, harrive⟩ := Disk.arrive_of_makeFolders fileName_isPiece (by decide)
    (by decide) h.folder_ne h.folder_names_ne hmade
  rw [← file_eq] at harrive
  rw [Disk.entry?_of_nameable file_folderOnly, harrive, Option.bind_some] at hfile
  refine ⟨d₁.put (fileName :: target) (.file (.text text)), ?_, ?_⟩
  · simp only [Disk.write, Disk.change, file_folderOnly, harrive]
    cases hfind : d₁.find (fileName :: target) with
    | none => simp [hfolder]
    | some e =>
      cases e with
      | folder => exact absurd hfind hfile
      | file content => rfl
  · have harrived := (Disk.put_keepsFolders hfile (.file (.text text))).arrive harrive
    simp [Disk.read, Disk.entry?_of_nameable file_folderOnly, harrived, Disk.find_put]

end Home

namespace Settings

/-- What is loaded depends on what is at the path of the file only. -/
theorem load_eq {d d₁ : Disk} {path : String} (h : d₁.entry? path = d.entry? path) :
    load d₁ path = load d path := by
  rw [load, load, Disk.read, Disk.read, h]

structure Saves (s : Settings) (h : Home) (d : Disk) : Prop where
  /-- Settings that can be written are loaded again. -/
  kept : s.latency.toNat ≤ latencyBound → h.Writable d →
    (s.save h d).2 = .ok h.file ∧ load (s.save h d).1 h.file = .ok s
  /-- If the latency is too great, saving fails and no file is made or touched. -/
  refused : latencyBound < s.latency.toNat → (∃ problem, (s.save h d).2 = .error problem) ∧
    ∀ place content,
      (s.save h d).1.find place = some (.file content) ↔ d.find place = some (.file content)
  /-- So what is at the path of the file is what was there, and the same settings are loaded. -/
  unchanged : latencyBound < s.latency.toNat → h.Steady d →
    Disk.entry? (s.save h d).1 h.file = d.entry? h.file ∧ load (s.save h d).1 h.file = load d h.file

/-- A latency that is too great is found out when the folder has been made, if it can be. -/
theorem save_of_too_great {s : Settings} (hlatency : latencyBound < s.latency.toNat) (h : Home)
    (d : Disk) :
    (∃ d₁, d.makeFolders (Route.ofPath h.folder) = some d₁ ∧ s.save h d = (d₁, .error .latency)) ∨
      s.save h d = (d, .error (.folder h.folder)) := by
  have htext : s.toText? = none := s.toText?_eq_none_iff.2 hlatency
  cases hmade : d.makeFolders (Route.ofPath h.folder) with
  | none => exact .inr (by simp [save, hmade])
  | some d₁ => exact .inl ⟨d₁, rfl, by simp [save, hmade, htext]⟩

/-- **Settings that can be saved are loaded as they are; of others nothing is saved.** -/
theorem save_spec (s : Settings) (h : Home) (d : Disk) : s.Saves h d where
  kept hlatency hwritable := by
    obtain ⟨d₁, hmade, hfile⟩ := hwritable
    obtain ⟨text, htext⟩ : ∃ text, s.toText? = some text := by
      cases htext : s.toText? with
      | none => exact absurd (s.toText?_eq_none_iff.1 htext) (by omega)
      | some text => exact ⟨text, rfl⟩
    obtain ⟨d₂, hwrite, hread⟩ := Home.read_of_write hmade hfile text
    have hsave : s.save h d = (d₂, .ok h.file) := by simp [save, hmade, htext, hwrite]
    rw [hsave]
    exact ⟨rfl, by simp [load, hread, ofFound, s.ofText?_of_toText? htext]⟩
  refused hlatency := by
    rcases save_of_too_great hlatency h d with ⟨d₁, hmade, hsave⟩ | hsave
    · rw [hsave]
      exact ⟨⟨_, rfl⟩, Disk.makeFolders_find_file hmade⟩
    · rw [hsave]
      exact ⟨⟨_, rfl⟩, fun _ _ => .rfl⟩
  unchanged hlatency hsteady := by
    rcases save_of_too_great hlatency h d with ⟨d₁, hmade, hsave⟩ | hsave
    · rw [hsave]
      have hentry := hsteady.entry?_eq hmade
      exact ⟨hentry, load_eq hentry⟩
    · rw [hsave]
      exact ⟨rfl, rfl⟩

/-- Settings over a file that is there: the greatest latency with a path of all kinds of quotes, and a
latency that is one too great. -/
theorem save_spec_overFile :
    let home : Home := ⟨some "/srv", "", none⟩
    let disk := ((Disk.withFolders ["srv"]).put ["config", "srv"] .folder).put
      ["config.toml", "config", "srv"] (.file (.text "latency_ms = 7\n"))
    let greatest : Settings := ⟨9223372036854775807, 0, 4294967295, .high, some "'''\"\"\"\n\\\t"⟩
    let beyond : Settings := ⟨9223372036854775808, 5, 5, .low, none⟩
    home.file = "/srv/config/config.toml" ∧
    (greatest.latency.toNat ≤ latencyBound ∧ home.Writable disk ∧
      (greatest.save home disk).2 = .ok home.file ∧
      load (greatest.save home disk).1 home.file = .ok greatest) ∧
    latencyBound < beyond.latency.toNat ∧ home.Steady disk ∧
      load (beyond.save home disk).1 home.file = load disk home.file := by
  intro home disk greatest beyond
  have hlatency : greatest.latency.toNat ≤ latencyBound := by decide
  have hroute : Route.ofPath home.folder = ⟨["srv", "config"], true, false⟩ := by decide
  have hmade : disk.makeFolders (Route.ofPath home.folder) = some disk := by
    rw [hroute]
    exact Disk.makeAlong_of_passable ⟨["config", "srv"], by decide, by decide⟩
  have hwritable : home.Writable disk := ⟨disk, hmade, by decide⟩
  have hbeyond : latencyBound < beyond.latency.toNat := by decide
  have hsteady : home.Steady disk := .inl (by decide)
  exact ⟨by decide, ⟨hlatency, hwritable, (save_spec greatest home disk).kept hlatency hwritable⟩,
    hbeyond, hsteady, ((save_spec beyond home disk).unchanged hbeyond hsteady).2⟩

end Settings

end PersonaDialogue
