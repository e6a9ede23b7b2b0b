import PersonaDialogue.Turn.Log

/-!
# Writing behind a file again and again

Before an event is written the folders on the way to the log are made, so what the path names may
change with every event.  It does not once the log is there: the folders stay folders, whatever is
written to the log, and the path leads to the same place (`Disk.Holds`).
-/

namespace PersonaDialogue.Disk

variable {d d₁ d₂ : Disk}

/-! ### What stays on a disk -/

/-- The folders of a disk are folders of another, and paths begin at the same folder. -/
structure KeepsFolders (d₁ d₂ : Disk) : Prop where
  here : d₂.here = d₁.here
  folder : ∀ place, d₁.find place = some .folder → d₂.find place = some .folder

/-- What is on a disk is on another as well. -/
structure Extends (d₁ d₂ : Disk) : Prop where
  here : d₂.here = d₁.here
  entry : ∀ place e, d₁.find place = some e → d₂.find place = some e

theorem Extends.keepsFolders (h : d₁.Extends d₂) : d₁.KeepsFolders d₂ :=
  ⟨h.here, fun place hplace => h.entry place .folder hplace⟩

theorem Extends.refl (d : Disk) : d.Extends d := ⟨rfl, fun _ _ he => he⟩

theorem Extends.trans (h₁ : d.Extends d₁) (h₂ : d₁.Extends d₂) : d.Extends d₂ :=
  ⟨h₂.here.trans h₁.here, fun place e he => h₂.entry place e (h₁.entry place e he)⟩

theorem find_put (place : Location) (e : Entry) : (d.put place e).find place = some e := if_pos rfl

theorem find_put_ne {p place : Location} (h : p ≠ place) (e : Entry) :
    (d.put place e).find p = d.find p := if_neg h

theorem put_extends {place : Location} (h : d.find place = none) (e : Entry) : d.Extends (d.put place e) := by
  refine ⟨rfl, fun p f hp => ?_⟩
  have hne : p ≠ place := by
    rintro rfl
    rw [h] at hp
    cases hp
  rw [find_put_ne hne, hp]

theorem put_keepsFolders {place : Location} (h : d.find place ≠ some .folder) (e : Entry) :
    d.KeepsFolders (d.put place e) := by
  refine ⟨rfl, fun p hp => ?_⟩
  have hne : p ≠ place := fun he => h (he ▸ hp)
  rw [find_put_ne hne, hp]

/-! ### Ways through folders -/

def enter (place : Location) (name : String) : Location := if name = ".." then place.tail else name :: place

theorem follow_cons (place : Location) (name : String) (rest : List String) :
    d.follow place (name :: rest) =
      if d.find place = some .folder ∧ isName name then d.follow (enter place name) rest else none := rfl

theorem KeepsFolders.follow (h : d₁.KeepsFolders d₂) {names : List String} {place target : Location}
    (hfollow : d₁.follow place names = some target) : d₂.follow place names = some target := by
  induction names generalizing place with
  | nil => exact hfollow
  | cons name rest ih =>
    rw [follow_cons] at hfollow ⊢
    split at hfollow
    · next hname => rw [if_pos ⟨h.folder place hname.1, hname.2⟩, ih hfollow]
    · cases hfollow

theorem KeepsFolders.arrive (h : d₁.KeepsFolders d₂) {r : Route} {target : Location}
    (harrive : d₁.arrive r = some target) : d₂.arrive r = some target := by
  have hstart : d₂.start r = d₁.start r := by simp [start, h.here]
  unfold Disk.arrive at harrive ⊢
  split at harrive
  · cases harrive
  · next hroute => rw [if_neg hroute, hstart, h.follow harrive]

/-- Do names lead from a place through folders to a folder? -/
def Passable (d : Disk) (place : Location) (names : List String) : Prop :=
  ∃ target, d.follow place names = some target ∧ d.find target = some .folder

theorem passable_nil {place : Location} : d.Passable place [] ↔ d.find place = some .folder := by
  simp [Passable, follow]

theorem passable_cons {place : Location} {name : String} {rest : List String} :
    d.Passable place (name :: rest) ↔
      (d.find place = some .folder ∧ isName name = true) ∧ d.Passable (enter place name) rest := by
  unfold Passable
  rw [follow_cons]
  by_cases hname : d.find place = some .folder ∧ isName name = true
  · simp [hname]
  · simp [hname]

theorem Passable.begins {place : Location} {names : List String} (h : d.Passable place names) :
    d.find place = some .folder := by
  cases names with
  | nil => exact passable_nil.1 h
  | cons name rest => exact (passable_cons.1 h).1.1

theorem KeepsFolders.passable (h : d₁.KeepsFolders d₂) {place : Location} {names : List String}
    (hpass : d₁.Passable place names) : d₂.Passable place names := by
  obtain ⟨target, hfollow, hfind⟩ := hpass
  exact ⟨target, h.follow hfollow, h.folder target hfind⟩

/-! ### Making folders -/

/-- Where folders are already, none is made. -/
theorem makeAlong_of_passable {place : Location} {names : List String} (h : d.Passable place names) :
    d.makeAlong place names = some d := by
  induction names generalizing place with
  | nil => simp [makeAlong, passable_nil.1 h]
  | cons name rest ih =>
    obtain ⟨hname, hrest⟩ := passable_cons.1 h
    have hmade := ih hrest
    rw [makeAlong, if_pos hname]
    by_cases hup : name = ".."
    · rw [if_pos hup]
      rwa [enter, if_pos hup] at hmade
    · rw [enter, if_neg hup] at hmade hrest
      rw [if_neg hup, hrest.begins, hmade]

/-- Once folders were made along names, the names lead through folders, and nothing else changed. -/
theorem makeAlong_spec {place : Location} {names : List String}
    (h : d.makeAlong place names = some d₁) : d.Extends d₁ ∧ d₁.Passable place names := by
  induction names generalizing d place with
  | nil =>
    rw [makeAlong] at h
    split at h
    · next hplace =>
      obtain rfl := Option.some.inj h
      exact ⟨.refl d, passable_nil.2 hplace⟩
    · cases h
  | cons name rest ih =>
    rw [makeAlong] at h
    split at h
    · next hname =>
      -- Whatever was made on the way to the next place, the rest is made on a disk that extends this one.
      have hgo : ∀ d' : Disk, d.Extends d' → d'.makeAlong (enter place name) rest = some d₁ →
          d.Extends d₁ ∧ d₁.Passable place (name :: rest) := by
        intro d' hd' hrest
        obtain ⟨hextends, hpass⟩ := ih hrest
        have hall := hd'.trans hextends
        exact ⟨hall, passable_cons.2 ⟨⟨hall.entry place .folder hname.1, hname.2⟩, hpass⟩⟩
      by_cases hup : name = ".."
      · rw [if_pos hup] at h
        exact hgo d (.refl d) (by rwa [enter, if_pos hup])
      · rw [if_neg hup] at h
        have henter : enter place name = name :: place := if_neg hup
        split at h
        · exact hgo d (.refl d) (henter ▸ h)
        · next hnone => exact hgo _ (put_extends hnone .folder) (henter ▸ h)
    · cases h

/-- The folder of a file is made once and for all, as long as no folder goes. -/
theorem makeParent_spec {path : String} (h : d.makeParent path = some d₁) :
    d.Extends d₁ ∧ ∀ d₂, d₁.KeepsFolders d₂ → d₂.makeParent path = some d₂ := by
  unfold makeParent at h ⊢
  cases hparent : (Route.ofPath path).parent? with
  | none =>
    rw [hparent] at h
    obtain rfl := Option.some.inj h
    exact ⟨.refl d, fun d₂ _ => rfl⟩
  | some folder =>
    rw [hparent] at h
    have hroute : folder.isEmpty = false := by
      rw [Route.parent?] at hparent
      split at hparent
      · cases hparent
      · obtain rfl := Option.some.inj hparent
        simp [Route.isEmpty]
    simp only [makeFolders, hroute] at h ⊢
    obtain ⟨hextends, hpass⟩ := makeAlong_spec h
    refine ⟨hextends, fun d₂ hkeeps => ?_⟩
    have hstart : d₂.start folder = d.start folder := by simp [start, hkeeps.here, hextends.here]
    have hpass₂ := hkeeps.passable hpass
    rw [← hstart] at hpass₂
    exact makeAlong_of_passable hpass₂

/-! ### A log that is not there yet, and a log that is -/

/-- There is no file at a path, but one can be written there.  The folders on the way may be missing; to
look for the file before they are made says nothing of a path that leads through a missing folder and
out again, so it is looked for when they are there. -/
def Awaits (d : Disk) (path : String) : Prop :=
  ∃ d₁, d.makeParent path = some d₁ ∧ d₁.read path = .nothing ∧ (d₁.append path "").isSome = true

/-- There is a file with a text at a path, and the folders on the way. -/
structure Holds (d : Disk) (path s : String) : Prop where
  parent : d.makeParent path = some d
  nameable : (Route.ofPath path).folderOnly = false
  place : ∃ place, d.arrive (Route.ofPath path) = some place ∧ d.find place = some (.file (.text s))

theorem Holds.read {path s : String} (h : d.Holds path s) : d.read path = .text s := by
  obtain ⟨place, harrive, hfind⟩ := h.place
  simp [Disk.read, entry?, harrive, hfind, h.nameable]

theorem Holds.append {path s : String} (h : d.Holds path s) (more : String) :
    ∃ d', d.append path more = some d' ∧ d'.Holds path (s ++ more) := by
  obtain ⟨place, harrive, hfind⟩ := h.place
  have hfile : d.find place ≠ some .folder := by simp [hfind]
  have hkeeps := put_keepsFolders hfile (.file (.text (s ++ more)))
  have happend : d.append path more = some (d.put place (.file (.text (s ++ more)))) := by
    simp [Disk.append, change, h.nameable, harrive, hfind, Content.append]
  refine ⟨_, happend, ?_⟩
  exact ⟨(makeParent_spec h.parent).2 _ hkeeps, h.nameable, place, hkeeps.arrive harrive, find_put ..⟩

/-- What a path leads to where a file can be written and none is. -/
theorem arrive_of_writable {path : String} (hread : d.read path = .nothing)
    (hwrite : (d.append path "").isSome = true) :
    (Route.ofPath path).folderOnly = false ∧
      ∃ place, d.arrive (Route.ofPath path) = some place ∧ d.find place = none ∧
        d.find place.tail = some .folder := by
  unfold Disk.append change at hwrite
  have hnameable : (Route.ofPath path).folderOnly = false := by
    cases hfolder : (Route.ofPath path).folderOnly with
    | false => rfl
    | true => simp [hfolder] at hwrite
  cases harrive : d.arrive (Route.ofPath path) with
  | none => simp [hnameable, harrive] at hwrite
  | some place =>
    refine ⟨hnameable, place, rfl, ?_⟩
    cases hfind : d.find place with
    | none =>
      by_cases hfolder : d.find place.tail = some .folder
      · exact ⟨rfl, hfolder⟩
      · simp [hnameable, harrive, hfind, hfolder] at hwrite
    | some e =>
      exfalso
      cases e with
      | folder => simp [hnameable, harrive, hfind] at hwrite
      | file content => cases content <;> simp [Disk.read, entry?, harrive, hfind, hnameable] at hread

theorem Awaits.append {path : String} (h : d.Awaits path) (more : String) :
    ∃ d₁, d.makeParent path = some d₁ ∧ ∃ d', d₁.append path more = some d' ∧ d'.Holds path more := by
  obtain ⟨d₁, hparent, hread, hwrite⟩ := h
  obtain ⟨hnameable, place, harrive, hfind, hfolder⟩ := arrive_of_writable hread hwrite
  have hkeeps := (put_extends hfind (.file (.text more))).keepsFolders
  have happend : d₁.append path more = some (d₁.put place (.file (.text more))) := by
    simp [Disk.append, change, hnameable, harrive, hfind, hfolder, Content.append]
  refine ⟨d₁, hparent, _, happend, ?_⟩
  exact ⟨(makeParent_spec hparent).2 _ hkeeps, hnameable, place, hkeeps.arrive harrive, find_put ..⟩

/-- Where a log is awaited there is none. -/
theorem Awaits.read {path : String} (h : d.Awaits path) : d.read path = .nothing := by
  obtain ⟨d₁, hparent, hread, hwrite⟩ := h
  obtain ⟨-, place, harrive, hfind, -⟩ := arrive_of_writable hread hwrite
  have hextends := (makeParent_spec hparent).1
  have hnone : (d.arrive (Route.ofPath path)).bind d.find = none := by
    cases hhere : d.arrive (Route.ofPath path) with
    | none => rfl
    | some there =>
      obtain rfl : place = there :=
        Option.some.inj (harrive.symm.trans (hextends.keepsFolders.arrive hhere))
      cases he : d.find place with
      | none => exact he
      | some e => exact absurd (hfind.symm.trans (hextends.entry place e he)) (by simp)
  simp [Disk.read, entry?, hnone]

end PersonaDialogue.Disk
