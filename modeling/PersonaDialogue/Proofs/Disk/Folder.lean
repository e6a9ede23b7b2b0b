import PersonaDialogue.Proofs.Disk.Append

/-!
# A file in a folder that is made first

To save a file its folder is made and the file is written into it.  What is made are folders in places
where nothing was, and none of them is deeper than the folder itself, so that the file, if there is one,
is still what it was (`makeFolders_entry?`).  A path that leads through a missing folder and out again
is the exception: it names nothing until that folder is made.
-/

namespace PersonaDialogue

/-! ### The path of a file in a folder -/

theorem slashPieces_slash (piece s t : List Char) :
    slashPieces piece (s ++ '/' :: t) = slashPieces piece s ++ slashPieces [] t := by
  induction s generalizing piece with
  | nil => simp [slashPieces]
  | cons c s ih =>
    by_cases hc : c = '/'
    · simp [slashPieces, hc, ih]
    · simp [slashPieces, hc, ih]

theorem slashPieces_of_not_mem (piece : List Char) {s : List Char} (h : '/' ∉ s) :
    slashPieces piece s = [piece.reverse ++ s] := by
  induction s generalizing piece with
  | nil => simp [slashPieces]
  | cons c s ih =>
    simp only [List.mem_cons, not_or] at h
    simp [slashPieces, Ne.symm h.1, ih _ h.2]

/-- The name of a file or a folder: one piece of a path, and not the folder itself. -/
structure IsPiece (name : String) : Prop where
  slash : '/' ∉ name.toList
  nonempty : name ≠ ""
  dot : name ≠ "."

namespace Route

variable {folder name : String} (h : IsPiece name)
include h

theorem pieces_child :
    (slashPieces [] (folder ++ "/" ++ name).toList).map String.ofList =
      (slashPieces [] folder.toList).map String.ofList ++ [name] := by
  have hpath : (folder ++ "/" ++ name).toList = folder.toList ++ '/' :: name.toList := by simp
  rw [hpath, slashPieces_slash, slashPieces_of_not_mem [] h.slash]
  simp

theorem names_child : (ofPath (folder ++ "/" ++ name)).names = (ofPath folder).names ++ [name] := by
  simp only [ofPath, pieces_child h]
  simp [h.nonempty, h.dot]

theorem folderOnly_child : (ofPath (folder ++ "/" ++ name)).folderOnly = false := by
  simp only [ofPath, pieces_child h]
  simp [h.nonempty, h.dot]

omit h in
theorem fromRoot_child (hfolder : folder ≠ "") :
    (ofPath (folder ++ "/" ++ name)).fromRoot = (ofPath folder).fromRoot := by
  have hne : folder.toList ≠ [] := by simpa using hfolder
  obtain ⟨c, s, hs⟩ := List.exists_cons_of_ne_nil hne
  simp [ofPath, hs]

end Route

namespace Disk

variable {d d₁ : Disk}

/-! ### Into a folder and on to a file -/

theorem follow_child {place folder : Location} {names : List String} {name : String}
    (hfollow : d.follow place names = some folder) (hfolder : d.find folder = some .folder)
    (hname : isName name = true) (hup : name ≠ "..") :
    d.follow place (names ++ [name]) = some (name :: folder) := by
  induction names generalizing place with
  | nil =>
    obtain rfl := Option.some.inj hfollow
    simp [follow, hfolder, hname, hup]
  | cons first names ih =>
    rw [follow_cons] at hfollow
    rw [List.cons_append, follow_cons]
    split at hfollow
    · next hfirst => rw [if_pos hfirst, ih hfollow]
    · cases hfollow

theorem makeFolders_spec {r : Route} (hr : r.names ≠ []) (h : d.makeFolders r = some d₁) :
    d.Extends d₁ ∧ d₁.Passable (d.start r) r.names := by
  have hroute : r.isEmpty = false := by simp [Route.isEmpty, hr]
  rw [makeFolders, if_neg (by simp [hroute])] at h
  exact makeAlong_spec h

/-- All that is new on a disk are folders where nothing was, and none is deeper than a bound. -/
def NewFolders (d d₁ : Disk) (depth : Nat) : Prop :=
  ∀ p, d₁.find p = d.find p ∨ d.find p = none ∧ d₁.find p = some .folder ∧ p.length ≤ depth

namespace NewFolders

variable {depth : Nat}

theorem refl (d : Disk) (depth : Nat) : d.NewFolders d depth := fun _ => .inl rfl

theorem mono {depth' : Nat} (hle : depth ≤ depth') (h : d.NewFolders d₁ depth) :
    d.NewFolders d₁ depth' := fun p =>
  (h p).imp_right fun ⟨hnone, hfolder, hlen⟩ => ⟨hnone, hfolder, Nat.le_trans hlen hle⟩

/-- A folder that is made first is new as well. -/
theorem of_put {place : Location} (hmissing : d.find place = none) (hplace : place.length ≤ depth)
    (h : (d.put place .folder).NewFolders d₁ depth) : d.NewFolders d₁ depth := by
  intro p
  by_cases hp : p = place
  · subst hp
    refine .inr ⟨hmissing, ?_, hplace⟩
    rcases h p with he | ⟨hnone, -, -⟩
    · rw [he, find_put]
    · rw [find_put] at hnone
      cases hnone
  · have hfind := h p
    rwa [find_put_ne hp] at hfind

end NewFolders

/-- Along names only folders are made, and none is deeper than the names go. -/
theorem makeAlong_newFolders {place : Location} {names : List String}
    (h : d.makeAlong place names = some d₁) : d.NewFolders d₁ (place.length + names.length) := by
  induction names generalizing d place with
  | nil =>
    rw [makeAlong] at h
    split at h
    · obtain rfl := Option.some.inj h
      exact .refl _ _
    · cases h
  | cons name names ih =>
    rw [makeAlong] at h
    split at h
    · split at h
      · refine (ih h).mono ?_
        rw [List.length_tail, List.length_cons]
        omega
      · have hdeeper : (name :: place).length + names.length = place.length + (name :: names).length := by
          simp only [List.length_cons]
          omega
        split at h
        · exact hdeeper ▸ ih h
        · next hmissing =>
          exact hdeeper ▸ (ih h).of_put hmissing (Nat.le_add_right _ _)
    · cases h

/-- To make folders makes no file and touches none. -/
theorem makeFolders_find_file {r : Route} (h : d.makeFolders r = some d₁) (p : Location)
    (content : Content) : d₁.find p = some (.file content) ↔ d.find p = some (.file content) := by
  unfold makeFolders at h
  split at h
  · rw [Option.some.inj h]
  · rcases makeAlong_newFolders h p with he | ⟨hnone, hfolder, -⟩
    · rw [he]
    · simp [hnone, hfolder]

/-! ### What a path names before its folders are made -/

/-- Whatever is on the disk is in a folder. -/
def IsTree (d : Disk) : Prop :=
  ∀ name place, d.find (name :: place) ≠ none → d.find place = some .folder

/-- On a tree every place on the way to an entry is a folder. -/
theorem IsTree.folder_of_append (h : d.IsTree) (names : Location) {place : Location}
    (hne : names ≠ []) (hfind : d.find (names ++ place) ≠ none) : d.find place = some .folder := by
  induction names with
  | nil => exact absurd rfl hne
  | cons name names ih =>
    have hparent := h name (names ++ place) hfind
    obtain _ | ⟨first, rest⟩ := names
    · exact hparent
    · exact ih (by simp) (by rw [hparent]; simp)

/-- A way that goes down only is the names on it. -/
theorem follow_down {place target : Location} {names : List String} (hup : ".." ∉ names)
    (h : d.follow place names = some target) : target = names.reverse ++ place := by
  induction names generalizing place with
  | nil => exact (Option.some.inj h).symm
  | cons name names ih =>
    simp only [List.mem_cons, not_or] at hup
    rw [follow_cons] at h
    split at h
    · rw [ih hup.2 h, enter, if_neg (Ne.symm hup.1)]
      simp
    · cases h

/-- A way that goes down to an entry of a tree can be gone before the folders on it are made. -/
theorem IsTree.follow_of_makes (htree : d.IsTree) {place target : Location} {names : List String}
    (hup : ".." ∉ names) (h : d₁.follow place names = some target) (hfind : d.find target ≠ none) :
    d.follow place names = some target := by
  induction names generalizing place with
  | nil => exact h
  | cons name names ih =>
    have hdown := follow_down hup h
    simp only [List.mem_cons, not_or] at hup
    rw [follow_cons] at h ⊢
    split at h
    · next hname =>
      have hplace : d.find place = some .folder :=
        htree.folder_of_append (name :: names).reverse (by simp) (hdown ▸ hfind)
      rw [if_pos ⟨hplace, hname.2⟩, ih hup.2 h]
    · cases h

theorem entry?_of_nameable {path : String} (h : (Route.ofPath path).folderOnly = false) :
    d.entry? path = (d.arrive (Route.ofPath path)).bind d.find := by
  unfold entry?
  simp only
  split
  · next hfile => simp [h, hfile]
  · rfl

theorem Extends.entry?_eq (hextends : d.Extends d₁) {path : String} {e : Entry}
    (hpath : (Route.ofPath path).folderOnly = false) (h : d.entry? path = some e) :
    d₁.entry? path = some e := by
  rw [entry?_of_nameable hpath] at h ⊢
  obtain ⟨place, harrive, hfind⟩ := Option.bind_eq_some_iff.1 h
  rw [hextends.keepsFolders.arrive harrive]
  exact hextends.entry place e hfind

section Child

variable {folder name : String} (hpiece : IsPiece name) (hname : isName name = true) (hup : name ≠ "..")
  (hfolder : folder ≠ "")
include hpiece hname hup hfolder

/-- The path of a file in a folder leads to that folder and into it. -/
theorem arrive_child {target : Location}
    (hfollow : d.follow (d.start (Route.ofPath folder)) (Route.ofPath folder).names = some target)
    (hfind : d.find target = some .folder) :
    d.arrive (Route.ofPath (folder ++ "/" ++ name)) = some (name :: target) := by
  have hroute : (Route.ofPath (folder ++ "/" ++ name)).isEmpty = false := by
    simp [Route.isEmpty, Route.names_child hpiece]
  have hstart : d.start (Route.ofPath (folder ++ "/" ++ name)) = d.start (Route.ofPath folder) := by
    simp [start, Route.fromRoot_child hfolder]
  rw [arrive, if_neg (by simp [hroute]), hstart, Route.names_child hpiece]
  exact follow_child hfollow hfind hname hup

variable (hnames : (Route.ofPath folder).names ≠ [])
include hnames

/-- Once its folder is made, the path of a file leads into that folder. -/
theorem arrive_of_makeFolders (h : d.makeFolders (Route.ofPath folder) = some d₁) :
    ∃ target, d₁.follow (d.start (Route.ofPath folder)) (Route.ofPath folder).names = some target ∧
      d₁.find target = some .folder ∧
      d₁.arrive (Route.ofPath (folder ++ "/" ++ name)) = some (name :: target) := by
  obtain ⟨hextends, target, hfollow, hfind⟩ := makeFolders_spec hnames h
  have hstart : d₁.start (Route.ofPath folder) = d.start (Route.ofPath folder) := by
    simp [start, hextends.here]
  exact ⟨target, hfollow, hfind, arrive_child hpiece hname hup hfolder (by rwa [hstart]) hfind⟩

/-- **To make the folder of a file does not change what the path of the file names**, if it names
something already, or if it does not lead out of a folder again. -/
theorem makeFolders_entry? (h : d.makeFolders (Route.ofPath folder) = some d₁)
    (hsteady : d.entry? (folder ++ "/" ++ name) ≠ none ∨ d.IsTree ∧ ".." ∉ (Route.ofPath folder).names) :
    d₁.entry? (folder ++ "/" ++ name) = d.entry? (folder ++ "/" ++ name) := by
  have hnameable : (Route.ofPath (folder ++ "/" ++ name)).folderOnly = false :=
    Route.folderOnly_child hpiece
  have hextends := (makeFolders_spec hnames h).1
  cases hbefore : d.entry? (folder ++ "/" ++ name) with
  | some e => exact hextends.entry?_eq hnameable hbefore
  | none =>
    obtain ⟨htree, hdown⟩ := hsteady.resolve_left fun hne => hne hbefore
    obtain ⟨target, hfollow, -, harrive⟩ :=
      arrive_of_makeFolders hpiece hname hup hfolder hnames h
    rw [entry?_of_nameable hnameable, harrive, Option.bind_some]
    -- The file is deeper than all that was made, so it was there before if it is there now.
    have hkept : d₁.find (name :: target) = d.find (name :: target) := by
      have htarget := follow_down hdown hfollow
      rw [makeFolders, if_neg (by simp [Route.isEmpty, hnames])] at h
      rcases makeAlong_newFolders h (name :: target) with he | ⟨-, -, hlen⟩
      · exact he
      · rw [htarget] at hlen
        simp at hlen
        omega
    rw [hkept]
    cases hfind : d.find (name :: target) with
    | none => rfl
    | some e =>
      exfalso
      have hparent := htree name target (by simp [hfind])
      have hbegan := htree.follow_of_makes hdown hfollow (by simp [hparent])
      have harrived := arrive_child hpiece hname hup hfolder hbegan hparent
      rw [entry?_of_nameable hnameable, harrived, Option.bind_some, hfind] at hbefore
      cases hbefore

end Child

end Disk

end PersonaDialogue
