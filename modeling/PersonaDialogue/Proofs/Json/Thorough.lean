import PersonaDialogue.Proofs.Json.Continued
import PersonaDialogue.Proofs.Json.Parts

/-!
# Decoders that read everything

A decoder is *thorough* if it accepts no node that could not also be passed over: it walks the whole tree and
reports every fault that it meets.  What a thorough decoder read from a text it does not read from a longer
one: the value is the same, and the rest is refused (`readChars_append_refused`).
-/

namespace PersonaDialogue.Json

/-- Does a decoder accept only what can be passed over? -/
def Thorough {α : Type} (decode : Decoder α) : Prop :=
  ∀ {depth : Nat} {v : Node} {a : α}, decode depth v = .ok a → v.skip = .ok ()

section Read

variable {α : Type} {decode : Decoder α}

/-- **A text that was read is refused once it goes on**, unless with space, or with more of a number. -/
theorem readChars_append_refused (hdecode : Thorough decode) {s t : List Char} {a : α}
    (h : readChars decode s = .ok a) (ht : Stops t) (hspace : t.all isSpace = false) :
    readChars decode (s ++ t) = malformed := by
  obtain ⟨b, hb, -⟩ := bind_eq_ok h
  rw [readChars, ofChars_append ht (hdecode hb) hspace]
  simp [hb]

/-- No value begins with a character that is none of those that a value may begin with. -/
theorem readChars_broken_refused (hdecode : Thorough decode) {s : List Char} {f : Fault}
    (h : Document.ofChars s = ⟨.broken .nothing f, false⟩) (a : α) : readChars decode s ≠ .ok a := by
  intro hread
  obtain ⟨b, hb, -⟩ := bind_eq_ok hread
  rw [h] at hb
  cases hdecode hb

end Read

/-! ### Strings -/

theorem readPieces_fault {fault : Option Fault} {pieces : List Piece} {s : List Char}
    (h : readPieces fault pieces = .ok s) : fault = none := by
  have hmap : ∀ {x : Except Fault (List Char)} {f : List Char → List Char} {s : List Char},
      x.map f = .ok s → ∃ r, x = .ok r := by
    intro x f s hx
    cases x with
    | error e => cases hx
    | ok r => exact ⟨r, rfl⟩
  fun_induction readPieces fault pieces generalizing s with
  | case1 => cases h
  | case2 hnone => exact hnone
  | case3 _ _ ih => exact ih (hmap h).choose_spec
  | case4 => cases h
  | case5 => cases h
  | case6 _ _ _ ih => exact ih (hmap h).choose_spec
  | case7 => cases h
  | case8 _ _ _ _ ih => exact ih (hmap h).choose_spec
  | case9 _ _ _ _ _ ih => exact ih (hmap h).choose_spec
  | case10 => cases h
  | case11 => cases h
  | case12 _ _ _ _ _ ih => exact ih (hmap h).choose_spec

theorem Literal.skip_of_read {l : Literal} {s : String} (h : lift l.read = .ok s) : l.skip = .ok () := by
  obtain ⟨pieces, fault⟩ := l
  cases hread : readPieces fault pieces with
  | error f => simp [Literal.read, hread, Except.map, lift] at h
  | ok cs =>
    obtain rfl := readPieces_fault hread
    rfl

/-- A decoder of strings is thorough, whatever it makes of the text of a string. -/
theorem thorough_of_string {α : Type} {decode : Decoder α} {make : String → Reading α} {expected : String}
    (htext : ∀ depth l, decode depth (.text l) = lift l.read >>= make)
    (hother : ∀ depth v, (∀ l, v ≠ .text l) → decode depth v = v.mismatch expected) :
    Thorough decode := by
  intro depth v a h
  by_cases hv : ∃ l, v = .text l
  · obtain ⟨l, rfl⟩ := hv
    rw [htext] at h
    obtain ⟨s, hs, -⟩ := bind_eq_ok h
    exact Literal.skip_of_read hs
  · rw [hother depth v fun l hl => hv ⟨l, hl⟩] at h
    exact absurd h (mismatch_ne_ok expected v a)

theorem lift_eq_ok {x : Except Fault Unit} (h : lift x = .ok ()) : x = .ok () := by
  cases x with
  | error f => cases h
  | ok u => rfl

/-! ### Names -/

theorem thorough_variant {α : Type} (table : List (String × α)) : Thorough (decodeVariant table) := by
  intro depth v a h
  cases v with
  | text l =>
    obtain ⟨name, hname, -⟩ := bind_eq_ok h
    exact Literal.skip_of_read hname
  | object members ending =>
    obtain ⟨inside, -, h⟩ := bind_eq_ok h
    rcases members with _ | ⟨⟨key, v⟩, more⟩
    · obtain ⟨_, -, h⟩ := bind_eq_ok h
      cases h
    · obtain ⟨name, hname, h⟩ := bind_eq_ok h
      obtain ⟨b, -, h⟩ := bind_eq_ok h
      obtain ⟨_, hunit, h⟩ := bind_eq_ok h
      have hkey := Literal.skip_of_read hname
      have hv : v.skip = .ok () := by
        unfold decodeUnit at hunit
        split at hunit
        · rfl
        · exact absurd hunit (mismatch_ne_ok _ _ _)
      rcases more with _ | ⟨m, more⟩
      · rcases ending with _ | f | f
        · simp [Node.skip, skipMembers, hkey, hv, Ending.raise]
        · cases h
        · cases h
      · cases h
  | broken attempt f => cases h
  | _ => cases h

/-! ### Values of any kind -/

section Values

-- The recursion is that of the decoders: a value, the elements of an array, the members of an object.
mutual

theorem skip_of_decodeValue {depth : Nat} {a : Value} :
    ∀ v, decodeValue depth v = .ok a → v.skip = .ok ()
  | .null, _ => rfl
  | .boolean _, _ => rfl
  | .numeral _, _ => rfl
  | .text l, h => by
    rw [decodeValue] at h
    obtain ⟨s, hs, -⟩ := bind_eq_ok h
    exact Literal.skip_of_read hs
  | .array items ending, h => by
    rw [decodeValue] at h
    obtain ⟨inside, -, h⟩ := bind_eq_ok h
    obtain ⟨vs, hvs, -⟩ := bind_eq_ok h
    obtain ⟨hitems, hending⟩ := skipItems_of_decodeValues items hvs
    simp [Node.skip, hitems, hending]
  | .object members ending, h => by
    rw [decodeValue] at h
    obtain ⟨inside, -, h⟩ := bind_eq_ok h
    obtain ⟨vs, hvs, -⟩ := bind_eq_ok h
    obtain ⟨hmembers, hending⟩ := skipMembers_of_decodeMembers members hvs
    simp [Node.skip, hmembers, hending]
  | .broken _ _, h => by
    rw [decodeValue] at h
    cases h

theorem skipItems_of_decodeValues {depth : Nat} {ending : Option Fault} {vs : List Value} :
    ∀ items, decodeValues depth ending items = .ok vs → skipItems items = .ok () ∧ raise ending = .ok ()
  | [], h => by
    rw [decodeValues] at h
    obtain ⟨_, hending, -⟩ := bind_eq_ok h
    exact ⟨rfl, lift_eq_ok hending⟩
  | v :: rest, h => by
    rw [decodeValues] at h
    obtain ⟨a, ha, h⟩ := bind_eq_ok h
    obtain ⟨as, has, -⟩ := bind_eq_ok h
    obtain ⟨hrest, hending⟩ := skipItems_of_decodeValues rest has
    exact ⟨by simp [skipItems, skip_of_decodeValue v ha, hrest], hending⟩

theorem skipMembers_of_decodeMembers {depth : Nat} {ending : Ending} {vs : List (String × Value)} :
    ∀ members, decodeMembers depth ending members = .ok vs →
      skipMembers members = .ok () ∧ ending.raise = .ok ()
  | [], h => by
    rw [decodeMembers] at h
    obtain ⟨_, hending, -⟩ := bind_eq_ok h
    exact ⟨rfl, lift_eq_ok hending⟩
  | (key, v) :: rest, h => by
    rw [decodeMembers] at h
    obtain ⟨name, hname, h⟩ := bind_eq_ok h
    obtain ⟨a, ha, h⟩ := bind_eq_ok h
    obtain ⟨as, has, -⟩ := bind_eq_ok h
    obtain ⟨hrest, hending⟩ := skipMembers_of_decodeMembers rest has
    exact ⟨by simp [skipMembers, Literal.skip_of_read hname, skip_of_decodeValue v ha, hrest], hending⟩

end

end Values

/-! ### Records -/

namespace Fields

/-- Are the decoders of all fields thorough? -/
def AllThorough : {ρ : Type} → Fields ρ → Prop
  | _, nil => True
  | _, field _ decode _ later => Thorough decode ∧ later.AllThorough

variable {ρ : Type} {fs : Fields ρ} {depth : Nat}

theorem skip_of_put (hfs : fs.AllThorough) {name : String} {v : Node} {draft draft' : fs.Draft}
    (h : put depth name v fs draft = some (.ok draft')) : v.skip = .ok () := by
  induction fs with
  | nil => cases h
  | field key decode presence later ih =>
    obtain ⟨a, others⟩ := draft
    obtain ⟨-, b, hb, -⟩ | ⟨-, others', hothers, -⟩ := put_ok h
    · exact hfs.1 hb
    · exact ih hfs.2 hothers

theorem skip_of_readMembers (hfs : fs.AllThorough) {ending : Ending} {members : List (Literal × Node)}
    {draft draft' : fs.Draft} (h : fs.readMembers depth ending members draft = .ok draft') :
    skipMembers members = .ok () ∧ ending.raise = .ok () := by
  induction members generalizing draft with
  | nil =>
    obtain ⟨_, hending, -⟩ := bind_eq_ok h
    exact ⟨rfl, lift_eq_ok hending⟩
  | cons m rest ih =>
    obtain ⟨key, v⟩ := m
    obtain ⟨name, hname, h⟩ := bind_eq_ok h
    simp only at h
    have hkey := Literal.skip_of_read hname
    split at h
    · next r hr =>
      obtain ⟨next, rfl, h⟩ := bind_eq_ok h
      obtain ⟨hrest, hending⟩ := ih h
      exact ⟨by simp [skipMembers, hkey, skip_of_put hfs hr, hrest], hending⟩
    · -- A member that nobody asked for is passed over.
      obtain ⟨_, hskip, h⟩ := bind_eq_ok h
      obtain ⟨next, -, h⟩ := bind_eq_ok h
      obtain ⟨hrest, hending⟩ := ih h
      exact ⟨by simp [skipMembers, hkey, lift_eq_ok hskip, hrest], hending⟩

theorem skip_of_readItems (hfs : fs.AllThorough) {ending : Option Fault} {expected : String} {index : Nat}
    {items : List Node} {r : ρ} (h : readItems depth ending expected fs index items = .ok r) :
    skipItems items = .ok () ∧ raise ending = .ok () := by
  induction fs generalizing index items with
  | nil =>
    cases items with
    | nil =>
      obtain ⟨_, hending, -⟩ := bind_eq_ok h
      exact ⟨rfl, lift_eq_ok hending⟩
    | cons v rest => cases h
  | field name decode presence later ih =>
    cases items with
    | cons v rest =>
      obtain ⟨a, ha, h⟩ := bind_eq_ok h
      obtain ⟨s, hs, -⟩ := bind_eq_ok h
      obtain ⟨hrest, hending⟩ := ih hfs.2 hs
      exact ⟨by simp [skipItems, hfs.1 ha, hrest], hending⟩
    | nil =>
      obtain ⟨_, hending, -⟩ := bind_eq_ok h
      exact ⟨rfl, lift_eq_ok hending⟩

/-- **A record is read thoroughly if its fields are.** -/
theorem thorough_decode (hfs : fs.AllThorough) (title : String) : Thorough (fs.decode title) := by
  intro depth v r h
  cases v with
  | object members ending =>
    obtain ⟨inside, -, h⟩ := bind_eq_ok h
    obtain ⟨draft, hdraft, -⟩ := bind_eq_ok h
    obtain ⟨hmembers, hending⟩ := skip_of_readMembers hfs hdraft
    simp [Node.skip, hmembers, hending]
  | array items ending =>
    obtain ⟨inside, -, h⟩ := bind_eq_ok h
    obtain ⟨hitems, hending⟩ := skip_of_readItems hfs h
    simp [Node.skip, hitems, hending]
  | null => exact absurd h (mismatch_ne_ok title .null r)
  | boolean b => exact absurd h (mismatch_ne_ok title (.boolean b) r)
  | numeral n => exact absurd h (mismatch_ne_ok title (.numeral n) r)
  | text l => exact absurd h (mismatch_ne_ok title (.text l) r)
  | broken attempt f => exact absurd h (mismatch_ne_ok title (.broken attempt f) r)

end Fields

end PersonaDialogue.Json
