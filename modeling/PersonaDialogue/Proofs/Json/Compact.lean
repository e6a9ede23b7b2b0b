import PersonaDialogue.Json.Decode
import PersonaDialogue.Proofs.Json.NumberText
import PersonaDialogue.Proofs.Json.Spelling

/-!
# Values that were written are read back

`Value.node` is the tree of a value: the tree that reading its text gives, whichever writer wrote it.
The compact text of a value spells this tree, so a decoder that is given the text sees the tree
(`read_compact`), and a decoder may be proved right on trees alone.
-/

namespace PersonaDialogue.Json

def Numeric.node (n : Numeric) : Node := (Document.ofChars n.text).root

namespace Value

mutual

def node : Value → Node
  | null => .null
  | boolean b => .boolean b
  | number n => n.node
  | text s => .text (.ofText s)
  | array items => .array (nodes items) none
  | object members => .object (memberNodes members) .closed

def nodes : List Value → List Node
  | [] => []
  | v :: rest => node v :: nodes rest

def memberNodes : List (String × Value) → List (Literal × Node)
  | [] => []
  | (key, v) :: rest => (.ofText key, node v) :: memberNodes rest

end

theorem nodes_eq_map (items : List Value) : nodes items = items.map node := by
  induction items with
  | nil => rfl
  | cons v rest ih => rw [nodes, ih, List.map_cons]

theorem memberNodes_eq_map (members : List (String × Value)) :
    memberNodes members = members.map fun m => (.ofText m.1, m.2.node) := by
  induction members with
  | nil => rfl
  | cons m rest ih => rw [memberNodes, ih, List.map_cons]

end Value

/-! ### Compact texts -/

theorem spells_number (n : Numeric) : Spells n.text n.node := by
  have hspells : ∃ v, Spells n.text v := by
    rcases numericText_cases n with h | ⟨k, hk, h⟩
    · exact ⟨.null, h ▸ .null⟩
    · exact ⟨.numeral k, h ▸ .numeral hk⟩
  obtain ⟨v, hv⟩ := hspells
  rwa [Numeric.node, ofChars_of_spells_tight hv]

/-- The tree of a number that has a text of its own is the numeral that it is written as. -/
theorem numericNode_of_chars {n : Numeric} {k : Numeral} (hk : k.WellFormed) (h : n.text = k.chars) :
    n.node = .numeral k := by
  rw [Numeric.node, h, ofChars_of_spells_tight (.numeral hk)]

namespace Value

mutual

/-- **The compact text of a value spells the tree of the value.** -/
theorem spells_compact : ∀ v : Value, Spells v.compactChars v.node
  | null => .null
  | boolean true => .true
  | boolean false => .false
  | number n => spells_number n
  | text s => .text s
  | array [] => .emptyArray .none
  | array (v :: rest) => .array .none (spells_compactItems (spells_compact v) rest)
  | object [] => .emptyObject .none
  | object ((key, v) :: rest) =>
    .object .none (spells_compactMembers key (spells_compact v) rest)

theorem spells_compactItems {s : List Char} {v : Node} (hv : Spells s v) :
    ∀ rest : List Value, SpellsItems (s ++ compactMoreItems rest) (v :: nodes rest)
  | [] => .last hv .none
  | w :: rest => .more hv .none .none (spells_compactItems (spells_compact w) rest)

theorem spells_compactMembers (key : String) {s : List Char} {v : Node} (hv : Spells s v) :
    ∀ rest : List (String × Value),
      SpellsMembers (textLiteral key ++ ':' :: (s ++ compactMoreMembers rest))
        ((.ofText key, v) :: memberNodes rest)
  | [] => .last key .none .none hv .none
  | (key', w) :: rest => .more key .none .none hv .none .none
      (spells_compactMembers key' (spells_compact w) rest)

end

end Value

theorem readChars_of_spells {α : Type} (decode : Decoder α) {s : List Char} {v : Node}
    (h : Spells s v) : readChars decode s = decode 0 v := by
  unfold readChars
  rw [ofChars_of_spells_tight h]
  change (decode 0 v >>= fun a => pure a) = decode 0 v
  exact bind_pure _

/-- **What a decoder reads in the compact text of a value is what it sees in its tree.** -/
theorem read_compact {α : Type} (decode : Decoder α) (v : Value) :
    read decode v.compact = decode 0 v.node := by
  rw [read, Value.compact, String.toList_ofList, readChars_of_spells decode v.spells_compact]

end PersonaDialogue.Json
