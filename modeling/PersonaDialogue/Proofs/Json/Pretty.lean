import PersonaDialogue.Proofs.Json.Compact

/-!
# Pretty texts are read back

The pretty text of a value differs from the compact one in nothing but space: it spells the same tree,
with the beginning of a line wherever a member or an element begins and before every closing bracket.
So a decoder sees in it what it sees in the compact text (`read_pretty`).
-/

namespace PersonaDialogue.Json

/-- The beginning of a line is space. -/
def Gap.line (level : Nat) : Gap where
  chars := Value.newLine level
  isSpace_of_mem c hc := by
    rcases List.mem_cons.1 hc with rfl | hc
    · decide
    · rw [List.eq_of_mem_replicate hc]
      decide

/-- The space between the colon and the value of a member. -/
def Gap.single : Gap := ⟨[' '], by simp [isSpace]⟩

namespace Value

mutual

/-- **The pretty text of a value spells the tree of the value.** -/
theorem spells_pretty (level : Nat) : ∀ v : Value, Spells (prettyChars level v) v.node
  | null => .null
  | boolean true => .true
  | boolean false => .false
  | number n => spells_number n
  | text s => .text s
  | array [] => .emptyArray .none
  | array (v :: rest) => by
    have hitems := spells_prettyItems level (spells_pretty (level + 1) v) rest
    have harray := Spells.array (.line (level + 1)) hitems
    simpa only [prettyChars, node, nodes, Gap.line, List.append_assoc] using harray
  | object [] => .emptyObject .none
  | object ((key, v) :: rest) => by
    have hmembers := spells_prettyMembers level key (spells_pretty (level + 1) v) rest
    have hobject := Spells.object (.line (level + 1)) hmembers
    simpa only [prettyChars, node, memberNodes, Gap.line, List.append_assoc, List.cons_append,
      List.nil_append] using hobject

theorem spells_prettyItems (level : Nat) {s : List Char} {v : Node} (hv : Spells s v) :
    ∀ rest : List Value, SpellsItems (s ++ prettyMoreItems level rest) (v :: nodes rest)
  | [] => .last hv (.line level)
  | w :: rest => by
    have hitems := spells_prettyItems level (spells_pretty (level + 1) w) rest
    have hmore := SpellsItems.more hv .none (.line (level + 1)) hitems
    simpa only [prettyMoreItems, nodes, Gap.line, Gap.none, List.append_assoc, List.nil_append] using
      hmore

theorem spells_prettyMembers (level : Nat) (key : String) {s : List Char} {v : Node}
    (hv : Spells s v) :
    ∀ rest : List (String × Value),
      SpellsMembers (textLiteral key ++ ':' :: ' ' :: (s ++ prettyMoreMembers level rest))
        ((.ofText key, v) :: memberNodes rest)
  | [] => .last key .none .single hv (.line level)
  | (key', w) :: rest => by
    have hmembers := spells_prettyMembers level key' (spells_pretty (level + 1) w) rest
    have hmore := SpellsMembers.more key .none .single hv .none (.line (level + 1)) hmembers
    simpa only [prettyMoreMembers, memberNodes, Gap.line, Gap.none, Gap.single, List.append_assoc,
      List.cons_append, List.nil_append] using hmore

end

end Value

/-- **What a decoder reads in the pretty text of a value is what it sees in its tree.** -/
theorem read_pretty {α : Type} (decode : Decoder α) (v : Value) :
    read decode v.pretty = decode 0 v.node := by
  rw [read, Value.pretty, String.toList_ofList, readChars_of_spells decode (v.spells_pretty 0)]

end PersonaDialogue.Json
