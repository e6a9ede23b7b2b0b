import PersonaDialogue.Proofs.Canvas.Codec
import PersonaDialogue.Proofs.Json.Pretty

/-!
# The texts of a canvas

A canvas is written in two ways, and either text is read back as the canvas
(`Canvas.texts_faithful`).  So the text of a canvas, and the bytes over which its fingerprint is taken,
tell it from every other canvas.
-/

namespace PersonaDialogue

/-! ### Bytes -/

theorem toList_loop_eq (bytes : ByteArray) (i : Nat) (read : List UInt8) :
    ByteArray.toList.loop bytes i read = read.reverse ++ bytes.data.toList.drop i := by
  by_cases hi : i < bytes.size
  · have hdata : i < bytes.data.toList.length := hi
    have hget : bytes.get! i = bytes.data.toList[i] := getElem!_pos bytes.data i hi
    rw [ByteArray.toList.loop, if_pos hi, toList_loop_eq bytes (i + 1), List.drop_eq_getElem_cons hdata,
      hget, List.reverse_cons, List.append_assoc, List.singleton_append]
  · have hdata : bytes.data.toList.length ≤ i := Nat.not_lt.1 hi
    rw [ByteArray.toList.loop, if_neg hi, List.drop_eq_nil_of_le hdata, List.append_nil]
termination_by bytes.size - i

theorem toList_eq_data (bytes : ByteArray) : bytes.toList = bytes.data.toList := by
  rw [ByteArray.toList, toList_loop_eq, List.reverse_nil, List.nil_append, List.drop_zero]

/-- The bytes of a text are those of its characters. -/
theorem toUTF8_ofList (s : List Char) :
    (String.ofList s).toUTF8.toList = s.flatMap String.utf8EncodeChar := by
  rw [toList_eq_data, show (String.ofList s).toUTF8 = s.utf8Encode from rfl]
  simp [List.utf8Encode]

/-- Texts with the same bytes are the same. -/
theorem utf8_injective : Function.Injective fun s : String => s.toUTF8.toList := by
  intro s t h
  have hdata : s.toUTF8.data.toList = t.toUTF8.data.toList := by
    simpa only [toList_eq_data] using h
  exact String.toByteArray_inj.1 (ByteArray.ext (Array.toList_inj.1 hdata))

/-! ### Texts -/

namespace Canvas

open Json Json.Value

theorem read_compact (c : Canvas) : read decode c.compact = .ok c := by
  rw [compact, Json.read_compact]
  exact decode_form isForm_id (by omega) c

theorem read_pretty (c : Canvas) : read decode c.toJson.pretty = .ok c := by
  rw [Json.read_pretty]
  exact decode_form isForm_id (by omega) c

theorem compact_injective : Function.Injective compact := by
  intro c d h
  have hread : (.ok c : Reading Canvas) = .ok d := by rw [← c.read_compact, h, d.read_compact]
  exact Except.ok.inj hread

/-- **Either text of a canvas is read back as the canvas**, and no two canvases have the same compact
text, or the same bytes under their fingerprints. -/
theorem texts_faithful :
    (∀ c : Canvas, read decode c.compact = .ok c ∧ read decode c.toJson.pretty = .ok c) ∧
      Function.Injective compact ∧ Function.Injective fun c : Canvas => c.compact.toUTF8.toList :=
  ⟨fun c => ⟨c.read_compact, c.read_pretty⟩, compact_injective,
    utf8_injective.comp compact_injective⟩

end Canvas

end PersonaDialogue
