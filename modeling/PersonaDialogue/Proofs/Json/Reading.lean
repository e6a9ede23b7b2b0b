import PersonaDialogue.Json.Record

/-!
# Steps of a reading

How the steps of a decoder go together when all goes well.  The lemmas about single steps are for
`simp`; `bind_eq_ok` takes a reading that went well apart.
-/

namespace PersonaDialogue.Json

variable {ε α β : Type}

@[simp] theorem ok_bind (a : α) (f : α → Except ε β) : Except.ok a >>= f = f a := rfl

theorem bind_eq_ok {x : Except ε α} {f : α → Except ε β} {b : β} (h : (x >>= f) = .ok b) :
    ∃ a, x = .ok a ∧ f a = .ok b := by
  cases x with
  | ok a => exact ⟨a, rfl, h⟩
  | error e => cases h

@[simp] theorem lift_ok (a : α) : lift (.ok a) = .ok a := by rw [lift]

theorem enter_of_lt {depth : Nat} (h : depth < 127) : enter depth = .ok (depth + 1) := if_pos h

theorem wordOfNumeric_toNat (n : UInt32) : wordOfNumeric (.whole n.toNat) = .ok n := by
  have hrange : (0 : Int) ≤ n.toNat ∧ (n.toNat : Int) < UInt32.size :=
    ⟨Int.natCast_nonneg _, Int.ofNat_lt.2 n.toNat_lt_size⟩
  rw [wordOfNumeric, if_pos hrange]
  simp

end PersonaDialogue.Json
