import PersonaDialogue.Canvas.Age

/-!
# Shifted ages and the middle of a range

The arithmetic of ages, read as natural numbers: a shifted age is the clamped sum and depends
monotonically on the age, and the middle of a valid range is computed without overflow and lies
between its bounds.  Of a range around an age, whose bounds are clamped, the middle need not be the age
(`midpoint_of_around?_eq_iff`).
-/

namespace PersonaDialogue

theorem shiftAge_toNat (age : UInt32) (years : Int) :
    (shiftAge age years).toNat = (min (max 0 ((age.toNat : Int) + years)) 120).toNat := by
  have hmax : maxAge.toNat = 120 := rfl
  unfold shiftAge
  rw [hmax, UInt32.toNat_ofNat']
  refine Nat.mod_eq_of_lt ?_
  omega

theorem shiftAge_le_maxAge (age : UInt32) (years : Int) : shiftAge age years ≤ maxAge := by
  have hmax : maxAge.toNat = 120 := rfl
  rw [UInt32.le_iff_toNat_le, shiftAge_toNat]
  omega

theorem shiftAge_mono {a b : UInt32} (h : a ≤ b) (years : Int) :
    shiftAge a years ≤ shiftAge b years := by
  rw [UInt32.le_iff_toNat_le] at h ⊢
  rw [shiftAge_toNat, shiftAge_toNat]
  omega

namespace AgeRange

theorem isValid_iff {r : AgeRange} : r.isValid = true ↔ r.min ≤ r.max ∧ r.max ≤ maxAge := by
  simp [isValid]

/-- The sum behind the middle of a valid range does not overflow. -/
theorem midpoint_toNat {r : AgeRange} (h : r.isValid = true) :
    r.midpoint.toNat = (r.min.toNat + r.max.toNat + 1) / 2 := by
  obtain ⟨horder, hmax⟩ := isValid_iff.1 h
  rw [UInt32.le_iff_toNat_le] at horder
  have hmax : r.max.toNat ≤ 120 := hmax
  have h1 : (1 : UInt32).toNat = 1 := rfl
  have h2 : (2 : UInt32).toNat = 2 := rfl
  unfold midpoint
  rw [UInt32.toNat_div, UInt32.toNat_add, UInt32.toNat_add, h1, h2]
  omega

theorem min_le_midpoint {r : AgeRange} (h : r.isValid = true) : r.min ≤ r.midpoint := by
  have horder := UInt32.le_iff_toNat_le.1 (isValid_iff.1 h).1
  rw [UInt32.le_iff_toNat_le, midpoint_toNat h]
  omega

theorem midpoint_le_max {r : AgeRange} (h : r.isValid = true) : r.midpoint ≤ r.max := by
  have horder := UInt32.le_iff_toNat_le.1 (isValid_iff.1 h).1
  rw [UInt32.le_iff_toNat_le, midpoint_toNat h]
  omega

/-! ### Ranges from ages -/

/-- A range between two ages has them as its bounds, the lesser one first. -/
theorem between?_toNat {a b : UInt32} {r : AgeRange} (h : between? a b = some r) :
    r.min.toNat = Nat.min a.toNat b.toNat ∧ r.max.toNat = Nat.max a.toNat b.toNat ∧ r.max.toNat ≤ 120 := by
  unfold between? at h
  obtain ⟨hmax, hr⟩ := Option.ite_none_right_eq_some.1 h
  obtain rfl := Option.some.inj hr
  refine ⟨?_, ?_, UInt32.le_iff_toNat_le.1 hmax⟩
  · split
    · next hab => exact (Nat.min_eq_left (UInt32.le_iff_toNat_le.1 hab)).symm
    · next hab => exact (Nat.min_eq_right (UInt32.le_iff_toNat_le.1 ((UInt32.le_total a b).resolve_left hab))).symm
  · split
    · next hab => exact (Nat.max_eq_right (UInt32.le_iff_toNat_le.1 hab)).symm
    · next hab => exact (Nat.max_eq_left (UInt32.le_iff_toNat_le.1 ((UInt32.le_total a b).resolve_left hab))).symm

/-- The range with two ages as its bounds, the lesser one first, is the range between them. -/
theorem between?_of_toNat {a b : UInt32} {r : AgeRange} (hmin : r.min.toNat = Nat.min a.toNat b.toNat)
    (hmax : r.max.toNat = Nat.max a.toNat b.toNat) (hle : r.max.toNat ≤ 120) : between? a b = some r := by
  have hordered : (if a ≤ b then ⟨a, b⟩ else ⟨b, a⟩ : AgeRange) = r := by
    obtain ⟨low, high⟩ := r
    split
    · next hab =>
      have hab : a.toNat ≤ b.toNat := UInt32.le_iff_toNat_le.1 hab
      have hlow : low.toNat = a.toNat := hmin.trans (Nat.min_eq_left hab)
      have hhigh : high.toNat = b.toNat := hmax.trans (Nat.max_eq_right hab)
      rw [UInt32.toNat_inj.1 hlow, UInt32.toNat_inj.1 hhigh]
    · next hab =>
      have hba : b.toNat ≤ a.toNat := UInt32.le_iff_toNat_le.1 ((UInt32.le_total a b).resolve_left hab)
      have hlow : low.toNat = b.toNat := hmin.trans (Nat.min_eq_right hba)
      have hhigh : high.toNat = a.toNat := hmax.trans (Nat.max_eq_left hba)
      rw [UInt32.toNat_inj.1 hlow, UInt32.toNat_inj.1 hhigh]
  unfold between?
  simp only [hordered]
  exact if_pos (UInt32.le_iff_toNat_le.2 hle)

theorem exists_around? {age : UInt32} (h : age.toNat ≤ 120) (window : UInt32) :
    ∃ r, around? age window = some r :=
  ⟨_, if_pos (UInt32.le_iff_toNat_le.2 h)⟩

/-- A range around an age is cut off at 0 and at 120. -/
theorem around?_toNat {age window : UInt32} {r : AgeRange} (h : around? age window = some r) :
    age.toNat ≤ 120 ∧ r.min.toNat = age.toNat - window.toNat ∧
      r.max.toNat = Nat.min (age.toNat + window.toNat) 120 := by
  unfold around? at h
  obtain ⟨hage, hr⟩ := Option.ite_none_right_eq_some.1 h
  obtain rfl := Option.some.inj hr
  have hage : age.toNat ≤ 120 := UInt32.le_iff_toNat_le.1 hage
  refine ⟨hage, ?_, ?_⟩
  · rw [UInt32.toNat_ofNat']
    exact Nat.mod_eq_of_lt (by omega)
  · rw [UInt32.toNat_ofNat']
    exact Nat.mod_eq_of_lt (show Min.min (age.toNat + window.toNat) 120 < 2 ^ 32 by omega)

theorem isValid_of_around? {age window : UInt32} {r : AgeRange} (h : around? age window = some r) :
    r.isValid = true := by
  obtain ⟨hage, hmin, hmax⟩ := around?_toNat h
  have hmax : r.max.toNat = Min.min (age.toNat + window.toNat) 120 := hmax
  have h120 : maxAge.toNat = 120 := rfl
  rw [isValid_iff, UInt32.le_iff_toNat_le, UInt32.le_iff_toNat_le]
  omega

/-- The middle of a range around an age, whose bounds were cut off first. -/
theorem midpoint_of_around? {age window : UInt32} {r : AgeRange} (h : around? age window = some r) :
    r.midpoint.toNat =
      (age.toNat - window.toNat + Nat.min (age.toNat + window.toNat) 120 + 1) / 2 := by
  obtain ⟨-, hmin, hmax⟩ := around?_toNat h
  rw [midpoint_toNat (isValid_of_around? h), hmin, hmax]

/-- The middle is the age itself unless one side was cut off by more than the other. -/
theorem midpoint_of_around?_eq_iff {age window : UInt32} {r : AgeRange}
    (h : around? age window = some r) :
    r.midpoint = age ↔
      window.toNat ≤ age.toNat ∧ age.toNat + window.toNat ≤ 121 ∨ age.toNat = 60 := by
  have hage := (around?_toNat h).1
  have hmid : r.midpoint.toNat =
      (age.toNat - window.toNat + Min.min (age.toNat + window.toNat) 120 + 1) / 2 :=
    midpoint_of_around? h
  rw [← UInt32.toNat_inj, hmid]
  omega

end AgeRange

end PersonaDialogue
