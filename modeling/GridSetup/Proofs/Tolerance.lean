import GridSetup.Proofs.Subtraction
import GridSetup.Node

/-! # Voltages up to the tolerance

Two voltages are alike, or one exceeds the other by more than the tolerance, unless
they have no difference. Exceeding is transitive, being alike is not. -/

namespace GridSetup.Voltage

open Binary64

/-- Whether a voltage is higher than another by more than the tolerance. -/
def exceeds (a b : Float) : Prop := tolerance < a - b

instance (a b : Float) : Decidable (exceeds a b) :=
  inferInstanceAs (Decidable (tolerance < a - b))

/-- The tolerance, counted in the units of binary64. -/
def margin : Int := magnitude 4722366482869645 (-72)

theorem units_tolerance : units tolerance = some margin := by
  decide +kernel

theorem units_zero : units 0 = some 0 := by
  decide +kernel

theorem margin_pos : 0 < margin :=
  Int.ofNat_lt.mpr (magnitude_pos (by decide) (-72))

theorem alike_iff (a b : Float) :
    alike a b = true ↔ ∃ d, units (a - b) = some d ∧ d.natAbs ≤ margin := by
  rw [alike, decide_eq_true_iff, le_iff, units_abs, units_tolerance]
  simp

theorem higher_iff (a b : Float) : higher a b = true ↔ ∃ d, units (a - b) = some d ∧ 0 < d := by
  rw [higher, decide_eq_true_iff, lt_iff, units_zero]
  simp

theorem exceeds_iff (a b : Float) : exceeds a b ↔ ∃ d, units (a - b) = some d ∧ margin < d := by
  rw [exceeds, lt_iff, units_tolerance]
  simp

/-- One voltage exceeds another if it is higher and they do not count as equal. -/
theorem exceeds_iff_higher (a b : Float) :
    exceeds a b ↔ ¬alike a b = true ∧ higher a b = true := by
  have hmargin := margin_pos
  rw [exceeds_iff, alike_iff, higher_iff]
  cases units (a - b) with
  | none => simp
  | some d =>
    simp only [Option.some.injEq, exists_eq_left']
    omega

theorem alike_comm (a b : Float) : alike a b = true ↔ alike b a = true := by
  rw [alike_iff, alike_iff, units_sub_comm b a]
  cases units (b - a) <;> simp

theorem exceeds.trans {a b c : Float} (hab : exceeds a b) (hbc : exceeds b c) :
    exceeds a c := by
  have hmargin := margin_pos
  simp only [exceeds_iff, units_sub_eq_some_iff, difference_eq_some_iff] at hab hbc ⊢
  obtain ⟨_, ⟨m, n, hm, hn, -, rfl⟩, hmn⟩ := hab
  obtain ⟨_, ⟨n', l, hn', hl, -, rfl⟩, hnl⟩ := hbc
  obtain rfl : n = n' := Option.some.inj (hn.symm.trans hn')
  have hdown := (rounded_pos_iff _).mp (hmargin.trans hmn)
  have hdown' := (rounded_pos_iff _).mp (hmargin.trans hnl)
  have hle : rounded (n - l) ≤ rounded (m - l) := rounded_mono (by omega)
  exact ⟨_, ⟨m, l, hm, hl, fun h => by omega, rfl⟩, hnl.trans_le hle⟩

theorem exceeds.irrefl (a : Float) : ¬exceeds a a := by
  have hmargin := margin_pos
  simp only [exceeds_iff, units_sub_eq_some_iff, difference_eq_some_iff]
  intro h
  obtain ⟨_, ⟨m, n, hm, hn, -, rfl⟩, hlt⟩ := h
  obtain rfl : m = n := Option.some.inj (hm.symm.trans hn)
  rw [sub_self, rounded_zero] at hlt
  omega

theorem exceeds_or_exceeds_iff (a b : Float) :
    exceeds a b ∨ exceeds b a ↔ ∃ d, units (a - b) = some d ∧ margin < d.natAbs := by
  have hmargin := margin_pos
  rw [exceeds_iff, exceeds_iff, units_sub_comm a b]
  cases units (a - b) with
  | none => simp
  | some d =>
    simp only [Option.map_some, Option.some.injEq, exists_eq_left']
    omega

/-- If a third voltage is alike to one of two others and exceeds the second, or is
exceeded by it, these two have a difference: they are alike, or one exceeds the other. -/
theorem alike_or_exceeds {a b c : Float} (hac : exceeds a c ∨ exceeds c a)
    (hbc : alike b c = true) : alike a b = true ∨ exceeds a b ∨ exceeds b a := by
  have hdefined : ∃ d, units (a - b) = some d := by
    rw [exceeds_or_exceeds_iff] at hac
    simp only [alike_iff, units_sub_eq_some_iff, difference_eq_some_iff] at hac hbc ⊢
    obtain ⟨_, ⟨m, l, hm, hl, -, rfl⟩, hml⟩ := hac
    obtain ⟨_, ⟨n, l', hn, hl', -, rfl⟩, hnl⟩ := hbc
    obtain rfl : l = l' := Option.some.inj (hl.symm.trans hl')
    refine ⟨_, m, n, hm, hn, fun h => ?_, rfl⟩
    -- equal voltages would stand in one relation to the third one
    rw [h.1] at hml
    omega
  obtain ⟨d, hd⟩ := hdefined
  rw [exceeds_or_exceeds_iff, alike_iff, hd]
  simp only [Option.some.injEq, exists_eq_left']
  omega

/-! ## Thresholds -/

theorem below_iff (voltage threshold : Float) :
    below voltage threshold = true ↔ ∃ m n d, units voltage = some m ∧
      units threshold = some n ∧ difference n margin = some d ∧ m < d := by
  rw [below, decide_eq_true_iff, lt_iff]
  simp only [units_sub_eq_some_iff, units_tolerance]
  grind

/-- What is no number is below no threshold, and nothing is below what is none. -/
theorem below_isNaN {voltage threshold : Float}
    (h : voltage.isNaN = true ∨ threshold.isNaN = true) : below voltage threshold = false := by
  rw [Bool.eq_false_iff, ne_eq, below_iff]
  intro hbelow
  obtain ⟨m, n, -, hm, hn, -⟩ := hbelow
  rw [isNaN_iff, isNaN_iff, hm, hn] at h
  rcases h with h | h <;> cases h

/-- Of equal thresholds it does not matter which one is taken. -/
theorem below_eq_of_beq {threshold threshold' : Float} (h : threshold == threshold')
    (voltage : Float) : below voltage threshold = below voltage threshold' := by
  obtain ⟨n, hn, hn'⟩ := (beq_iff threshold threshold').mp h
  rw [Bool.eq_iff_iff, below_iff, below_iff, hn, hn']

/-! ## Finite voltages -/

/-- Equal voltages are alike, as long as they have a difference. -/
theorem alike_of_beq {a b : Float} (ha : a.isFinite = true) (h : a == b) : alike a b = true := by
  obtain ⟨m, hm, hfinite⟩ := (isFinite_iff a).mp ha
  obtain ⟨n, hn, hb⟩ := (beq_iff a b).mp h
  obtain rfl : m = n := Option.some.inj (hm.symm.trans hn)
  have hzero : difference m m = some 0 := by
    rw [difference_finite hfinite, sub_self, rounded_zero]
  exact (alike_iff a b).mpr
    ⟨0, (units_sub_eq_some_iff a b 0).mpr ⟨m, m, hm, hb, hzero⟩, margin_pos.le⟩

/-- However close two finite voltages are, the sign of their difference is that of their
order. -/
theorem higher_iff_lt {a b : Float} (ha : a.isFinite = true) (hb : b.isFinite = true) :
    higher a b = true ↔ b < a := by
  obtain ⟨m, hm, hfinite⟩ := (isFinite_iff a).mp ha
  obtain ⟨n, hn, -⟩ := (isFinite_iff b).mp hb
  rw [higher_iff, lt_iff]
  simp [units_sub, hm, hn, difference_finite hfinite, rounded_pos_iff]

end GridSetup.Voltage
