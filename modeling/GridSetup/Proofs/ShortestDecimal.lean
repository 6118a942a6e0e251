import GridSetup.Decimal.Shortest
import Mathlib

/-! # The shortest decimal is exact

What reads back as a binary number are the reals of its range. The decimal that is
found lies in the range, no coarser grid of powers of ten has a point there, and on
its own grid no point of the range is nearer to the number. The search never comes to
an end without a decimal: a range is wide enough for one of the grids tried. -/

namespace GridSetup.Decimal

/-- The number a decimal stands for. -/
def value (decimal : Decimal) : ℚ := decimal.significand * 10 ^ decimal.exponent

theorem zpow_eq_div (b : ℚ) (e : ℤ) : b ^ e = b ^ e.toNat / b ^ (-e).toNat := by
  rcases le_total 0 e with h | h
  · rw [Int.toNat_of_nonpos (neg_nonpos.mpr h), pow_zero, div_one, ← zpow_natCast,
      Int.toNat_of_nonneg h]
  · rw [Int.toNat_of_nonpos h, pow_zero, ← zpow_natCast, Int.toNat_of_nonneg (neg_nonneg.mpr h),
      zpow_neg, one_div, inv_inv]

namespace Range

/-! ## The reals of a range -/

def Has (range : Range) (x : ℚ) : Prop :=
  if range.closed then range.low ≤ x * range.denominator ∧ x * range.denominator ≤ range.high
  else range.low < x * range.denominator ∧ x * range.denominator < range.high

/-- The number whose range it is. -/
def center (range : Range) : ℚ := range.value / range.denominator

/-- The number lies between the ends, and all of the range is positive. -/
structure Proper (range : Range) : Prop where
  low_pos : 0 < range.low
  low_lt : range.low < range.value
  lt_high : range.value < range.high
  denominator_pos : 0 < range.denominator

theorem contains_iff (range : Range) (n : Nat) :
    range.contains (n * range.denominator) = true ↔ range.Has n := by
  rw [contains, Has]
  split <;> simp only [Bool.and_eq_true, decide_eq_true_eq] <;> norm_cast

theorem Has.bounds {range : Range} {x : ℚ} (h : range.Has x) :
    range.low ≤ x * range.denominator ∧ x * range.denominator ≤ range.high := by
  rw [Has] at h
  split at h
  · exact h
  · exact ⟨h.1.le, h.2.le⟩

theorem has_of_lt {range : Range} {x : ℚ} (hlow : range.low < x * range.denominator)
    (hhigh : x * range.denominator < range.high) : range.Has x := by
  rw [Has]
  split
  · exact ⟨hlow.le, hhigh.le⟩
  · exact ⟨hlow, hhigh⟩

/-- What lies between reals of a range belongs to it. -/
theorem Has.between {range : Range} {a b x : ℚ} (ha : range.Has a) (hb : range.Has b)
    (hax : a ≤ x) (hxb : x ≤ b) : range.Has x := by
  have hlow := mul_le_mul_of_nonneg_right hax (Nat.cast_nonneg range.denominator)
  have hhigh := mul_le_mul_of_nonneg_right hxb (Nat.cast_nonneg range.denominator)
  rw [Has] at ha hb ⊢
  split at ha
  · rename_i hclosed
    rw [if_pos hclosed] at hb ⊢
    exact ⟨ha.1.trans hlow, hhigh.trans hb.2⟩
  · rename_i hopen
    rw [if_neg hopen] at hb ⊢
    exact ⟨ha.1.trans_le hlow, hhigh.trans_lt hb.2⟩

namespace Proper

variable {range : Range}

theorem denominator_cast_pos (proper : range.Proper) : (0 : ℚ) < range.denominator :=
  Nat.cast_pos.mpr proper.denominator_pos

theorem center_mul (proper : range.Proper) : range.center * range.denominator = range.value :=
  div_mul_cancel₀ _ proper.denominator_cast_pos.ne'

theorem has_center (proper : range.Proper) : range.Has range.center := by
  refine has_of_lt ?_ ?_ <;> rw [proper.center_mul] <;> norm_cast
  · exact proper.low_lt
  · exact proper.lt_high

/-! ## The nearest whole number -/

/-- The center lies between two whole numbers. -/
theorem floor_bounds (proper : range.Proper) :
    ((range.value / range.denominator : ℕ) : ℚ) ≤ range.center ∧
      range.center < (range.value / range.denominator : ℕ) + 1 := by
  have hpos := proper.denominator_cast_pos
  rw [center, le_div_iff₀ hpos, div_lt_iff₀ hpos]
  refine ⟨by exact_mod_cast Nat.div_mul_le_self _ _, ?_⟩
  have := Nat.lt_div_mul_add (a := range.value) proper.denominator_pos
  rw [add_mul, one_mul]
  exact_mod_cast this

/-- A whole number of the range is no nearer to the center than the one of the two next
to it that lies on the same side, which is of the range too. -/
theorem next_of_has (proper : range.Proper) {m : ℕ} (hm : range.Has m) :
    let floor := range.value / range.denominator
    (range.Has floor ∧ range.center - floor ≤ |m - range.center|) ∨
      (range.Has (floor + 1 : ℕ) ∧ (floor + 1 : ℕ) - range.center ≤ |m - range.center|) := by
  intro floor
  obtain ⟨hbelow, habove⟩ := proper.floor_bounds
  rcases Nat.lt_or_ge floor m with hlt | hle
  · have hm' : ((floor + 1 : ℕ) : ℚ) ≤ m := by exact_mod_cast hlt
    have hcenter : range.center ≤ (floor + 1 : ℕ) := by
      push_cast
      exact habove.le
    refine .inr ⟨proper.has_center.between hm hcenter hm', ?_⟩
    exact (sub_le_sub_right hm' _).trans (le_abs_self _)
  · have hm' : (m : ℚ) ≤ floor := by exact_mod_cast hle
    refine .inl ⟨hm.between proper.has_center hm' hbelow, ?_⟩
    rw [abs_sub_comm]
    exact (sub_le_sub_left hm' _).trans (le_abs_self _)

/-- Which of the two next to the center is nearer is decided in whole numbers. -/
theorem closer_iff (proper : range.Proper) :
    let floor := range.value / range.denominator
    range.value - floor * range.denominator <
        floor * range.denominator + range.denominator - range.value ↔
      range.center - floor < (floor + 1 : ℕ) - range.center := by
  intro floor
  have hpos := proper.denominator_cast_pos
  have hle : floor * range.denominator ≤ range.value := Nat.div_mul_le_self _ _
  have hlt : range.value < floor * range.denominator + range.denominator :=
    Nat.lt_div_mul_add proper.denominator_pos
  rw [← mul_lt_mul_iff_of_pos_right hpos, sub_mul, sub_mul, proper.center_mul,
    ← Nat.cast_lt (α := ℚ), Nat.cast_sub hle, Nat.cast_sub hlt.le]
  push_cast
  rw [add_mul, one_mul]

/-- The nearest whole number of the range is found, if there is any. -/
theorem nearest?_exact (proper : range.Proper) :
    (range.nearest? = none ∧ ∀ m : ℕ, ¬range.Has m) ∨
      ∃ n : ℕ, range.nearest? = some n ∧ range.Has n ∧
        ∀ m : ℕ, range.Has m → |n - range.center| ≤ |m - range.center| := by
  obtain ⟨hbelow, habove⟩ := proper.floor_bounds
  have hnext {m : ℕ} (hm : range.Has m) := proper.next_of_has hm
  have hcloser := proper.closer_iff
  have hfloor := range.contains_iff (range.value / range.denominator)
  have hceil := range.contains_iff (range.value / range.denominator + 1)
  rw [Nat.add_mul, Nat.one_mul] at hceil
  simp only [nearest?]
  generalize range.value / range.denominator = floor at *
  have hdown : |(floor : ℚ) - range.center| = range.center - floor := by
    rw [abs_sub_comm, abs_of_nonneg (sub_nonneg.mpr hbelow)]
  have hup : |((floor + 1 : ℕ) : ℚ) - range.center| = (floor + 1 : ℕ) - range.center :=
    abs_of_nonneg (sub_nonneg.mpr (by push_cast; exact habove.le))
  cases hlow : range.contains (floor * range.denominator) <;>
    cases hhigh : range.contains (floor * range.denominator + range.denominator) <;>
    simp only [hlow, hhigh, Bool.false_eq_true, false_iff, true_iff] at hfloor hceil ⊢
  · exact .inl ⟨trivial, fun m hm => (hnext hm).elim (fun h => hfloor h.1) fun h => hceil h.1⟩
  · refine .inr ⟨_, rfl, hceil, fun m hm => ?_⟩
    rw [hup]
    exact (hnext hm).elim (fun h => absurd h.1 hfloor) fun h => h.2
  · refine .inr ⟨_, rfl, hfloor, fun m hm => ?_⟩
    rw [hdown]
    exact (hnext hm).elim (fun h => h.2) fun h => absurd h.1 hceil
  · split
    · rename_i hnearer
      refine .inr ⟨_, rfl, hfloor, fun m hm => ?_⟩
      rw [hdown]
      exact (hnext hm).elim (fun h => h.2) fun h => (hcloser.mp hnearer).le.trans h.2
    · rename_i hfarther
      refine .inr ⟨_, rfl, hceil, fun m hm => ?_⟩
      rw [hup]
      exact (hnext hm).elim (fun h => (not_lt.mp (hcloser.not.mp hfarther)).trans h.2) fun h => h.2

end Proper

/-! ## Grids -/

theorem rescale_has (range : Range) (exponent : ℤ) (x : ℚ) :
    (range.rescale exponent).Has x ↔ range.Has (x * 10 ^ exponent) := by
  have hup : (0 : ℚ) < 10 ^ (-exponent).toNat := by positivity
  have hscale : x * 10 ^ exponent * range.denominator * 10 ^ (-exponent).toNat =
      x * (range.denominator * 10 ^ exponent.toNat) := by
    rw [zpow_eq_div]
    field_simp
  simp only [Has, rescale, Nat.pow_eq, Nat.cast_mul, Nat.cast_pow, Nat.cast_ofNat]
  rw [← hscale, mul_le_mul_iff_of_pos_right hup, mul_le_mul_iff_of_pos_right hup,
    mul_lt_mul_iff_of_pos_right hup, mul_lt_mul_iff_of_pos_right hup]

theorem rescale_center (range : Range) (exponent : ℤ) :
    (range.rescale exponent).center * 10 ^ exponent = range.center := by
  have hup : (0 : ℚ) < 10 ^ (-exponent).toNat := by positivity
  have hdown : (0 : ℚ) < 10 ^ exponent.toNat := by positivity
  simp only [center, rescale, Nat.pow_eq, Nat.cast_mul, Nat.cast_pow, Nat.cast_ofNat]
  rw [zpow_eq_div]
  field_simp

theorem Proper.rescale {range : Range} (proper : range.Proper) (exponent : ℤ) :
    (range.rescale exponent).Proper where
  low_pos := Nat.mul_pos proper.low_pos (Nat.pow_pos (by decide))
  low_lt := Nat.mul_lt_mul_of_pos_right proper.low_lt (Nat.pow_pos (by decide))
  lt_high := Nat.mul_lt_mul_of_pos_right proper.lt_high (Nat.pow_pos (by decide))
  denominator_pos := Nat.mul_pos proper.denominator_pos (Nat.pow_pos (by decide))

/-- The decimal lies in the range, no coarser grid has a point there, and on its own grid
no point of the range is nearer to the number. -/
structure IsShortest (range : Range) (decimal : Decimal) : Prop where
  inside : range.Has decimal.value
  coarsest : ∀ e, decimal.exponent < e → ∀ m : ℕ, ¬range.Has (m * 10 ^ e)
  nearest : ∀ m : ℕ, range.Has (m * 10 ^ decimal.exponent) →
    |decimal.value - range.center| ≤ |m * 10 ^ decimal.exponent - range.center|

/-- On one grid the nearest point of the range is found, if there is any. -/
theorem Proper.rescale_nearest? {range : Range} (proper : range.Proper) (exponent : ℤ) :
    ((range.rescale exponent).nearest? = none ∧ ∀ m : ℕ, ¬range.Has (m * 10 ^ exponent)) ∨
      ∃ n : ℕ, (range.rescale exponent).nearest? = some n ∧ range.Has (n * 10 ^ exponent) ∧
        ∀ m : ℕ, range.Has (m * 10 ^ exponent) →
          |n * 10 ^ exponent - range.center| ≤ |m * 10 ^ exponent - range.center| := by
  have hpos : (0 : ℚ) < 10 ^ exponent := by positivity
  have hdistance (m : ℕ) : |m * 10 ^ exponent - range.center| =
      |m - (range.rescale exponent).center| * 10 ^ exponent := by
    rw [← range.rescale_center exponent, ← sub_mul, abs_mul, abs_of_pos hpos]
  rcases (proper.rescale exponent).nearest?_exact with ⟨hnone, hall⟩ | ⟨n, hn, hhas, hnearest⟩
  · exact .inl ⟨hnone, fun m hm => hall m ((range.rescale_has exponent m).mpr hm)⟩
  · refine .inr ⟨n, hn, (range.rescale_has exponent n).mp hhas, fun m hm => ?_⟩
    rw [hdistance, hdistance]
    exact mul_le_mul_of_nonneg_right (hnearest m ((range.rescale_has exponent m).mpr hm)) hpos.le

/-- The search ends at the first grid that has a point in the range, if it is tried. -/
theorem Proper.search_exact {range : Range} (proper : range.Proper) (tries : ℕ) (exponent : ℤ)
    (above : ∀ e, exponent < e → ∀ m : ℕ, ¬range.Has (m * 10 ^ e))
    (hpoint : ∃ k < tries, ∃ m : ℕ, range.Has (m * 10 ^ (exponent - k))) :
    ∃ decimal, range.search tries exponent = some decimal ∧ range.IsShortest decimal := by
  induction tries generalizing exponent with
  | zero =>
    obtain ⟨k, hk, -⟩ := hpoint
    cases hk
  | succ tries ih =>
    rw [search]
    rcases proper.rescale_nearest? exponent with ⟨hnone, hall⟩ | ⟨n, hn, hinside, hnearest⟩
    · rw [hnone]
      refine ih (exponent - 1) (fun e he m => ?_) ?_
      · rcases (Int.sub_one_lt_iff.mp he).eq_or_lt with rfl | hlt
        · exact hall m
        · exact above e hlt m
      · obtain ⟨k, hk, m, hm⟩ := hpoint
        cases k with
        | zero => exact absurd (by simpa using hm) (hall m)
        | succ k =>
          refine ⟨k, Nat.lt_of_succ_lt_succ hk, m, ?_⟩
          rwa [Nat.cast_succ, add_comm, ← sub_sub] at hm
    · rw [hn]
      exact ⟨_, rfl, hinside, above, hnearest⟩

/-! ## Where the search begins and ends -/

theorem digitCount_le_iff {n k : ℕ} (hk : 0 < k) : digitCount n ≤ k ↔ n < 10 ^ k :=
  Nat.length_toDigits_le_iff (by decide) hk

theorem lt_pow_digitCount (n : ℕ) : n < 10 ^ digitCount n :=
  (digitCount_le_iff Nat.length_toDigits_pos).mp le_rfl

theorem pow_digitCount_le {n : ℕ} (hn : 0 < n) : 10 ^ (digitCount n - 1) ≤ n := by
  rcases Nat.eq_zero_or_pos (digitCount n - 1) with hone | hmore
  · rw [hone]
    exact hn
  · by_contra hlt
    have := (digitCount_le_iff hmore).mpr (Nat.lt_of_not_le hlt)
    omega

/-- The digits of a quotient say between which powers of ten the fraction lies. -/
theorem digitCount_div_bounds {a b : ℕ} (hb : 0 < b) (hab : b ≤ a) :
    ∃ k : ℕ, digitCount (a / b) = k + 1 ∧
      (10 : ℚ) ^ k * b ≤ a ∧ (a : ℚ) < 10 ^ (k + 1) * b := by
  obtain ⟨k, hk⟩ : ∃ k, digitCount (a / b) = k + 1 :=
    Nat.exists_eq_succ_of_ne_zero Nat.length_toDigits_pos.ne'
  have habove := lt_pow_digitCount (a / b)
  have hbelow := pow_digitCount_le (Nat.div_pos hab hb)
  rw [hk, Nat.div_lt_iff_lt_mul hb] at habove
  rw [hk, Nat.add_sub_cancel, Nat.le_div_iff_mul_le hb] at hbelow
  exact ⟨k, hk, by exact_mod_cast hbelow, by exact_mod_cast habove⟩

/-- The power of ten of the ceiling lies above the range, by no more than two places. -/
theorem ceiling_bounds {range : Range} (hhigh : 0 < range.high) (hpos : 0 < range.denominator) :
    (10 : ℚ) ^ (range.ceiling - 2) * range.denominator ≤ range.high ∧
      (range.high : ℚ) < 10 ^ range.ceiling * range.denominator := by
  have hden : (0 : ℚ) < range.denominator := Nat.cast_pos.mpr hpos
  rw [ceiling]
  rcases Nat.lt_or_ge range.high range.denominator with hlt | hge
  · -- below one, the digits of the inverse are counted
    obtain ⟨k, hk, hbelow, habove⟩ := digitCount_div_bounds hhigh hlt.le
    have hten : (0 : ℚ) < 10 ^ k := by positivity
    rw [Nat.div_eq_of_lt hlt, show digitCount 0 = 1 from rfl, hk]
    constructor
    · rw [show ((1 : ℕ) : ℤ) + 1 - (k + 1 : ℕ) - 2 = -((k + 1 : ℕ) : ℤ) by push_cast; ring,
        zpow_neg, zpow_natCast, inv_mul_le_iff₀ (by positivity)]
      exact habove.le
    · rw [show ((1 : ℕ) : ℤ) + 1 - (k + 1 : ℕ) = 1 - k by push_cast; ring,
        zpow_sub₀ (by norm_num), zpow_one, zpow_natCast, div_mul_eq_mul_div, lt_div_iff₀ hten]
      linarith
  · obtain ⟨k, hk, hbelow, habove⟩ := digitCount_div_bounds hpos hge
    have hone : digitCount (range.denominator / range.high) = 1 := by
      have hle : range.denominator / range.high ≤ 1 :=
        Nat.div_le_of_le_mul (by rwa [Nat.mul_one])
      exact le_antisymm ((digitCount_le_iff one_pos).mpr (by omega)) Nat.length_toDigits_pos
    have hten : (0 : ℚ) < 10 ^ k * range.denominator := by positivity
    rw [hk, hone]
    constructor
    · rw [show ((k + 1 : ℕ) : ℤ) + 1 - (1 : ℕ) - 2 = k - 1 by push_cast; ring,
        zpow_sub₀ (by norm_num), zpow_one, zpow_natCast]
      linarith
    · rw [show ((k + 1 : ℕ) : ℤ) + 1 - (1 : ℕ) = ((k + 1 : ℕ) : ℤ) by push_cast; ring,
        zpow_natCast]
      exact habove

/-- Between ends more than a step apart the grid has a point. -/
theorem exists_has_of_wide {range : Range} (hpos : 0 < range.denominator) {e : ℤ}
    (hwide : (10 : ℚ) ^ e * range.denominator < range.high - range.low) :
    ∃ m : ℕ, range.Has (m * 10 ^ e) := by
  have hstep : (0 : ℚ) < 10 ^ e * range.denominator :=
    mul_pos (by positivity) (Nat.cast_pos.mpr hpos)
  set m := ⌊(range.low : ℚ) / (10 ^ e * range.denominator)⌋₊ with hm
  have hlow : (m : ℚ) * (10 ^ e * range.denominator) ≤ range.low := by
    rw [← le_div_iff₀ hstep]
    exact Nat.floor_le (by positivity)
  have hnext : (range.low : ℚ) < (m + 1) * (10 ^ e * range.denominator) := by
    rw [← div_lt_iff₀ hstep]
    exact Nat.lt_floor_add_one _
  refine ⟨m + 1, has_of_lt ?_ ?_⟩ <;> push_cast <;> rw [mul_assoc]
  · exact hnext
  · linarith

/-- A positive multiple of a power of ten above the range does not lie in it. -/
theorem Proper.not_has_above {range : Range} (proper : range.Proper) {e : ℤ}
    (he : range.ceiling ≤ e) (m : ℕ) : ¬range.Has (m * 10 ^ e) := by
  intro h
  obtain ⟨hlow, hhigh⟩ := h.bounds
  have hpos := proper.denominator_cast_pos
  have habove := (ceiling_bounds (by have := proper.low_lt; have := proper.lt_high; omega)
    proper.denominator_pos).2
  have hgrow : (10 : ℚ) ^ range.ceiling * range.denominator ≤ 10 ^ e * range.denominator :=
    mul_le_mul_of_nonneg_right (zpow_le_zpow_right₀ (by norm_num) he) hpos.le
  rcases Nat.eq_zero_or_pos m with rfl | hm
  · have : (0 : ℚ) < range.low := Nat.cast_pos.mpr proper.low_pos
    simp only [Nat.cast_zero, zero_mul] at hlow
    linarith
  · have hone : (1 : ℚ) ≤ m := by exact_mod_cast hm
    have : 10 ^ e * (range.denominator : ℚ) ≤ m * 10 ^ e * range.denominator := by
      rw [mul_assoc]
      exact le_mul_of_one_le_left (by positivity) hone
    linarith

end Range

/-! ## The range of a binary number -/

namespace Range

variable {mantissa : ℕ} (exponent : ℤ)

theorem of_proper (hm : 0 < mantissa) : (Range.of mantissa exponent).Proper := by
  have hscale : 0 < 2 ^ (exponent - 2).toNat := Nat.two_pow_pos _
  refine ⟨?_, ?_, ?_, Nat.two_pow_pos _⟩ <;> simp only [Range.of, Nat.pow_eq]
  · exact Nat.mul_pos (by split <;> omega) hscale
  · exact Nat.mul_lt_mul_of_pos_right (by split <;> omega) hscale
  · exact Nat.mul_lt_mul_of_pos_right (by omega) hscale

theorem zpow_mul_pow_toNat :
    (2 : ℚ) ^ exponent * 2 ^ (2 - exponent).toNat = 4 * 2 ^ (exponent - 2).toNat := by
  have h := zpow_eq_div 2 (exponent - 2)
  rw [neg_sub, zpow_sub₀ (by norm_num)] at h
  field_simp at h
  norm_num at h
  linarith

/-- How far the range of a mantissa reaches down, in units of its last place: numbers lie
closer below the least mantissa that fills the places, unless they are the least. -/
def reach (mantissa : ℕ) (exponent : ℤ) : ℚ :=
  if mantissa = leastNormal ∧ exponent > leastExponent then 1 / 4 else 1 / 2

/-- To the range belong the reals up to half way to the next numbers, and the ends of it
if the mantissa is even. -/
theorem of_has_iff (hm : 0 < mantissa) (x : ℚ) :
    (Range.of mantissa exponent).Has x ↔
      if mantissa % 2 = 0 then
        (mantissa - reach mantissa exponent) * 2 ^ exponent ≤ x ∧
          x ≤ (mantissa + 1 / 2) * 2 ^ exponent
      else
        (mantissa - reach mantissa exponent) * 2 ^ exponent < x ∧
          x < (mantissa + 1 / 2) * 2 ^ exponent := by
  have hunit := zpow_mul_pow_toNat exponent
  have hpos : (0 : ℚ) < 2 ^ (2 - exponent).toNat := by positivity
  have hlow : ((Range.of mantissa exponent).low : ℚ) =
      (mantissa - reach mantissa exponent) * 2 ^ exponent * 2 ^ (2 - exponent).toNat := by
    rw [mul_assoc, hunit, reach]
    simp only [Range.of, Nat.pow_eq, ← Bool.decide_and, decide_eq_true_eq]
    split <;>
    · rw [Nat.cast_mul, Nat.cast_sub (by omega)]
      push_cast
      ring
  have hhigh : ((Range.of mantissa exponent).high : ℚ) =
      (mantissa + 1 / 2) * 2 ^ exponent * 2 ^ (2 - exponent).toNat := by
    rw [mul_assoc, hunit]
    simp only [Range.of, Nat.pow_eq]
    push_cast
    ring
  have hdenominator : ((Range.of mantissa exponent).denominator : ℚ) =
      2 ^ (2 - exponent).toNat := by
    simp only [Range.of, Nat.pow_eq]
    push_cast
    rfl
  rw [Has, hlow, hhigh, hdenominator, mul_le_mul_iff_of_pos_right hpos,
    mul_le_mul_iff_of_pos_right hpos, mul_lt_mul_iff_of_pos_right hpos,
    mul_lt_mul_iff_of_pos_right hpos]
  simp only [Range.of, beq_iff_eq]

theorem of_center (mantissa : ℕ) :
    (Range.of mantissa exponent).center = mantissa * 2 ^ exponent := by
  have hpos : (0 : ℚ) < 2 ^ (2 - exponent).toNat := by positivity
  simp only [center, Range.of, Nat.pow_eq]
  push_cast
  rw [div_eq_iff hpos.ne', mul_assoc _ ((2 : ℚ) ^ exponent), zpow_mul_pow_toNat]
  ring

/-- Seventeen digits suffice: two places below the ceiling at most is the first, and on the
grid of the seventeenth the range of a number has a point. -/
theorem of_wide (hm : 0 < mantissa) (hbound : mantissa < 2 ^ 53) :
    let range := Range.of mantissa exponent
    (10 : ℚ) ^ (range.ceiling - 19) * range.denominator < range.high - range.low := by
  intro range
  have hwide : range.high + 10 ^ 17 * range.low < 10 ^ 17 * range.high := by
    have hscale : 0 < 2 ^ (exponent - 2).toNat := Nat.two_pow_pos _
    simp only [range, Range.of, Nat.pow_eq]
    rw [← mul_assoc, ← mul_assoc, ← add_mul]
    exact Nat.mul_lt_mul_of_pos_right (by split <;> omega) hscale
  have hproper := of_proper exponent hm
  have hceiling := (ceiling_bounds (hproper.low_pos.trans (hproper.low_lt.trans hproper.lt_high))
    hproper.denominator_pos).1
  have hstep : (10 : ℚ) ^ (range.ceiling - 19) * 10 ^ 17 = 10 ^ (range.ceiling - 2) := by
    rw [← zpow_natCast, ← zpow_add₀ (by norm_num)]
    congr 1
    push_cast
    ring
  have hwide' : (range.high : ℚ) + 10 ^ 17 * range.low < 10 ^ 17 * range.high := by
    exact_mod_cast hwide
  change (10 : ℚ) ^ (range.ceiling - 2) * range.denominator ≤ range.high at hceiling
  rw [← hstep] at hceiling
  linarith

end Range

/-- The shortest decimal of a number that a mantissa of 53 bits and an exponent make up. -/
theorem shortest_exact {mantissa : ℕ} (exponent : ℤ) (hm : 0 < mantissa)
    (hbound : mantissa < 2 ^ 53) :
    (Range.of mantissa exponent).IsShortest (shortest mantissa exponent) := by
  have hproper := Range.of_proper exponent hm
  obtain ⟨m, hm'⟩ := Range.exists_has_of_wide hproper.denominator_pos
    (Range.of_wide exponent hm hbound)
  obtain ⟨decimal, hsearch, hshortest⟩ := hproper.search_exact maxTries
    (Range.of mantissa exponent).ceiling (fun e he => hproper.not_has_above he.le)
    ⟨19, by decide, m, by exact_mod_cast hm'⟩
  rw [shortest, hsearch]
  exact hshortest

end GridSetup.Decimal
