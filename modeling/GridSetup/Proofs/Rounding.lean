import GridSetup.Proofs.Binary64

/-! # Rounding to the nearest floating-point number -/

namespace GridSetup.Binary64

open Float.Model Float.Model.UnpackedFloat

/-- The number of multiples of 2ᵏ that comes nearest, the even one halfway between two. -/
def nearest (n k : Nat) : Nat :=
  n / 2 ^ k +
    if 2 ^ k < 2 * (n % 2 ^ k) ∨ 2 * (n % 2 ^ k) = 2 ^ k ∧ n / 2 ^ k % 2 = 1 then 1 else 0

theorem nearest_bounds (n k : Nat) : n / 2 ^ k ≤ nearest n k ∧ nearest n k ≤ n / 2 ^ k + 1 := by
  unfold nearest
  split <;> omega

@[simp] theorem nearest_zero (n : Nat) : nearest n 0 = n := by
  simp [nearest, Nat.mod_one]

theorem nearest_mono {m n : Nat} (h : m ≤ n) (k : Nat) : nearest m k ≤ nearest n k := by
  rcases Nat.lt_or_eq_of_le (Nat.div_le_div_right (c := 2 ^ k) h) with hlt | heq
  · have hm := (nearest_bounds m k).2
    have hn := (nearest_bounds n k).1
    omega
  · have hmod : m % 2 ^ k ≤ n % 2 ^ k := by
      have hm := Nat.div_add_mod m (2 ^ k)
      have hn := Nat.div_add_mod n (2 ^ k)
      rw [heq] at hm
      omega
    unfold nearest
    rw [heq]
    split <;> split <;> omega

theorem nearest_scale (n k j : Nat) : nearest (n * 2 ^ j) (k + j) = nearest n k := by
  have hpos := Nat.two_pow_pos j
  have hdiv : n * 2 ^ j / 2 ^ (k + j) = n / 2 ^ k := by
    rw [Nat.pow_add, Nat.mul_div_mul_right _ _ hpos]
  have hmod : n * 2 ^ j % 2 ^ (k + j) = n % 2 ^ k * 2 ^ j := by
    rw [Nat.pow_add, Nat.mul_mod_mul_right]
  have hlt : 2 ^ (k + j) < 2 * (n * 2 ^ j % 2 ^ (k + j)) ↔ 2 ^ k < 2 * (n % 2 ^ k) := by
    rw [hmod, Nat.pow_add, ← Nat.mul_assoc, Nat.mul_lt_mul_right hpos]
  have heq : 2 * (n * 2 ^ j % 2 ^ (k + j)) = 2 ^ (k + j) ↔ 2 * (n % 2 ^ k) = 2 ^ k := by
    rw [hmod, Nat.pow_add, ← Nat.mul_assoc, Nat.mul_left_inj hpos.ne']
  simp only [nearest, hdiv, hlt, heq]

/-! ## Shifting -/

/-- The round bit and the sticky bit tell how the dropped part compares with one half. -/
theorem shiftRight_eq (n k : Nat) :
    (⟨n, false, false⟩ : ExtendedMantissa) >>> k =
      ⟨n / 2 ^ k, decide (2 ^ k ≤ 2 * (n % 2 ^ k)),
        decide (2 * (n % 2 ^ k) ≠ 0 ∧ 2 * (n % 2 ^ k) ≠ 2 ^ k)⟩ := by
  induction k with
  | zero =>
    change (⟨n, false, false⟩ : ExtendedMantissa) = _
    simp [Nat.mod_one]
  | succ k ih =>
    change ((⟨n, false, false⟩ : ExtendedMantissa) >>> k).shiftRightOne = _
    rw [ih, ExtendedMantissa.shiftRightOne, Nat.mod_pow_succ, Nat.pow_succ,
      ← Nat.div_div_eq_div_mul]
    have hlt := Nat.mod_lt n (Nat.two_pow_pos k)
    -- the bit that is dropped is the new round bit, the old one goes into the sticky bit
    rcases Nat.mod_two_eq_zero_or_one (n / 2 ^ k) with hbit | hbit <;>
      simp only [hbit, ExtendedMantissa.mk.injEq, true_and, Nat.mul_zero, Nat.mul_one] <;>
      grind

theorem roundedMantissa_shiftRight (n k : Nat) :
    ((⟨n, false, false⟩ : ExtendedMantissa) >>> k).roundedMantissa = nearest n k := by
  rw [shiftRight_eq, ExtendedMantissa.roundedMantissa, nearest]
  have hpos := Nat.two_pow_pos k
  rcases lt_trichotomy (2 * (n % 2 ^ k)) (2 ^ k) with hlt | heq | hgt
  · rw [decide_eq_false (Nat.not_le.mpr hlt), if_neg (by omega)]
    cases decide (2 * (n % 2 ^ k) ≠ 0 ∧ 2 * (n % 2 ^ k) ≠ 2 ^ k) <;> rfl
  · rw [decide_eq_true heq.ge, decide_eq_false fun h => h.2 heq]
    change n / 2 ^ k + n / 2 ^ k % 2 = _
    split <;> omega
  · rw [decide_eq_true hgt.le, decide_eq_true ⟨by omega, hgt.ne'⟩, if_pos (.inl hgt)]
    rfl

/-! ## Rounding to 53 bits -/

/-- The number of bits of a magnitude that find no room in a mantissa. -/
def excess (n : Nat) : Nat := n.log2 - 52

theorem div_excess_lt (n : Nat) : n / 2 ^ excess n < 2 ^ 53 := by
  rw [Nat.div_lt_iff_lt_mul (Nat.two_pow_pos _), ← Nat.pow_add]
  exact Nat.lt_log2_self.trans_le (Nat.pow_le_pow_right (by decide) (by rw [excess]; omega))

theorem le_div_excess {n : Nat} (h : 52 ≤ n.log2) : 2 ^ 52 ≤ n / 2 ^ excess n := by
  have hn : n ≠ 0 := by
    rintro rfl
    contradiction
  rw [Nat.le_div_iff_mul_le (Nat.two_pow_pos _), ← Nat.pow_add, excess, Nat.add_sub_cancel' h]
  exact Nat.log2_self_le hn

/-- The magnitude rounded to 53 bits. -/
def settle (n : Nat) : Nat := nearest n (excess n) * 2 ^ excess n

theorem log2_mul_pow {n : Nat} (h : 0 < n) (j : Nat) : (n * 2 ^ j).log2 = n.log2 + j := by
  rw [Nat.log2_eq_iff (Nat.mul_pos h (Nat.two_pow_pos j)).ne', Nat.add_right_comm, Nat.pow_add,
    Nat.pow_add]
  exact ⟨Nat.mul_le_mul_right _ (Nat.log2_self_le h.ne'),
    Nat.mul_lt_mul_of_pos_right Nat.lt_log2_self (Nat.two_pow_pos j)⟩

/-- Rounding does not depend on the scale, as long as 53 bits are used. -/
theorem settle_mul_pow {n j : Nat} (h : 0 < n) (hfull : 52 ≤ n.log2 ∨ j = 0) :
    settle (n * 2 ^ j) = nearest n (excess n) * 2 ^ (excess n + j) := by
  have hexcess : excess (n * 2 ^ j) = excess n + j := by
    rw [excess, excess, log2_mul_pow h]
    omega
  rw [settle, hexcess, nearest_scale]

theorem settle_mono {m n : Nat} (h : m ≤ n) : settle m ≤ settle n := by
  have hexcess : excess m ≤ excess n := by
    rw [excess, excess, Nat.log2_eq_log_two, Nat.log2_eq_log_two]
    exact Nat.sub_le_sub_right (Nat.log_mono_right h) 52
  rcases Nat.lt_or_eq_of_le hexcess with hlt | heq
  · -- a power of two lies between the results
    have hm : nearest m (excess m) ≤ 2 ^ 53 := (nearest_bounds m _).2.trans (div_excess_lt m)
    have hn : 2 ^ 52 ≤ nearest n (excess n) :=
      (le_div_excess (by rw [excess, excess] at hlt; omega)).trans (nearest_bounds n _).1
    calc settle m ≤ 2 ^ 53 * 2 ^ excess m := Nat.mul_le_mul_right _ hm
      _ = 2 ^ 52 * 2 ^ (excess m + 1) := by ring
      _ ≤ settle n := Nat.mul_le_mul hn (Nat.pow_le_pow_right (by decide) hlt)
  · rw [settle, settle, heq]
    exact Nat.mul_le_mul_right _ (nearest_mono h _)

theorem settle_pos {n : Nat} (h : 0 < n) : 0 < settle n :=
  (by decide : 0 < settle 1).trans_le (settle_mono h)

/-- Shifting drops the bits in excess, if the exponent is as small as it may be. -/
theorem shiftToTargetExponent_eq {m : Nat} {e : Int} (hleast : -1074 ≤ e)
    (hfull : 52 ≤ m.log2 ∨ e = -1074) :
    shiftToTargetExponent .binary64 m e .exact =
      ((⟨m, false, false⟩ : ExtendedMantissa) >>> excess m, e + excess m) := by
  have htarget : Format.binary64.targetExponent (totalExponent m e) = e + excess m := by
    rw [Format.targetExponent, totalExponent, excess,
      show (Format.binary64.mantissaBits : Int) = 53 from rfl,
      show Format.binary64.minExponent = -1074 from rfl]
    omega
  rw [shiftToTargetExponent, shiftToExponent, htarget]
  have hamount : (e + excess m - e).toNat = excess m := by omega
  rw [hamount]
  rfl

/-- What is rounded up to one bit more is a power of two, so nothing is lost when it
is shifted once more. -/
theorem div_excess_mul {n : Nat} (h : n ≤ 2 ^ 53) : n / 2 ^ excess n * 2 ^ excess n = n := by
  rcases Nat.lt_or_eq_of_le h with hlt | rfl
  · have hexcess : excess n = 0 := by
      rcases Nat.eq_zero_or_pos n with rfl | hpos
      · rfl
      · have := (Nat.log2_lt hpos.ne').mpr hlt
        rw [excess]
        omega
    rw [hexcess, Nat.pow_zero, Nat.div_one, Nat.mul_one]
  · rfl

/-- A number with a full mantissa, or with the least exponent, is rounded to one that
is in canonical form again. -/
theorem roundWithAccuracy_eq {sign : Sign} {m : Nat} {e : Int} (hpos : 0 < m)
    (hleast : -1074 ≤ e) (hfull : 52 ≤ m.log2 ∨ e = -1074) :
    ∃ m' e' hpos', roundWithAccuracy .binary64 sign m e .exact = .finite sign m' e' hpos' ∧
      Canonical m' e' ∧ magnitude m' e' = settle (magnitude m e) := by
  have hbounds := nearest_bounds m (excess m)
  have hcarry := div_excess_mul (hbounds.2.trans (div_excess_lt m))
  have hq : 0 < nearest m (excess m) := by
    have := settle_pos hpos
    rw [settle] at this
    exact Nat.pos_of_mul_pos_right this
  have hfull' : 52 ≤ (nearest m (excess m)).log2 ∨ e + excess m = -1074 := by
    by_cases hlog : 52 ≤ m.log2
    · exact .inl ((Nat.le_log2 hq.ne').mpr ((le_div_excess hlog).trans hbounds.1))
    · exact .inr (by rw [excess]; omega)
  have hscaled : settle (magnitude m e) =
      nearest m (excess m) * 2 ^ (excess m + (e + 1074).toNat) :=
    settle_mul_pow hpos (hfull.imp_right (by omega))
  rw [roundWithAccuracy, shiftToTargetExponent_eq hleast hfull]
  dsimp only
  rw [roundedMantissa_shiftRight, shiftToTargetExponent_eq (by omega) hfull', shiftRight_eq]
  dsimp only
  generalize nearest m (excess m) = q at *
  have hpos' : 0 < q / 2 ^ excess q := Nat.pos_of_mul_pos_right (hcarry.symm ▸ hq)
  rw [dif_neg hpos'.ne']
  refine ⟨_, _, hpos', rfl, ⟨div_excess_lt q, by omega, ?_⟩, ?_⟩
  · by_cases hlog : 52 ≤ q.log2
    · exact .inl (le_div_excess hlog)
    · exact .inr (by rw [excess.eq_def q]; omega)
  · have hexponent : (e + excess m + excess q + 1074).toNat =
        excess q + (excess m + (e + 1074).toNat) := by omega
    rw [hscaled, magnitude, hexponent, Nat.pow_add, ← Nat.mul_assoc, hcarry]

theorem magnitude_shift (m : Nat) {e : Int} {a : Nat} (h : -1074 ≤ e - a) :
    magnitude (m * 2 ^ a) (e - a) = magnitude m e := by
  have hexponent : (e + 1074).toNat = a + (e - a + 1074).toNat := by omega
  rw [magnitude, magnitude, hexponent, Nat.pow_add, Nat.mul_assoc]

theorem round_eq (sign : Sign) {m : Nat} {e : Int} (hpos : 0 < m) (hleast : -1074 ≤ e) :
    ∃ m' e' hpos', UnpackedFloat.round .binary64 sign m e = .finite sign m' e' hpos' ∧
      Canonical m' e' ∧ magnitude m' e' = settle (magnitude m e) := by
  obtain ⟨t, ht⟩ : ∃ t, t = Format.binary64.targetExponent (totalExponent m e) := ⟨_, rfl⟩
  have htarget : t = max (m.log2 + 1 + e - 53) (-1074) := ht
  have hshift : -1074 ≤ e - (e - t).toNat := by omega
  rw [UnpackedFloat.round, ← ht, decreaseExponent]
  dsimp only
  rw [Nat.shiftLeft_eq, ← magnitude_shift m hshift]
  refine roundWithAccuracy_eq (Nat.mul_pos hpos (Nat.two_pow_pos _)) hshift ?_
  rw [log2_mul_pow hpos]
  omega

/-! ## What is stored -/

/-- The magnitude of a number that is rounded and stored. -/
def bounded (n : Nat) : Nat := if settle n < overflow then settle n else infinite

/-- What a whole number of units counts for once it is rounded and stored. -/
def rounded (n : Int) : Int := n.sign * bounded n.natAbs

theorem Canonical.le_iff {m : Nat} {e : Int} (h : Canonical m e) :
    e ≤ 971 ↔ magnitude m e < overflow := by
  refine ⟨h.magnitude_lt, fun hlt => Int.not_lt.mp fun hmax => Nat.not_lt.mpr ?_ hlt⟩
  have hspan : span + 1 ≤ (e + 1074).toNat := by
    rw [span]
    omega
  calc overflow = 2 ^ 52 * 2 ^ (span + 1) := by rw [overflow]; ring
    _ ≤ magnitude m e :=
      Nat.mul_le_mul (h.filled.resolve_right (by omega)) (Nat.pow_le_pow_right (by decide) hspan)

theorem Canonical.settle_magnitude {m : Nat} {e : Int} (h : Canonical m e) (hpos : 0 < m) :
    settle (magnitude m e) = magnitude m e := by
  have hlog := (Nat.log2_lt hpos.ne').mpr h.bounded
  have hexcess : excess m = 0 := by rw [excess]; omega
  have hfull : 52 ≤ m.log2 ∨ (e + 1074).toNat = 0 :=
    h.filled.imp (Nat.le_log2 hpos.ne').mpr (by omega)
  rw [magnitude, settle_mul_pow hpos hfull, hexcess, nearest_zero, Nat.zero_add]

theorem count_store_finite (sign : Sign) {m : Nat} {e : Int} {hpos : 0 < m} {n : Nat}
    (h : Canonical m e) (hsettle : magnitude m e = settle n) :
    count (store (.finite sign m e hpos)) = some (sign.apply (bounded n)) := by
  rw [store, bounded, ← hsettle]
  by_cases hmax : e ≤ 971
  · rw [if_pos hmax, if_pos (h.le_iff.mp hmax), count]
  · rw [if_neg hmax, if_neg (h.le_iff.not.mp hmax), count]

theorem bounded_of_overflow {n : Nat} (h : overflow ≤ n) : bounded n = infinite := by
  have hpower : settle overflow = overflow := by
    rw [overflow, settle_mul_pow (by decide) (.inl (by decide)),
      show nearest (2 ^ 53) (excess (2 ^ 53)) = 2 ^ 52 from by decide,
      show excess (2 ^ 53) = 1 from by decide]
    ring
  rw [bounded, if_neg (Nat.not_lt.mpr (hpower ▸ settle_mono h))]

theorem bounded_mono {m n : Nat} (h : m ≤ n) : bounded m ≤ bounded n := by
  have hsettle := settle_mono h
  have hinfinite : infinite = 4 * overflow := rfl
  unfold bounded
  split <;> split <;> omega

theorem bounded_pos {n : Nat} (h : 0 < n) : 0 < bounded n := by
  have hsettle := settle_pos h
  have hpos := overflow_pos
  have hinfinite : infinite = 4 * overflow := rfl
  unfold bounded
  split <;> omega

theorem bounded_zero : bounded 0 = 0 := by
  rw [bounded, show settle 0 = 0 from rfl, if_pos overflow_pos]

theorem rounded_natCast (n : Nat) : rounded n = bounded n := by
  rcases Nat.eq_zero_or_pos n with rfl | hpos
  · rw [bounded_zero, rounded, Int.natCast_zero, Int.sign_zero, zero_mul]
  · rw [rounded, Int.sign_eq_one_of_pos (by omega), one_mul, Int.natAbs_natCast]

@[simp] theorem rounded_zero : rounded 0 = 0 := by
  rw [← Int.natCast_zero, rounded_natCast, bounded_zero]

theorem rounded_of_overflow {n : Int} (h : overflow ≤ n) : rounded n = infinite := by
  lift n to Nat using (Int.natCast_nonneg overflow).trans h
  rw [rounded_natCast, bounded_of_overflow (Int.ofNat_le.mp h)]

@[simp] theorem rounded_neg (n : Int) : rounded (-n) = -rounded n := by
  rw [rounded, Int.sign_neg, Int.natAbs_neg, rounded, neg_mul]

theorem rounded_apply (sign : Sign) (n : Nat) :
    rounded (sign.apply n) = sign.apply (bounded n) := by
  cases sign
  · exact (rounded_neg n).trans (congrArg _ (rounded_natCast n))
  · exact rounded_natCast n

theorem rounded_mono {m n : Int} (h : m ≤ n) : rounded m ≤ rounded n := by
  obtain ⟨k, rfl | rfl⟩ := m.eq_nat_or_neg <;> obtain ⟨l, rfl | rfl⟩ := n.eq_nat_or_neg <;>
    simp only [rounded_neg, rounded_natCast]
  · exact Int.ofNat_le.mpr (bounded_mono (Int.ofNat_le.mp h))
  · obtain rfl : k = 0 := by omega
    obtain rfl : l = 0 := by omega
    rw [bounded_zero]
    rfl
  · omega
  · exact Int.neg_le_neg (Int.ofNat_le.mpr (bounded_mono (by omega)))

/-- Underflow is gradual: a difference is rounded to zero only if it is zero. -/
theorem rounded_pos_iff (n : Int) : 0 < rounded n ↔ 0 < n := by
  constructor
  · intro h
    by_contra hle
    have := rounded_mono (Int.not_lt.mp hle)
    rw [rounded_zero] at this
    omega
  · intro h
    lift n to Nat using h.le
    rw [rounded_natCast]
    exact Int.ofNat_lt.mpr (bounded_pos (Int.ofNat_lt.mp h))

end GridSetup.Binary64
