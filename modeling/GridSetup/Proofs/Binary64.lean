import Mathlib

/-! # Floating-point numbers as whole numbers

The smallest positive number of binary64 is 2⁻¹⁰⁷⁴, and every finite number is a whole
multiple of it. Counted in this unit, numbers are compared as integers. The infinities
count as integers too, which lie so far out that the difference of an infinity and a
finite number cannot be mistaken for a finite one. -/

namespace GridSetup.Binary64

open Float.Model Float.Model.UnpackedFloat

/-- The mantissa fills 53 bits, unless the exponent is the least one. -/
structure Canonical (mantissa : Nat) (exponent : Int) : Prop where
  bounded : mantissa < 2 ^ 53
  least : -1074 ≤ exponent
  filled : 2 ^ 52 ≤ mantissa ∨ exponent = -1074

/-- The magnitude of a number, counted in units of 2⁻¹⁰⁷⁴. -/
def magnitude (mantissa : Nat) (exponent : Int) : Nat :=
  mantissa * 2 ^ (exponent + 1074).toNat

/-- The number of exponents above the least one. -/
def span : Nat := 2045

/-- The first magnitude beyond those of the finite numbers. -/
def overflow : Nat := 2 ^ 53 * 2 ^ span

/-- The magnitude that stands for infinity. -/
def infinite : Nat := 4 * overflow

/-- What a number counts for, if it is one. -/
def count : UnpackedFloat → Option Int
  | .notANumber => none
  | .infinity sign => some (sign.apply infinite)
  | .zero _ => some 0
  | .finite sign mantissa exponent _ => some (sign.apply (magnitude mantissa exponent))

/-- The number of units a floating-point number counts for. -/
def units (x : Float) : Option Int := count x.toModel.unpack

/-- A number as it is after it was rounded, before it is stored. -/
def Rounded : UnpackedFloat → Prop
  | .finite _ mantissa exponent _ => Canonical mantissa exponent
  | _ => True

/-- A number as it can be stored. -/
def Stored : UnpackedFloat → Prop
  | .finite _ mantissa exponent _ => Canonical mantissa exponent ∧ exponent ≤ 971
  | _ => True

/-! ## Comparing -/

theorem overflow_pos : 0 < overflow :=
  Nat.mul_pos (Nat.two_pow_pos 53) (Nat.two_pow_pos span)

theorem magnitude_pos {mantissa : Nat} (h : 0 < mantissa) (exponent : Int) :
    0 < magnitude mantissa exponent :=
  Nat.mul_pos h (Nat.two_pow_pos _)

theorem Canonical.magnitude_lt {mantissa : Nat} {exponent : Int}
    (h : Canonical mantissa exponent) (hmax : exponent ≤ 971) :
    magnitude mantissa exponent < overflow := by
  have hspan : (exponent + 1074).toNat ≤ span := by
    rw [span]
    omega
  calc magnitude mantissa exponent
      < 2 ^ 53 * 2 ^ (exponent + 1074).toNat :=
        Nat.mul_lt_mul_of_pos_right h.bounded (Nat.two_pow_pos _)
    _ ≤ overflow := Nat.mul_le_mul_left _ (Nat.pow_le_pow_right (by decide) hspan)

/-- A greater exponent makes up for any mantissa. -/
theorem Canonical.magnitude_lt_of_exponent {mantissa mantissa' : Nat} {exponent exponent' : Int}
    (h : Canonical mantissa exponent) (h' : Canonical mantissa' exponent')
    (hlt : exponent < exponent') :
    magnitude mantissa exponent < magnitude mantissa' exponent' := by
  have hleast := h.least
  have hfilled : 2 ^ 52 ≤ mantissa' := h'.filled.resolve_right (by omega)
  obtain ⟨k, hk⟩ : ∃ k, (exponent' + 1074).toNat = (exponent + 1074).toNat + 1 + k :=
    ⟨(exponent' - exponent - 1).toNat, by omega⟩
  calc magnitude mantissa exponent
      < 2 ^ 53 * 2 ^ (exponent + 1074).toNat :=
        Nat.mul_lt_mul_of_pos_right h.bounded (Nat.two_pow_pos _)
    _ = 2 ^ 52 * 2 ^ ((exponent + 1074).toNat + 1) := by ring
    _ ≤ mantissa' * 2 ^ (exponent' + 1074).toNat :=
        Nat.mul_le_mul hfilled (Nat.pow_le_pow_right (by decide) (by omega))

theorem Canonical.compare_magnitude {mantissa mantissa' : Nat} {exponent exponent' : Int}
    (h : Canonical mantissa exponent) (h' : Canonical mantissa' exponent') :
    compare (magnitude mantissa exponent : Int) (magnitude mantissa' exponent') =
      (compare exponent exponent').then (compare mantissa mantissa') := by
  rcases lt_trichotomy exponent exponent' with hlt | rfl | hgt
  · rw [compare_lt_iff_lt.mpr hlt, compare_lt_iff_lt.mpr
      (Int.ofNat_lt.mpr (h.magnitude_lt_of_exponent h' hlt))]
    rfl
  · rw [compare_eq_iff_eq.mpr rfl]
    have hpow := Nat.two_pow_pos (exponent + 1074).toNat
    rcases lt_trichotomy mantissa mantissa' with hlt | rfl | hgt
    · rw [compare_lt_iff_lt.mpr hlt]
      exact compare_lt_iff_lt.mpr (Int.ofNat_lt.mpr (Nat.mul_lt_mul_of_pos_right hlt hpow))
    · simp
    · rw [compare_gt_iff_gt.mpr hgt]
      exact compare_gt_iff_gt.mpr (Int.ofNat_lt.mpr (Nat.mul_lt_mul_of_pos_right hgt hpow))
  · rw [compare_gt_iff_gt.mpr hgt, compare_gt_iff_gt.mpr
      (Int.ofNat_lt.mpr (h'.magnitude_lt_of_exponent h hgt))]
    rfl

theorem Stored.magnitude_bounds {sign : Sign} {mantissa : Nat} {exponent : Int}
    {hpos : 0 < mantissa} (h : Stored (.finite sign mantissa exponent hpos)) :
    0 < magnitude mantissa exponent ∧ magnitude mantissa exponent < overflow :=
  ⟨magnitude_pos hpos exponent, h.1.magnitude_lt h.2⟩

theorem apply_bounds (sign : Sign) (n : Nat) : -(n : Int) ≤ sign.apply n ∧ sign.apply n ≤ n := by
  cases sign <;> simp only [Sign.apply] <;> omega

theorem compare_neg_neg (m n : Int) : compare (-m) (-n) = (compare m n).swap := by
  rcases lt_trichotomy m n with h | rfl | h
  · rw [compare_lt_iff_lt.mpr h, compare_gt_iff_gt.mpr (neg_lt_neg h)]
    rfl
  · simp
  · rw [compare_gt_iff_gt.mpr h, compare_lt_iff_lt.mpr (neg_lt_neg h)]
    rfl

/-- Stored numbers are compared by what they count for. -/
theorem compare_eq {x y : UnpackedFloat} (hx : Stored x) (hy : Stored y) :
    x.compare y = (count x).bind fun m => (count y).map fun n => compare m n := by
  have hlt : ∀ {m n : Int}, m < n → some Ordering.lt = some (compare m n) := fun h =>
    congrArg some (compare_lt_iff_lt.mpr h).symm
  have hgt : ∀ {m n : Int}, n < m → some Ordering.gt = some (compare m n) := fun h =>
    congrArg some (compare_gt_iff_gt.mpr h).symm
  have hinfinite : infinite = 4 * overflow := rfl
  have hpos := overflow_pos
  rcases x with s | _ | s | ⟨s, m, e, hm⟩ <;> rcases y with s' | _ | s' | ⟨s', m', e', hm'⟩
  case infinity.infinity =>
    cases s <;> cases s'
    · exact congrArg some (compare_eq_iff_eq.mpr rfl).symm
    · exact hlt (by simp only [Sign.apply]; omega)
    · exact hgt (by simp only [Sign.apply]; omega)
    · exact congrArg some (compare_eq_iff_eq.mpr rfl).symm
  case infinity.zero =>
    cases s
    · exact hlt (by simp only [Sign.apply]; omega)
    · exact hgt (by simp only [Sign.apply]; omega)
  case zero.infinity =>
    cases s'
    · exact hgt (by simp only [Sign.apply]; omega)
    · exact hlt (by simp only [Sign.apply]; omega)
  case infinity.finite =>
    have h' := hy.magnitude_bounds
    have hsign := apply_bounds s' (magnitude m' e')
    cases s
    · exact hlt (by simp only [Sign.apply] at hsign ⊢; omega)
    · exact hgt (by simp only [Sign.apply] at hsign ⊢; omega)
  case finite.infinity =>
    have h := hx.magnitude_bounds
    have hsign := apply_bounds s (magnitude m e)
    cases s'
    · exact hgt (by simp only [Sign.apply] at hsign ⊢; omega)
    · exact hlt (by simp only [Sign.apply] at hsign ⊢; omega)
  case zero.finite =>
    have h' := hy.magnitude_bounds
    cases s'
    · exact hgt (by simp only [Sign.apply]; omega)
    · exact hlt (by simp only [Sign.apply]; omega)
  case finite.zero =>
    have h := hx.magnitude_bounds
    cases s
    · exact hlt (by simp only [Sign.apply]; omega)
    · exact hgt (by simp only [Sign.apply]; omega)
  case finite.finite =>
    have h := hx.magnitude_bounds
    have h' := hy.magnitude_bounds
    have heq := hx.1.compare_magnitude hy.1
    cases s <;> cases s'
    · exact congrArg some ((congrArg _ heq.symm).trans (compare_neg_neg _ _).symm)
    · exact hlt (by simp only [Sign.apply]; omega)
    · exact hgt (by simp only [Sign.apply]; omega)
    · exact congrArg some heq.symm
  all_goals rfl

/-! ## Storing -/

/-- A number as it is after it was stored: one with too great an exponent is infinite. -/
def store : UnpackedFloat → UnpackedFloat
  | .finite sign mantissa exponent hpos =>
    if exponent ≤ 971 then .finite sign mantissa exponent hpos else .infinity sign
  | number => number

/-- The number with the given fields. -/
def ofFields (sign : Sign) (exponent : BitVec 11) (mantissa : BitVec 52) : UnpackedFloat :=
  if exponent = -1#11 then
    if mantissa = 0#52 then .infinity sign else .notANumber
  else if exponent = 0#11 then
    if h : mantissa = 0#52 then .zero sign
    else .finite sign mantissa.toNat (-1074)
      (Nat.pos_of_ne_zero fun hzero => h (BitVec.eq_of_toNat_eq hzero))
  else .finite sign (2 ^ 52 + mantissa.toNat) (exponent.toNat - 1075) (by omega)

theorem toNat_withImplicit (mantissa : BitVec 52) :
    (1#1 ++ mantissa).toNat = 2 ^ 52 + mantissa.toNat := by
  rw [BitVec.toNat_append, ← Nat.shiftLeft_add_eq_or_of_lt mantissa.isLt]
  rfl

theorem unpack_eq_ofFields (word : BitVec 64) :
    UnpackedFloat.unpack .binary64 word =
      ofFields (Sign.ofBitVec (@unpackSign .binary64 word)) (@unpackExponent .binary64 word)
        (@unpackMantissa .binary64 word) := by
  rw [UnpackedFloat.unpack, ofFields]
  simp only [toNat_withImplicit]
  generalize @unpackExponent .binary64 word = exponent
  by_cases hmax : exponent = -1#11
  · rw [if_pos hmax, if_pos hmax]
  rw [if_neg hmax, if_neg hmax]
  by_cases hzero : exponent = 0#11
  · subst hzero
    rfl
  · rw [if_neg hzero, if_neg hzero]
    rfl

theorem unpack_packComponents (sign : Sign) (exponent : BitVec 11) (mantissa : BitVec 52) :
    UnpackedFloat.unpack .binary64 (packComponents .binary64 sign exponent mantissa) =
      ofFields sign exponent mantissa := by
  rw [unpack_eq_ofFields, unpackExponent_packComponents, unpackMantissa_packComponents,
    unpackSign_packComponents, Sign.ofBitVec_toBitVec]

theorem stored_ofFields (sign : Sign) (exponent : BitVec 11) (mantissa : BitVec 52) :
    Stored (ofFields sign exponent mantissa) := by
  have hm := mantissa.isLt
  have he := exponent.isLt
  unfold ofFields
  split
  · split <;> trivial
  rename_i hmax
  split
  · split
    · trivial
    · exact ⟨⟨by omega, by omega, .inr rfl⟩, by omega⟩
  · rename_i hzero
    have hpos : exponent.toNat ≠ 0 := fun h => hzero (BitVec.eq_of_toNat_eq h)
    have hlt : exponent.toNat ≠ 2047 := fun h => hmax (BitVec.eq_of_toNat_eq h)
    exact ⟨⟨by omega, by omega, .inl (by omega)⟩, by omega⟩

theorem unpack_stored (number : Float.Model) : Stored number.unpack := by
  rw [Float.Model.unpack, unpack_eq_ofFields]
  exact stored_ofFields _ _ _

theorem ofFields_normal {sign : Sign} {exponent : BitVec 11} {mantissa : BitVec 52} {m : Nat}
    {e : Int} {hpos : 0 < m} (he : exponent.toNat = e + 1075) (hm : 2 ^ 52 + mantissa.toNat = m)
    (hleast : -1074 ≤ e) (hmax : e ≤ 971) :
    ofFields sign exponent mantissa = .finite sign m e hpos := by
  subst hm
  obtain rfl : exponent.toNat - 1075 = e := by omega
  have hlt : exponent ≠ -1#11 := by
    rintro rfl
    contradiction
  have hzero : exponent ≠ 0#11 := by
    rintro rfl
    contradiction
  rw [ofFields, if_neg hlt, if_neg hzero]

theorem ofFields_subnormal {sign : Sign} {mantissa : BitVec 52} {m : Nat} {hpos : 0 < m}
    (hm : mantissa.toNat = m) : ofFields sign 0#11 mantissa = .finite sign m (-1074) hpos := by
  subst hm
  have hzero : mantissa ≠ 0#52 := by
    rintro rfl
    contradiction
  exact dif_neg hzero

theorem unpack_pack_finite {sign : Sign} {mantissa : Nat} {exponent : Int} {hpos : 0 < mantissa}
    (h : Canonical mantissa exponent) :
    (Float.Model.pack (.finite sign mantissa exponent hpos)).unpack =
      store (.finite sign mantissa exponent hpos) := by
  obtain ⟨hbounded, hleast, hfilled⟩ := h
  have hbiased : (exponent + (Format.binary64.exponentBias : Nat) + (52 : Nat)).toNat =
      (exponent + 1075).toNat := by
    rw [show Format.binary64.exponentBias = 1023 from rfl]
    omega
  have hfull : mantissa.log2 + 1 = Format.binary64.mantissaBits ↔ 2 ^ 52 ≤ mantissa := by
    rw [show Format.binary64.mantissaBits = 53 from rfl, ← Nat.le_log2 (by omega)]
    have := (Nat.log2_lt (by omega)).mpr hbounded
    omega
  have hroom : 2 ^ Format.binary64.exponentBits = 2048 := rfl
  change UnpackedFloat.unpack .binary64 (UnpackedFloat.pack .binary64 _) = _
  rw [UnpackedFloat.pack, store, hbiased, hroom]
  by_cases hmax : exponent ≤ 971
  · rw [if_pos hmax, if_neg (by omega)]
    by_cases hnormal : 2 ^ 52 ≤ mantissa
    · rw [if_pos (hfull.mpr hnormal), unpack_packComponents]
      refine ofFields_normal ?_ ?_ hleast hmax
      · rw [BitVec.toNat_ofNat, Nat.mod_eq_of_lt (by omega)]
        omega
      · rw [BitVec.toNat_ofNat]
        omega
    · rw [if_neg (hfull.not.mpr hnormal), unpack_packComponents]
      obtain rfl : exponent = -1074 := hfilled.resolve_left hnormal
      exact ofFields_subnormal (Nat.mod_eq_of_lt (Nat.not_le.mp hnormal))
  · rw [if_neg hmax, if_pos (by omega)]
    exact unpack_packComponents sign _ _

theorem unpack_pack {number : UnpackedFloat} (h : Rounded number) :
    (Float.Model.pack number).unpack = store number := by
  cases number with
  | notANumber => exact unpack_packComponents .positive _ _
  | infinity sign => exact unpack_packComponents sign _ _
  | zero sign => exact unpack_packComponents sign _ _
  | finite sign mantissa exponent hpos => exact unpack_pack_finite h

end GridSetup.Binary64
