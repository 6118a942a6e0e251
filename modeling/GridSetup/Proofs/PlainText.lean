import GridSetup.Decimal.Plain
import GridSetup.Proofs.ShortestDecimal
import GridSetup.Proofs.Subtraction

/-! # Plain text denotes the shortest decimal

The text of a decimal stands for just that decimal, with a point exactly if there is
a fraction, and then without a zero at the end. So the text of a number reads back,
and no shorter one does. -/

namespace GridSetup

/-- The number that positional notation stands for. -/
def plainValue (chars : List Char) : ℚ :=
  let whole := chars.takeWhile fun char => char ≠ '.'
  let fraction := chars.drop (whole.length + 1)
  Nat.ofDigitChars 10 (whole ++ fraction) 0 / 10 ^ fraction.length

theorem plainValue_whole {chars : List Char} (h : '.' ∉ chars) :
    plainValue chars = Nat.ofDigitChars 10 chars 0 := by
  have hwhole : chars.takeWhile (fun char => char ≠ '.') = chars :=
    List.takeWhile_eq_self_iff.mpr fun char hc => by
      simpa using fun heq : char = '.' => h (heq ▸ hc)
  have hrest : chars.drop (chars.length + 1) = [] := List.drop_eq_nil_of_le (by omega)
  rw [plainValue, hwhole, hrest]
  simp

theorem plainValue_point {whole : List Char} (h : '.' ∉ whole) (fraction : List Char) :
    plainValue (whole ++ '.' :: fraction) =
      Nat.ofDigitChars 10 (whole ++ fraction) 0 / 10 ^ fraction.length := by
  have hwhole : (whole ++ '.' :: fraction).takeWhile (fun char => char ≠ '.') = whole := by
    rw [List.takeWhile_append_of_pos fun char hc => by
      simpa using fun heq : char = '.' => h (heq ▸ hc)]
    simp
  have hrest : (whole ++ '.' :: fraction).drop (whole.length + 1) = fraction := by
    rw [List.append_cons]
    exact List.drop_left' (by simp)
  rw [plainValue, hwhole, hrest]

namespace Decimal

theorem point_not_mem_digits (n : ℕ) : '.' ∉ Nat.toDigits 10 n := fun h =>
  absurd (Nat.isDigit_of_mem_toDigits (by decide) (by decide) h) (by decide)

theorem point_not_mem_zeros (n : ℕ) : '.' ∉ List.replicate n '0' := fun h =>
  absurd (List.eq_of_mem_replicate h) (by decide)

theorem ofDigitChars_zeros_append (n : ℕ) (digits : List Char) :
    Nat.ofDigitChars 10 (List.replicate n '0' ++ digits) 0 = Nat.ofDigitChars 10 digits 0 := by
  rw [Nat.ofDigitChars_append, Nat.ofDigitChars_replicate_zero, Nat.mul_zero]

/-- The text of a decimal has one of three forms. -/
theorem plain_toList (decimal : Decimal) :
    decimal.plain.toList =
      let digits := Nat.toDigits 10 decimal.significand
      let places := (-decimal.exponent).toNat
      if places = 0 then digits ++ List.replicate decimal.exponent.toNat '0'
      else if digits.length ≤ places then
        ['0'] ++ '.' :: (List.replicate (places - digits.length) '0' ++ digits)
      else digits.take (digits.length - places) ++ '.' :: digits.drop (digits.length - places) := by
  rw [plain, String.toList_ofList]
  rfl

/-- The text of a decimal stands for it. -/
theorem plainValue_plain (decimal : Decimal) :
    plainValue decimal.plain.toList = decimal.value := by
  have hdigits : Nat.ofDigitChars 10 (Nat.toDigits 10 decimal.significand) 0 =
      decimal.significand := Nat.ofDigitChars_toDigits (by decide) (by decide)
  have hpoint := point_not_mem_digits decimal.significand
  rw [plain_toList, value, zpow_eq_div]
  generalize Nat.toDigits 10 decimal.significand = digits at *
  dsimp only
  generalize hplaces : (-decimal.exponent).toNat = places
  have hexclusive : places = 0 ∨ decimal.exponent.toNat = 0 := by omega
  split
  · rename_i hwhole
    rw [plainValue_whole fun h => (List.mem_append.mp h).elim hpoint (point_not_mem_zeros _),
      Nat.ofDigitChars_append, hdigits, Nat.ofDigitChars_replicate_zero, hwhole]
    push_cast
    ring
  rename_i hfraction
  rw [hexclusive.resolve_left hfraction, pow_zero, mul_one_div]
  split
  · rename_i hshort
    rw [plainValue_point (by decide), List.length_append, List.length_replicate,
      Nat.sub_add_cancel hshort]
    change ((Nat.ofDigitChars 10 (List.replicate 1 '0' ++ (_ ++ digits)) 0 : ℕ) : ℚ) / _ = _
    rw [ofDigitChars_zeros_append, ofDigitChars_zeros_append, hdigits]
  · rename_i hlong
    rw [plainValue_point fun h => hpoint (List.mem_of_mem_take h), List.take_append_drop, hdigits,
      List.length_drop, Nat.sub_sub_self (Nat.le_of_not_le hlong)]

/-- There is a point exactly if there is a fraction. -/
theorem point_mem_plain_iff (decimal : Decimal) :
    '.' ∈ decimal.plain.toList ↔ decimal.exponent < 0 := by
  have hpoint := point_not_mem_digits decimal.significand
  rw [plain_toList]
  dsimp only
  split
  · rename_i hwhole
    refine iff_of_false (fun h => ?_) (by omega)
    exact (List.mem_append.mp h).elim hpoint (point_not_mem_zeros _)
  rename_i hfraction
  split <;> exact iff_of_true (by simp) (by omega)

/-- The shortest decimal does not end in a zero, which a coarser grid would save. -/
theorem Range.IsShortest.not_dvd {range : Range} {decimal : Decimal}
    (shortest : range.IsShortest decimal) : ¬10 ∣ decimal.significand := by
  intro h
  obtain ⟨m, hm⟩ := h
  refine shortest.coarsest (decimal.exponent + 1) (by omega) m ?_
  have hvalue : decimal.value = m * 10 ^ (decimal.exponent + 1) := by
    rw [Decimal.value, hm, zpow_add_one₀ (by norm_num)]
    push_cast
    ring
  exact hvalue ▸ shortest.inside

end Decimal

/-! ## The text of a number -/

namespace Binary64

open Float.Model Float.Model.UnpackedFloat

/-- The fields of a word are cut out of its bits. -/
theorem toNat_unpackExponent (word : BitVec 64) :
    (@unpackExponent .binary64 word).toNat = word.toNat / 2 ^ 52 % 2 ^ 11 := by
  rw [unpackExponent, BitVec.toNat_cast, BitVec.extractLsb_toNat, Nat.shiftRight_eq_div_pow]
  rfl

theorem toNat_unpackMantissa (word : BitVec 64) :
    (@unpackMantissa .binary64 word).toNat = word.toNat % 2 ^ 52 := by
  rw [unpackMantissa, BitVec.toNat_cast, BitVec.extractLsb_toNat, Nat.shiftRight_zero]
  rfl

theorem toNat_unpackSign (word : BitVec 64) :
    (@unpackSign .binary64 word).toNat = word.toNat / 2 ^ 63 := by
  have := word.isLt
  rw [unpackSign, BitVec.toNat_cast, BitVec.extractLsb_toNat, Nat.shiftRight_eq_div_pow]
  change word.toNat / 2 ^ 63 % 2 ^ 1 = _
  omega

theorem ofBitVec_unpackSign (word : BitVec 64) :
    Sign.ofBitVec (@unpackSign .binary64 word) =
      if word.toNat < 2 ^ 63 then .positive else .negative := by
  have hzero : @unpackSign .binary64 word = 0#1 ↔ word.toNat < 2 ^ 63 := by
    rw [BitVec.toNat_eq, toNat_unpackSign]
    change word.toNat / 2 ^ 63 = 0 ↔ _
    omega
  rw [Sign.ofBitVec]
  simp only [hzero]

/-- The magnitude of a number counts units of the least one. -/
theorem magnitude_mul_unit (mantissa : ℕ) {exponent : ℤ} (hleast : -1074 ≤ exponent) :
    (magnitude mantissa exponent : ℚ) * 2 ^ (-1074 : ℤ) = mantissa * 2 ^ exponent := by
  have hpow : (2 : ℚ) ^ (exponent + 1074).toNat * 2 ^ (-1074 : ℤ) = 2 ^ exponent := by
    rw [← zpow_natCast, Int.toNat_of_nonneg (by omega), ← zpow_add₀ (by norm_num)]
    congr 1
    ring
  rw [magnitude, Nat.cast_mul, Nat.cast_pow, Nat.cast_ofNat, mul_assoc, hpow]

theorem abs_apply (sign : Sign) (n : ℕ) : |((sign.apply n : ℤ) : ℚ)| = n := by
  cases sign <;> simp [Sign.apply]

theorem apply_neg_iff {n : ℕ} (hn : 0 < n) (sign : Sign) :
    sign.apply n < 0 ↔ sign = .negative := by
  cases sign <;> simp [Sign.apply, hn]

/-- The mantissa that the fields of a finite number stand for. -/
def fieldMantissa (exponent fraction : ℕ) : ℕ :=
  if exponent = 0 then fraction else 2 ^ 52 + fraction

/-- The exponent that the exponent field of a finite number stands for. -/
def fieldExponent (exponent : ℕ) : ℤ := if exponent = 0 then -1074 else exponent - 1075

theorem plainMagnitude_eq (exponent fraction : ℕ) :
    plainMagnitude exponent fraction =
      (Decimal.shortest (fieldMantissa exponent fraction) (fieldExponent exponent)).plain := by
  rw [plainMagnitude, fieldMantissa, fieldExponent]
  split <;> rfl

theorem fieldMantissa_pos {exponent fraction : ℕ} (h : exponent ≠ 0 ∨ fraction ≠ 0) :
    0 < fieldMantissa exponent fraction := by
  rw [fieldMantissa]
  split <;> omega

/-- The number with fields other than those of zero and of infinity. -/
theorem ofFields_finite (sign : Sign) {exponent : BitVec 11} {mantissa : BitVec 52}
    (hexponent : exponent.toNat ≠ 2047) (hne : exponent.toNat ≠ 0 ∨ mantissa.toNat ≠ 0) :
    ofFields sign exponent mantissa =
      .finite sign (fieldMantissa exponent.toNat mantissa.toNat) (fieldExponent exponent.toNat)
        (fieldMantissa_pos hne) := by
  have hmax : exponent ≠ -1#11 := fun h => hexponent (by rw [h]; rfl)
  rw [ofFields, if_neg hmax]
  split
  · rename_i hzero
    subst hzero
    have hmantissa : mantissa ≠ 0#52 := fun h => hne.elim (absurd rfl) (absurd (by rw [h]; rfl))
    rw [dif_neg hmantissa]
    rfl
  · rename_i hzero
    have hpos : exponent.toNat ≠ 0 := fun h => hzero (BitVec.eq_of_toNat_eq h)
    simp only [fieldMantissa, fieldExponent, if_neg hpos]

/-- The text of a number whose exponent field is not the last one, and which is not zero. -/
theorem plainText_eq {x : Float} {word : BitVec 64} (hword : x.toModel.toBits.toBitVec = word)
    (hexponent : (@unpackExponent .binary64 word).toNat ≠ 2047)
    (hne : (@unpackExponent .binary64 word).toNat ≠ 0 ∨
      (@unpackMantissa .binary64 word).toNat ≠ 0) :
    plainText x = (if word.toNat < 2 ^ 63 then "" else "-") ++
      plainMagnitude (@unpackExponent .binary64 word).toNat
        (@unpackMantissa .binary64 word).toNat := by
  have hbits : x.toBits.toNat = word.toNat := congrArg BitVec.toNat hword
  rw [toNat_unpackExponent] at hexponent
  rw [toNat_unpackExponent, toNat_unpackMantissa] at hne ⊢
  simp only [plainText, hbits, Nat.pow_eq]
  rw [if_neg fun h => hexponent (of_decide_eq_true (Bool.and_eq_true_iff.mp h).1),
    if_neg hexponent, if_neg fun h => ?_]
  obtain ⟨he, hm⟩ := Bool.and_eq_true_iff.mp h
  exact hne.elim (absurd (of_decide_eq_true he)) (absurd (of_decide_eq_true hm))

/-- A number that is finite and not zero has such fields. -/
theorem fields_of_count {sign : Sign} {exponent : BitVec 11} {mantissa : BitVec 52} {n : ℤ}
    (hn : count (ofFields sign exponent mantissa) = some n) (hne : n ≠ 0)
    (hfinite : (ofFields sign exponent mantissa).isFinite = true) :
    exponent.toNat ≠ 2047 ∧ (exponent.toNat ≠ 0 ∨ mantissa.toNat ≠ 0) := by
  constructor
  · intro h
    have hmax : exponent = -1#11 := BitVec.eq_of_toNat_eq h
    rw [ofFields, if_pos hmax] at hfinite
    split at hfinite <;> cases hfinite
  · by_contra h
    obtain ⟨he, hm⟩ := not_or.mp h
    obtain rfl : exponent = 0#11 := BitVec.eq_of_toNat_eq (not_not.mp he)
    obtain rfl : mantissa = 0#52 := BitVec.eq_of_toNat_eq (not_not.mp hm)
    exact hne (Option.some.inj hn).symm

end Binary64

open Float.Model Float.Model.UnpackedFloat Binary64 in
/-- The text of a finite number other than zero is its sign and the shortest decimal that
reads back as its magnitude. -/
theorem plainText_exact {x : Float} {n : ℤ} (hn : units x = some n) (hne : n ≠ 0)
    (hfinite : x.isFinite = true) :
    ∃ (mantissa : ℕ) (exponent : ℤ) (decimal : Decimal),
      |(n : ℚ)| * 2 ^ (-1074 : ℤ) = mantissa * 2 ^ exponent ∧
      (Decimal.Range.of mantissa exponent).IsShortest decimal ∧
      plainText x = (if n < 0 then "-" else "") ++ decimal.plain := by
  change x.toModel.unpack.isFinite = true at hfinite
  rw [units] at hn
  rw [Float.Model.unpack, unpack_eq_ofFields] at hn hfinite
  generalize hword : x.toModel.toBits.toBitVec = word at hn hfinite
  obtain ⟨hexponent, hfields⟩ := fields_of_count hn hne hfinite
  have htext := plainText_eq hword hexponent hfields
  have hstored := stored_ofFields (Sign.ofBitVec (@unpackSign .binary64 word))
    (@unpackExponent .binary64 word) (@unpackMantissa .binary64 word)
  have hpos := fieldMantissa_pos hfields
  rw [ofFields_finite _ hexponent hfields] at hn hstored
  rw [plainMagnitude_eq] at htext
  have happly := Option.some.inj hn
  have hshortest := Decimal.shortest_exact (fieldExponent (@unpackExponent .binary64 word).toNat)
    hpos hstored.1.bounded
  refine ⟨_, _, _, ?_, hshortest, htext.trans ?_⟩
  · rw [← happly, abs_apply, magnitude_mul_unit _ hstored.1.least]
  · have hneg := apply_neg_iff hstored.magnitude_bounds.1
      (Sign.ofBitVec (@unpackSign .binary64 word))
    rw [happly, ofBitVec_unpackSign] at hneg
    by_cases hsmall : word.toNat < 2 ^ 63
    · rw [if_pos hsmall] at hneg ⊢
      rw [if_neg (mt hneg.mp Sign.noConfusion)]
    · rw [if_neg hsmall] at hneg ⊢
      rw [if_pos (hneg.mpr rfl)]

example : plainText (-0.1) = "-0.1" := by decide +kernel

end GridSetup
