import GridSetup.Proofs.Rounding

/-! # Differences of floating-point numbers

The difference of two numbers is their difference in units, rounded. Only infinities
of one sign have none. Comparing goes by units as well, which are the same only for the
same number and for the two zeros. -/

namespace GridSetup.Binary64

open Float.Model Float.Model.UnpackedFloat

/-- What the difference of two numbers counts for, given what these count for. -/
def difference (m n : Int) : Option Int :=
  if m = n ∧ m.natAbs = infinite then none else some (rounded (m - n))

theorem natAbs_apply (sign : Sign) (n : Nat) : (sign.apply n).natAbs = n := by
  cases sign
  · exact Int.natAbs_neg n
  · rfl

theorem apply_neg (sign : Sign) (n : Int) : (-sign).apply n = -sign.apply n := by
  cases sign
  · exact (Int.neg_neg n).symm
  · rfl

theorem difference_finite {m : Int} (h : m.natAbs < overflow) (n : Int) :
    difference m n = some (rounded (m - n)) := by
  have hinfinite : infinite = 4 * overflow := rfl
  exact if_neg fun heq => by omega

/-- An infinity minus a finite number is that infinity. -/
theorem difference_infinite (sign : Sign) {n : Int} (h : n.natAbs < overflow) :
    difference (sign.apply infinite) n = some (sign.apply infinite) ∧
      difference n (sign.apply infinite) = some ((-sign).apply infinite) := by
  have hinfinite : infinite = 4 * overflow := rfl
  have hne : sign.apply infinite ≠ n := by
    rintro rfl
    rw [natAbs_apply] at h
    omega
  have hrounded : rounded (sign.apply infinite - n) = sign.apply infinite := by
    cases sign with
    | negative =>
      rw [← neg_sub, rounded_neg, rounded_of_overflow (by simp only [Sign.apply]; omega)]
      rfl
    | positive => exact rounded_of_overflow (by simp only [Sign.apply]; omega)
  constructor
  · rw [difference, if_neg fun heq => hne heq.1, hrounded]
  · rw [difference_finite h, ← neg_sub, rounded_neg, hrounded, apply_neg]

theorem difference_infinities (sign sign' : Sign) :
    difference (sign.apply infinite) (sign'.apply infinite) =
      if sign == -sign' then some (sign.apply infinite) else none := by
  have hinfinite : infinite = 4 * overflow := rfl
  have hpos := overflow_pos
  have htwice : rounded (infinite + infinite) = infinite := rounded_of_overflow (by omega)
  cases sign <;> cases sign'
  · exact if_pos ⟨rfl, natAbs_apply .negative infinite⟩
  · refine (if_neg fun heq => ?_).trans (congrArg some ?_)
    · have := heq.1
      simp only [Sign.apply] at this
      omega
    · simp only [Sign.apply]
      rw [← neg_add', rounded_neg, htwice]
  · refine (if_neg fun heq => ?_).trans (congrArg some ?_)
    · have := heq.1
      simp only [Sign.apply] at this
      omega
    · simp only [Sign.apply]
      rw [sub_neg_eq_add, htwice]
  · exact if_pos ⟨rfl, natAbs_apply .positive infinite⟩

theorem normalize_rounded {e : Int} (hleast : -1074 ≤ e) (mantissa : Int) :
    Rounded (UnpackedFloat.normalize .binary64 mantissa e .positive) ∧
      count (store (UnpackedFloat.normalize .binary64 mantissa e .positive)) =
        some (rounded (mantissa * 2 ^ (e + 1074).toNat)) := by
  have hround : ∀ (sign : Sign) (m : Nat), 0 < m → mantissa = sign.apply m →
      Rounded (UnpackedFloat.round .binary64 sign m e) ∧
        count (store (UnpackedFloat.round .binary64 sign m e)) =
          some (rounded (mantissa * 2 ^ (e + 1074).toNat)) := by
    intro sign m hpos hm
    obtain ⟨m', e', hpos', heq, hcanonical, hmagnitude⟩ := round_eq sign hpos hleast
    have hscale : mantissa * 2 ^ (e + 1074).toNat = sign.apply (magnitude m e) := by
      rw [hm, magnitude]
      cases sign <;> simp [Sign.apply]
    rw [heq, hscale, rounded_apply]
    exact ⟨hcanonical, count_store_finite sign hcanonical hmagnitude⟩
  rw [UnpackedFloat.normalize]
  rcases lt_trichotomy mantissa 0 with hneg | rfl | hpos
  · rw [compare_lt_iff_lt.mpr hneg]
    exact hround .negative (-mantissa).toNat (by omega) (by simp only [Sign.apply]; omega)
  · rw [zero_mul, rounded_zero]
    exact ⟨trivial, rfl⟩
  · rw [compare_gt_iff_gt.mpr hpos]
    exact hround .positive mantissa.toNat (by omega) (by simp only [Sign.apply]; omega)

/-- The exact difference of two finite numbers, scaled to the smaller exponent. -/
theorem scaled_sub (s s' : Sign) (m m' : Nat) {e e' : Int} (h : -1074 ≤ e) (h' : -1074 ≤ e') :
    (s.apply (m <<< (e - min e e').toNat : Nat) - s'.apply (m' <<< (e' - min e e').toNat : Nat)) *
        2 ^ (min e e' + 1074).toNat =
      s.apply (magnitude m e) - s'.apply (magnitude m' e') := by
  have hscale : ∀ (s : Sign) (m : Nat) {e : Int} {least : Int}, least ≤ e → -1074 ≤ least →
      s.apply (m <<< (e - least).toNat : Nat) * 2 ^ (least + 1074).toNat =
        s.apply (magnitude m e) := by
    intro s m e least hle hleast
    have hexponent : (e + 1074).toNat = (e - least).toNat + (least + 1074).toNat := by omega
    have hmagnitude : m <<< (e - least).toNat * 2 ^ (least + 1074).toNat = magnitude m e := by
      rw [Nat.shiftLeft_eq, magnitude, hexponent, Nat.pow_add, Nat.mul_assoc]
    rw [← hmagnitude]
    cases s <;> simp [Sign.apply]
  rw [sub_mul, hscale s m (min_le_left e e') (le_min h h'),
    hscale s' m' (min_le_right e e') (le_min h h')]

theorem count_store_stored (sign : Sign) {m : Nat} {e : Int} (hpos : 0 < m)
    (h : Canonical m e) :
    count (store (.finite sign m e hpos)) = some (rounded (sign.apply (magnitude m e))) := by
  rw [count_store_finite sign h (h.settle_magnitude hpos).symm, rounded_apply]

theorem count_sub {x y : UnpackedFloat} (hx : Stored x) (hy : Stored y) :
    Rounded (UnpackedFloat.sub .binary64 x y) ∧
      count (store (UnpackedFloat.sub .binary64 x y)) =
        (count x).bind fun m => (count y).bind fun n => difference m n := by
  have hzero : (0 : Int).natAbs < overflow := overflow_pos
  rcases x with s | _ | s | ⟨s, m, e, hm⟩ <;> rcases y with s' | _ | s' | ⟨s', m', e', hm'⟩
  case infinity.infinity =>
    simp only [count, Option.bind_some, difference_infinities, UnpackedFloat.sub]
    split <;> exact ⟨trivial, rfl⟩
  case infinity.zero => exact ⟨trivial, (difference_infinite s hzero).1.symm⟩
  case zero.infinity => exact ⟨trivial, (difference_infinite s' hzero).2.symm⟩
  case infinity.finite =>
    have hlt := (natAbs_apply s' _).trans_lt hy.magnitude_bounds.2
    exact ⟨trivial, (difference_infinite s hlt).1.symm⟩
  case finite.infinity =>
    have hlt := (natAbs_apply s _).trans_lt hx.magnitude_bounds.2
    exact ⟨trivial, (difference_infinite s' hlt).2.symm⟩
  case zero.zero =>
    simp only [count, Option.bind_some, difference_finite hzero, sub_self, rounded_zero,
      UnpackedFloat.sub]
    split <;> exact ⟨trivial, rfl⟩
  case zero.finite =>
    refine ⟨hy.1, (count_store_stored (-s') hm' hy.1).trans ?_⟩
    simp only [count, Option.bind_some, difference_finite hzero, zero_sub, apply_neg]
  case finite.zero =>
    have hlt := (natAbs_apply s _).trans_lt hx.magnitude_bounds.2
    refine ⟨hx.1, (count_store_stored s hm hx.1).trans ?_⟩
    simp only [count, Option.bind_some, difference_finite hlt, sub_zero]
  case finite.finite =>
    have hlt := (natAbs_apply s _).trans_lt hx.magnitude_bounds.2
    simp only [count, Option.bind_some, difference_finite hlt]
    rw [← scaled_sub s s' m m' hx.1.least hy.1.least]
    exact normalize_rounded (le_min hx.1.least hy.1.least) _
  all_goals exact ⟨trivial, rfl⟩

theorem units_sub (a b : Float) :
    units (a - b) = (units a).bind fun m => (units b).bind fun n => difference m n := by
  have h := count_sub (unpack_stored a.toModel) (unpack_stored b.toModel)
  rw [← units.eq_def, ← units.eq_def, ← unpack_pack h.1] at h
  exact h.2

theorem units_sub_eq_some_iff (a b : Float) (d : Int) :
    units (a - b) = some d ↔
      ∃ m n, units a = some m ∧ units b = some n ∧ difference m n = some d := by
  rw [units_sub]
  cases units a <;> cases units b <;> simp

theorem difference_eq_some_iff (m n d : Int) :
    difference m n = some d ↔ ¬(m = n ∧ m.natAbs = infinite) ∧ rounded (m - n) = d := by
  rw [difference]
  by_cases h : m = n ∧ m.natAbs = infinite
  · rw [if_pos h]
    exact iff_of_false nofun fun h' => h'.1 h
  · rw [if_neg h, Option.some.injEq, and_iff_right h]

/-- The other way round, a difference changes its sign. -/
theorem units_sub_comm (a b : Float) : units (b - a) = (units (a - b)).map Neg.neg := by
  ext d
  simp only [Option.map_eq_some_iff, units_sub_eq_some_iff, difference_eq_some_iff]
  constructor
  · intro h
    obtain ⟨n, m, hn, hm, hne, rfl⟩ := h
    refine ⟨_, ⟨m, n, hm, hn, fun heq => hne ⟨heq.1.symm, heq.1 ▸ heq.2⟩, rfl⟩, ?_⟩
    rw [← rounded_neg, neg_sub]
  · intro h
    obtain ⟨_, ⟨m, n, hm, hn, hne, rfl⟩, rfl⟩ := h
    refine ⟨n, m, hn, hm, fun heq => hne ⟨heq.1.symm, heq.1 ▸ heq.2⟩, ?_⟩
    rw [← rounded_neg, neg_sub]

theorem count_abs {x : UnpackedFloat} (hx : Stored x) :
    Rounded x.abs ∧ count (store x.abs) = (count x).map fun m => (m.natAbs : Int) := by
  rcases x with s | _ | s | ⟨s, m, e, hm⟩
  · exact ⟨trivial, congrArg (fun n : Nat => some (n : Int)) (natAbs_apply s infinite).symm⟩
  · exact ⟨trivial, rfl⟩
  · exact ⟨trivial, rfl⟩
  · refine ⟨hx.1, ?_⟩
    rw [UnpackedFloat.abs, store, if_pos hx.2]
    exact congrArg (fun n : Nat => some (n : Int)) (natAbs_apply s _).symm

theorem units_abs (a : Float) : units a.abs = (units a).map fun m => (m.natAbs : Int) := by
  have h := count_abs (unpack_stored a.toModel)
  rw [← units.eq_def, ← unpack_pack h.1] at h
  exact h.2

/-! ## Comparing and telling apart -/

theorem compare_units (a b : Float) :
    a.toModel.compare b.toModel =
      (units a).bind fun m => (units b).map fun n => compare m n :=
  compare_eq (unpack_stored a.toModel) (unpack_stored b.toModel)

theorem lt_iff (a b : Float) : a < b ↔ ∃ m n, units a = some m ∧ units b = some n ∧ m < n := by
  have hlt : a < b ↔ a.toModel.compare b.toModel = some .lt := by
    change decide (a.toModel < b.toModel) = true ↔ _
    rw [decide_eq_true_iff]
    exact beq_iff_eq
  rw [hlt, compare_units]
  cases units a <;> cases units b <;> simp [compare_lt_iff_lt]

theorem le_iff (a b : Float) : a ≤ b ↔ ∃ m n, units a = some m ∧ units b = some n ∧ m ≤ n := by
  have hle : a ≤ b ↔ (a.toModel.compare b.toModel).any Ordering.isLE = true := by
    change decide (a.toModel ≤ b.toModel) = true ↔ _
    rw [decide_eq_true_iff]
    rfl
  rw [hle, compare_units]
  cases units a <;> cases units b <;> simp [Std.isLE_compare]

theorem beq_iff (a b : Float) : a == b ↔ ∃ n, units a = some n ∧ units b = some n := by
  have heq : a == b ↔ a.toModel.compare b.toModel = some .eq := by
    change (a.toModel.compare b.toModel == some .eq) = true ↔ _
    exact beq_iff_eq
  rw [heq, compare_units]
  cases units a <;> cases units b <;> simp
  exact eq_comm

theorem not_lt_of_beq {a b : Float} (h : a == b) : ¬b < a := by
  obtain ⟨n, hn, hn'⟩ := (beq_iff a b).mp h
  rw [lt_iff, hn, hn']
  simp

/-- Being below is transitive: nothing is below or above what is no number. -/
theorem lt_trans {a b c : Float} (hab : a < b) (hbc : b < c) : a < c := by
  rw [lt_iff] at hab hbc ⊢
  obtain ⟨m, n, hm, hn, hmn⟩ := hab
  obtain ⟨n', l, hn', hl, hnl⟩ := hbc
  obtain rfl : n = n' := Option.some.inj (hn.symm.trans hn')
  exact ⟨m, l, hm, hl, hmn.trans hnl⟩

theorem count_finite_iff {x : UnpackedFloat} (hx : Stored x) :
    x.isFinite = true ↔ ∃ n, count x = some n ∧ n.natAbs < overflow := by
  have hinfinite : infinite = 4 * overflow := rfl
  have hpos := overflow_pos
  rcases x with s | _ | s | ⟨s, m, e, hm⟩
  · refine iff_of_false nofun fun h => ?_
    obtain ⟨_, hcount, hlt⟩ := h
    obtain rfl := Option.some.inj hcount
    rw [natAbs_apply] at hlt
    omega
  · exact iff_of_false nofun fun h => nomatch h.choose_spec.1
  · exact iff_of_true rfl ⟨0, rfl, hpos⟩
  · exact iff_of_true rfl ⟨_, rfl, (natAbs_apply s _).trans_lt hx.magnitude_bounds.2⟩

theorem isFinite_iff (a : Float) :
    a.isFinite = true ↔ ∃ n, units a = some n ∧ n.natAbs < overflow :=
  count_finite_iff (unpack_stored a.toModel)

theorem isNaN_iff (a : Float) : a.isNaN = true ↔ units a = none := by
  change a.toModel.unpack.isNaN = true ↔ count a.toModel.unpack = none
  rcases a.toModel.unpack with s | _ | s | ⟨s, m, e, hm⟩
  · exact iff_of_false Bool.false_ne_true nofun
  · exact iff_of_true rfl rfl
  · exact iff_of_false Bool.false_ne_true nofun
  · exact iff_of_false Bool.false_ne_true nofun

theorem unpack_injective {a b : Float} (h : a.toModel.unpack = b.toModel.unpack) : a = b := by
  rw [← Float.toBits_inj, ← UInt64.toBitVec_inj]
  exact (unpack_inj_of_valid a.toModel.valid b.toModel.valid (by decide)).mp h

/-- The numbers equal to zero are the zeros of both signs. -/
theorem beq_zero_iff (a : Float) : a == 0 ↔ a = 0 ∨ a = -0 := by
  have hzero : (0 : Float).toModel.unpack = .zero .positive := rfl
  have hneg : (-0 : Float).toModel.unpack = .zero .negative := rfl
  refine ⟨fun h => ?_, ?_⟩
  · obtain ⟨-, -, hsame | ⟨-, hother⟩ | ⟨hother, -⟩⟩ :=
      (beq_iff_ne_notANumber_and_eq a.toModel.unpack (0 : Float).toModel.unpack).mp h
    · exact .inl (unpack_injective hsame)
    · rw [hzero] at hother
      cases hother
    · exact .inr (unpack_injective (hother.trans hneg.symm))
  · rintro (rfl | rfl) <;> decide +kernel

end GridSetup.Binary64
