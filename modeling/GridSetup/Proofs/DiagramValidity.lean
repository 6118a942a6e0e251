import GridSetup.Diagram
import GridSetup.Proofs.Subtraction

/-! # Which diagrams are usable

A curve is checked from each point to the next, up to the first offence. Being below is
transitive among floating-point numbers, whatever they are, so along a curve without an
offence the active power increases from any point to any later one. A diagram that is
not usable is reported once, and only missing data is no cause for worry. -/

namespace GridSetup

theorem firstDescent?_eq_none_iff_isChain (points : List CurvePoint) :
    firstDescent? points = none ↔ points.IsChain fun point next => point.p < next.p := by
  fun_induction firstDescent? points with
  | case1 point next rest hlt ih => rw [ih, List.isChain_cons_cons, and_iff_right hlt]
  | case2 point next rest hlt =>
    rw [List.isChain_cons_cons]
    exact iff_of_false nofun fun h => hlt h.1
  | case3 points hshort =>
    refine iff_of_true rfl ?_
    match points, hshort with
    | [], _ => exact .nil
    | [point], _ => exact .singleton point
    | point :: next :: rest, hshort => exact absurd rfl (hshort point next rest)

/-- If no point descends to the next one, none does to any later one. -/
theorem firstDescent?_eq_none_iff (points : List CurvePoint) :
    firstDescent? points = none ↔ points.Pairwise fun point later => point.p < later.p := by
  let below (point later : CurvePoint) : Prop := point.p < later.p
  have : Trans below below below := ⟨Binary64.lt_trans⟩
  exact (firstDescent?_eq_none_iff_isChain points).trans (List.isChain_iff_pairwise (R := below))

namespace Generator

/-! ## The flaw of a diagram -/

/-- The flaw in the limits of a generator without a curve. -/
def limitsFlaw? (generator : Generator) : Option DiagramFlaw :=
  if generator.pMin < generator.pMax ∧ generator.qMin < generator.qMax then none
  else if generator.hasLimits then
    some (.limits generator.pMin generator.pMax generator.qMin generator.qMax)
  else some .absent

/-- The flaw in a curve of several points: an empty range anywhere counts
before a wrong sequence. -/
def curveFlaw? (points : List CurvePoint) : Option DiagramFlaw :=
  match points.find? fun point => ¬point.qMin < point.qMax with
  | some point => some (.range point.qMin point.qMax point.p)
  | none => (firstDescent? points).map fun pair => .sequence pair.1.p pair.2.p

/-- The flaw in the diagram of a generator, if there is any. -/
def diagramFlaw? (generator : Generator) : Option DiagramFlaw :=
  match generator.points with
  | [] => generator.limitsFlaw?
  | [_] => some .singlePoint
  | points => curveFlaw? points

/-- Each check that rejects a diagram reports its flaw, and only one check does. -/
theorem hasDiagram_eq (generator : Generator) :
    generator.hasDiagram =
      { value := generator.diagramFlaw?.isNone
        events := (generator.diagramFlaw?.map (.unusableDiagram generator.id)).toList } := by
  rw [hasDiagram, diagramFlaw?]
  cases generator.points with
  | nil =>
    dsimp only
    rw [limitsFlaw?]
    split
    · rfl
    · cases generator.hasLimits <;> rfl
  | cons point rest =>
    cases rest with
    | nil => rfl
    | cons next rest =>
      dsimp only
      rw [curveFlaw?]
      cases (point :: next :: rest).find? fun point => ¬point.qMin < point.qMax with
      | some offence => rfl
      | none => cases firstDescent? (point :: next :: rest) <;> rfl

/-! ## Usable diagrams -/

/-- Without a curve the limits enclose an area. With a curve there are several points, the
reactive range is nowhere empty, and the active power increases from any point to any
later one. -/
def EnclosesArea (generator : Generator) : Prop :=
  (generator.points = [] ∧ generator.pMin < generator.pMax ∧ generator.qMin < generator.qMax) ∨
    (2 ≤ generator.points.length ∧ (∀ point ∈ generator.points, point.qMin < point.qMax) ∧
      generator.points.Pairwise fun point later => point.p < later.p)

/-- There is neither a curve nor a limit other than zero, of whichever sign. -/
def LacksData (generator : Generator) : Prop :=
  generator.points = [] ∧
    ∀ limit ∈ [generator.pMin, generator.pMax, generator.qMin, generator.qMax],
      limit = 0 ∨ limit = -0

theorem hasLimits_eq_false_iff (generator : Generator) :
    generator.hasLimits = false ↔
      ∀ limit ∈ [generator.pMin, generator.pMax, generator.qMin, generator.qMax],
        limit = 0 ∨ limit = -0 := by
  rw [hasLimits, List.any_eq_false]
  refine forall₂_congr fun limit _ => ?_
  rw [← Binary64.beq_zero_iff, bne, Bool.not_eq_true, Bool.not_eq_false']

theorem limitsFlaw?_eq_none_iff (generator : Generator) :
    generator.limitsFlaw? = none ↔
      generator.pMin < generator.pMax ∧ generator.qMin < generator.qMax := by
  rw [limitsFlaw?]
  grind

theorem not_lt_of_zeros {a b : Float} (ha : a = 0 ∨ a = -0) (hb : b = 0 ∨ b = -0) : ¬a < b := by
  rcases ha with rfl | rfl <;> rcases hb with rfl | rfl <;> decide +kernel

/-- Limits are reported as missing exactly if they are: zeros enclose nothing. -/
theorem limitsFlaw?_eq_absent_iff (generator : Generator) :
    generator.limitsFlaw? = some .absent ↔ generator.hasLimits = false := by
  rw [limitsFlaw?]
  split
  · rename_i hlt
    refine iff_of_false nofun fun h => ?_
    have hzero := (hasLimits_eq_false_iff generator).mp h
    exact not_lt_of_zeros (hzero generator.pMin (by simp)) (hzero generator.pMax (by simp)) hlt.1
  · split <;> simp_all

theorem curveFlaw?_eq_none_iff (points : List CurvePoint) :
    curveFlaw? points = none ↔ (∀ point ∈ points, point.qMin < point.qMax) ∧
      points.Pairwise fun point later => point.p < later.p := by
  rw [curveFlaw?]
  split
  · rename_i point hfound
    have hempty : ¬point.qMin < point.qMax := by simpa using List.find?_some hfound
    exact iff_of_false nofun fun h => hempty (h.1 point (List.mem_of_find?_eq_some hfound))
  · rename_i hnone
    have hranges : ∀ point ∈ points, point.qMin < point.qMax := by simpa using hnone
    rw [Option.map_eq_none_iff, firstDescent?_eq_none_iff, and_iff_right hranges]

theorem curveFlaw?_ne_absent (points : List CurvePoint) : curveFlaw? points ≠ some .absent := by
  rw [curveFlaw?]
  split <;> simp

theorem diagramFlaw?_eq_none_iff (generator : Generator) :
    generator.diagramFlaw? = none ↔ generator.EnclosesArea := by
  rw [diagramFlaw?, EnclosesArea]
  cases hpoints : generator.points with
  | nil => simp [limitsFlaw?_eq_none_iff]
  | cons point rest =>
    cases rest with
    | nil => simp
    | cons next rest => simp [curveFlaw?_eq_none_iff]

theorem diagramFlaw?_eq_absent_iff (generator : Generator) :
    generator.diagramFlaw? = some .absent ↔ generator.LacksData := by
  rw [diagramFlaw?, LacksData, ← hasLimits_eq_false_iff]
  cases hpoints : generator.points with
  | nil => simp [limitsFlaw?_eq_absent_iff]
  | cons point rest =>
    cases rest with
    | nil => simp
    | cons next rest => simp [curveFlaw?_ne_absent]

end Generator

theorem Event.severity_unusableDiagram (generator : String) (flaw : DiagramFlaw) :
    (Event.unusableDiagram generator flaw).severity = .debug ↔ flaw = .absent := by
  cases flaw <;> simp [Event.severity]

/-- The diagram of any generator is usable exactly if it encloses an area. Nothing is
reported of a usable one. Of any other there is exactly one report, which names the
generator and is a mere remark if data is missing altogether and a warning if not. -/
theorem hasDiagram_exact (generator : Generator) :
    (generator.hasDiagram.value = true ↔ generator.EnclosesArea) ∧
    (generator.hasDiagram.value = true → generator.hasDiagram.events = []) ∧
    (generator.hasDiagram.value = false → ∃ flaw,
      generator.hasDiagram.events = [.unusableDiagram generator.id flaw] ∧
      ((Event.unusableDiagram generator.id flaw).severity = .debug ↔ generator.LacksData) ∧
      ((Event.unusableDiagram generator.id flaw).severity = .warn ↔ ¬generator.LacksData)) := by
  have harea := generator.diagramFlaw?_eq_none_iff
  have hlacks := generator.diagramFlaw?_eq_absent_iff
  rw [Generator.hasDiagram_eq]
  cases hflaw : generator.diagramFlaw? with
  | none => exact ⟨iff_of_true rfl (harea.mp hflaw), fun _ => rfl, nofun⟩
  | some flaw =>
    rw [hflaw] at harea hlacks
    have hnone : ¬generator.EnclosesArea := fun h => Option.some_ne_none flaw (harea.mpr h)
    have hdebug := (Event.severity_unusableDiagram generator.id flaw).trans
      (Option.some_inj.symm.trans hlacks)
    have hwarn : (Event.unusableDiagram generator.id flaw).severity = .warn ↔
        ¬generator.LacksData := by
      rw [← hdebug]
      cases (Event.unusableDiagram generator.id flaw).severity <;> simp
    exact ⟨iff_of_false Bool.false_ne_true hnone, fun h => absurd h Bool.false_ne_true,
      fun _ => ⟨flaw, rfl, hdebug, hwarn⟩⟩

end GridSetup
