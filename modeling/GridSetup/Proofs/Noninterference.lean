import GridSetup.Proofs.Containment
import GridSetup.Proofs.Generation
import GridSetup.Proofs.Reports
import GridSetup.Proofs.Tolerance

/-! # What each option has an influence on

Two resolutions of one network may be made for other automatons, with other libraries
and with other options. None of these can make a resolution fail, and each of them has
one part of the resolution to itself: the threshold decides on the loads, the automatons
and their libraries on the dynamic models, and the limits of the reactive power on
whether generators use their diagrams, which is all that changes about them. -/

namespace GridSetup

/-- The definitions are the same, but for whether the model uses the diagram. -/
def GeneratorDefinition.SameButDiagram (one other : GeneratorDefinition) : Prop :=
  other = { one with model := .new one.model.regulation other.model.usesDiagram }

/-- Two resolutions of a network differ only where what they were made with does: each
setting has an influence on its own part and on no other. -/
structure Resolution.Confined (config config' : AutomatonConfig)
    (locator locator' : Locator) (options options' : Options) (one other : Resolution) :
    Prop where
  mainComponent : one.mainComponent = other.mainComponent
  slackNode : one.slackNode = other.slackNode
  hvdcLines : one.hvdcLines = other.hvdcLines
  shuntCounts : one.shuntCounts = other.shuntCounts
  representatives : one.representatives = other.representatives
  loads : options.loadThreshold = options'.loadThreshold ∨
    options.loadThreshold == options'.loadThreshold → one.loads = other.loads
  dynamicModels : config = config' →
    (∀ automaton ∈ config.all,
      locator.finds automaton.library = locator'.finds automaton.library) →
      one.dynamicModels = other.dynamicModels
  generators : List.Forall₂ GeneratorDefinition.SameButDiagram one.generators other.generators
  diagrams : options.unlimitedReactivePower = options'.unlimitedReactivePower →
    one.generators = other.generators

/-! ## The parts -/

/-- Equal thresholds keep the same loads. -/
theorem LoadDefinition.definitionsAt_eq_of_beq {threshold threshold' : Float}
    (h : threshold == threshold') : definitionsAt threshold = definitionsAt threshold' := by
  funext node
  rw [definitionsAt, definitionsAt, isIgnored, isIgnored, Voltage.below_eq_of_beq h]

/-- Only the libraries of the automatons are asked for, and what is reported on the way
changes nothing else. -/
theorem DynamicModelSurvey.prepare_value_congr (config : AutomatonConfig)
    {locator locator' : Locator}
    (h : ∀ automaton ∈ config.all,
      locator.finds automaton.library = locator'.finds automaton.library) :
    (prepare config locator).value = (prepare config locator').value := by
  let alike (one other : Logged DynamicModelSurvey) : Prop := one.value = other.value
  have hconnect : ∀ (automaton : Automaton) connect (one other : Logged DynamicModelSurvey),
      alike one other →
        alike (prepareConnect config automaton one connect)
          (prepareConnect config automaton other connect) := by
    intro automaton connect one other (hsame : one.value = other.value)
    change (prepareConnect config automaton one connect).value = _
    rw [prepareConnect, prepareConnect, hsame]
    split <;> rfl
  refine List.foldl_rel (r := alike) rfl fun automaton ha one other hsame => ?_
  have hfinds := h automaton ha
  rw [Locator.finds, Locator.finds] at hfinds
  rw [prepareAutomaton, prepareAutomaton, hfinds]
  dsimp only
  split
  · exact List.foldl_rel (r := alike) hsame fun connect _ => hconnect automaton connect
  · exact hsame

namespace Generation

theorem definitions_sameButDiagram (unlimited unlimited' : Bool) (network : Network)
    (visits : List Node) :
    List.Forall₂ GeneratorDefinition.SameButDiagram
      (visits.flatMap (definitionsAt unlimited network))
      (visits.flatMap (definitionsAt unlimited' network)) := by
  rw [flatMap_definitionsAt, flatMap_definitionsAt, List.forall₂_map_left_iff,
    List.forall₂_map_right_iff, List.forall₂_same]
  intro owned _
  rw [GeneratorDefinition.SameButDiagram, definition_regulation, definition_usesDiagram]
  rfl

/-- Without limits no diagram is looked at, so none is used and none is reported. -/
theorem unlimited_usesDiagram {network : Network} {visits : List Node}
    {definition : GeneratorDefinition}
    (h : definition ∈ visits.flatMap (definitionsAt true network)) :
    definition.model.usesDiagram = false := by
  obtain ⟨node, -, generator, -, rfl⟩ := mem_flatMap_definitionsAt.mp h
  rw [definition_usesDiagram]
  rfl

theorem unlimited_reports (node : Node) : Generation.reports true node = [] :=
  List.flatMap_eq_nil_iff.mpr fun _ _ => rfl

end Generation

/-! ## The whole -/

theorem Network.Coherent.separately_confined {network : Network} (coherent : network.Coherent)
    (config config' : AutomatonConfig) (locator locator' : Locator)
    (options options' : Options) :
    Resolution.Confined config config' locator locator' options options'
      (Resolution.separately network config locator options)
      (Resolution.separately network config' locator' options') := by
  have hgeneration := fun unlimited =>
    Generation.traverse_state coherent unlimited coherent.mainNodes_subset
  refine {
    mainComponent := rfl
    slackNode := rfl
    hvdcLines := rfl
    shuntCounts := rfl
    representatives := ?_
    loads := fun h => ?_
    dynamicModels := fun hconfig hlocator => ?_
    generators := ?_
    diagrams := fun h => ?_ }
  · simp only [Resolution.separately, hgeneration]
  · simp only [Resolution.separately, LoadDefinition.traverse_state]
    rcases h with h | h
    · rw [h]
    · rw [LoadDefinition.definitionsAt_eq_of_beq h]
  · subst hconfig
    simp only [Resolution.separately, DynamicModelSurvey.prepare_value_congr config hlocator]
  · simp only [Resolution.separately, hgeneration]
    exact Generation.definitions_sameButDiagram _ _ network network.mainNodes
  · simp only [Resolution.separately, h]

/-- A built network is resolved whatever the automatons, the libraries and the options
are, and each of them has an influence on its own part only. Without limits on the
reactive power no generator uses a diagram, and nothing is reported of diagrams. -/
theorem resolve_confined {network : Network} (built : network.IsBuilt)
    (config config' : AutomatonConfig) (locator locator' : Locator)
    (options options' : Options) :
    ∃ one other, (resolve network config locator options).value = .ok one ∧
      (resolve network config' locator' options').value = .ok other ∧
      Resolution.Confined config config' locator locator' options options' one other ∧
      (options.unlimitedReactivePower = true →
        (∀ definition ∈ one.generators, definition.model.usesDiagram = false) ∧
        eventsAbout .diagram (resolve network config locator options).events = []) := by
  have coherent := built.coherent
  refine ⟨_, _, coherent.resolve_eq_separately config locator options,
    coherent.resolve_eq_separately config' locator' options',
    coherent.separately_confined config config' locator locator' options options',
    fun hunlimited => ⟨fun definition hd => ?_, ?_⟩⟩
  · rw [Resolution.separately,
      Generation.traverse_state coherent _ coherent.mainNodes_subset, hunlimited] at hd
    exact Generation.unlimited_usesDiagram hd
  · rw [coherent.eventsAbout_resolve, Resolution.reports, hunlimited]
    exact List.flatMap_eq_nil_iff.mpr fun node _ => Generation.unlimited_reports node

/-- The thresholds are zeros of both signs and the libraries differ where no automaton asks
for them, so that all that changes is the use of the one diagram there is. -/
theorem resolve_confined_mainland :
    Mainland.network.IsBuilt ∧ (-0 : Float) == 0 ∧
    (∀ automaton ∈ Mainland.straddling.all, automaton.library = "Tap") ∧
    (∃ one other : Resolution,
      (resolve Mainland.network Mainland.straddling (.ofLibraries (· = "Tap"))
        { unlimitedReactivePower := true, loadThreshold := -0 }).value = .ok one ∧
      (resolve Mainland.network Mainland.straddling (.ofLibraries fun _ => true)
        { loadThreshold := 0 }).value = .ok other ∧
      one.representatives = other.representatives ∧ one.loads = other.loads ∧
      one.dynamicModels = other.dynamicModels ∧
      List.Forall₂ GeneratorDefinition.SameButDiagram one.generators other.generators ∧
      ∀ definition ∈ one.generators, definition.model.usesDiagram = false) ∧
    (resolve Mainland.network Mainland.straddling (.ofLibraries fun _ => true)
        { loadThreshold := 0 }).value.map (fun resolution =>
          resolution.generators.map fun definition =>
            (definition.id, definition.model.usesDiagram)) =
      .ok [("G1", false), ("G2", true), ("G4", false)] := by
  have built : Mainland.network.IsBuilt := ⟨_, _, _, Mainland.build_network⟩
  have zeros : (-0 : Float) == 0 := by decide +kernel
  have asked : ∀ automaton ∈ Mainland.straddling.all, automaton.library = "Tap" := by
    intro automaton ha
    have hall : Mainland.straddling.all.all fun automaton => automaton.library = "Tap" := by
      decide +kernel
    exact of_decide_eq_true (List.all_eq_true.mp hall automaton ha)
  obtain ⟨one, other, hone, hother, confined, hunlimited⟩ := resolve_confined built
    Mainland.straddling Mainland.straddling (.ofLibraries (· = "Tap")) (.ofLibraries fun _ => true)
    { unlimitedReactivePower := true, loadThreshold := -0 } { loadThreshold := 0 }
  have hmodels := confined.dynamicModels rfl fun automaton ha =>
    decide_eq_true (asked automaton ha)
  exact ⟨built, zeros, asked, ⟨one, other, hone, hother, confined.representatives,
    confined.loads (.inr zeros), hmodels, confined.generators, (hunlimited rfl).1⟩,
    by decide +kernel⟩

end GridSetup
