import GridSetup.Proofs.Panel
import GridSetup.Proofs.Resolution

/-! # The surveys of a resolution run separately

What is gathered from the main component is gathered by one panel. Each of its
members gets there what it would get alone, so that a resolution can be looked
at one survey at a time. -/

namespace GridSetup

open Std (ExtTreeSet)

/-- A panel gets through the nodes exactly if each of its members does alone. -/
theorem Panel.traverse_ok_iff {types : List Type} (panel : Panel types) {network : Network}
    {visits : List Node} {states : States types} :
    (traverse panel.visitor network visits states).fault = none ↔
      ∀ i, (panel.alone network visits states i).fault = none := by
  refine ⟨fun h i => (panel.traverse_of_ok h i).1, fun h => ?_⟩
  cases hfault : (traverse panel.visitor network visits states).fault with
  | none => rfl
  | some fault =>
    obtain ⟨before, node, after, j, rfl, hstop⟩ := panel.traverse_of_fault hfault
    have hnode := (traverse_concat hstop.reached node).2.trans hstop.failed
    have hall := h j
    rw [alone, GridSetup.traverse_of_fault hnode, hnode] at hall
    cases hall

/-- The resolution made up of what each survey gathers from the main component
on its own. -/
def Resolution.separately (network : Network) (config : AutomatonConfig) (locator : Locator)
    (options : Options) : Resolution :=
  let main := network.mainNodes
  let generation :=
    (traverse (Generation.visitor options.unlimitedReactivePower) network main {}).state
  let survey := (DynamicModelSurvey.prepare config locator).value
  { mainComponent := ExtTreeSet.ofList (main.map Node.id)
    slackNode := (traverse SlackCandidate.visitor network main none).state.map
      fun candidate => candidate.node.id
    generators := generation.definitions
    representatives := generation.representatives
    loads := (traverse (LoadDefinition.visitor options.loadThreshold) network main []).state
    hvdcLines := (traverse HvdcDefinition.visitor network main ∅).state
    dynamicModels := (traverse DynamicModelSurvey.visitor network main survey).state.result
    shuntCounts := (traverse shuntCountVisitor network main ∅).state }

theorem Resolution.ofParts_eq (main : List Node) (parts : States Resolution.Parts) :
    ofParts main parts =
      { mainComponent := ExtTreeSet.ofList (main.map Node.id)
        slackNode := (parts.get 0).map fun candidate => candidate.node.id
        generators := (parts.get 1).definitions
        representatives := (parts.get 1).representatives
        loads := parts.get 2
        hvdcLines := parts.get 3
        dynamicModels := (parts.get 4).result
        shuntCounts := parts.get 5 } := rfl

namespace Network.Coherent

variable {network : Network}

theorem panel_traverse_ok (coherent : network.Coherent) (options : Options)
    (states : States Resolution.Parts) :
    (traverse (Resolution.panel options).visitor network network.mainNodes states).fault =
      none :=
  (traverse_of_succeedsOn ((Panel.visitor_succeedsOn _
    (coherent.panel_succeedsOn options)).mono coherent.mainNodes_subset) states).1

theorem resolve_eq_separately (coherent : network.Coherent) (config : AutomatonConfig)
    (locator : Locator) (options : Options) :
    (resolve network config locator options).value =
      .ok (Resolution.separately network config locator options) := by
  have hmember := fun i => ((Resolution.panel options).traverse_of_ok
    (coherent.panel_traverse_ok options
      (Resolution.start (DynamicModelSurvey.prepare config locator).value)) i).2
  rw [coherent.resolve_value, Resolution.ofParts_eq, hmember 0, hmember 1, hmember 2, hmember 3,
    hmember 4, hmember 5]
  rfl

end Network.Coherent

/-- A panel gets through nodes exactly if each of its members does alone, and
then leaves each member in the state that it reaches alone. If it fails, it
stopped on a node because of one member: those before it were shown the nodes up
to this one, it failed there itself, those after it were shown only the nodes
before, and the nodes behind were shown to none. So a built network is resolved
into what each survey gathers from the main component alone. -/
theorem panel_separates {types : List Type} (panel : Panel types) (network : Network)
    (visits : List Node) (states : States types) :
    let together := traverse panel.visitor network visits states
    (together.fault = none ↔ ∀ i, (panel.alone network visits states i).fault = none) ∧
    (together.fault = none → ∀ i,
      together.state.get i = (panel.alone network visits states i).state) ∧
    (∀ fault, together.fault = some fault → ∃ before node after j,
      visits = before ++ node :: after ∧
        panel.StopsAt network states before node j fault together) ∧
    (network.IsBuilt → ∀ config locator options,
      (resolve network config locator options).value =
        .ok (Resolution.separately network config locator options) ∧
      ∀ i, ((Resolution.panel options).alone network network.mainNodes
        (Resolution.start (DynamicModelSurvey.prepare config locator).value) i).fault =
          none) := by
  refine ⟨panel.traverse_ok_iff, fun h i => (panel.traverse_of_ok h i).2,
    fun fault h => panel.traverse_of_fault h, fun built config locator options => ?_⟩
  have coherent := built.coherent
  exact ⟨coherent.resolve_eq_separately config locator options,
    (Panel.traverse_ok_iff _).mp (coherent.panel_traverse_ok options _)⟩

namespace TwoIslands

/-- Notes the nodes it is shown. -/
def recorder : Visitor (List String) := fun _ node seen => { state := seen ++ [node.id] }

/-- Counts the nodes it is shown, up to the given one, on which it fails. -/
def counterUpTo (id : String) : Visitor Nat := fun _ node count =>
  { state := count + 1, fault := if node.id = id then some (.unknownNode id) else none }

def panel : Panel [List String, Nat, List String] :=
  .cons recorder (.cons (counterUpTo "B") (.cons recorder .nil))

end TwoIslands

theorem panel_separates_twoIslands :
    TwoIslands.network.IsBuilt ∧
    (∀ config locator options, (resolve TwoIslands.network config locator options).value =
      .ok (Resolution.separately TwoIslands.network config locator options)) ∧
    (traverse TwoIslands.panel.visitor TwoIslands.network TwoIslands.network.nodes
      ([], 0, [], ())).fault = some (.unknownNode "B") ∧
    (∃ before node after j, TwoIslands.network.nodes = before ++ node :: after ∧
      TwoIslands.panel.StopsAt TwoIslands.network ([], 0, [], ()) before node j (.unknownNode "B")
        (traverse TwoIslands.panel.visitor TwoIslands.network TwoIslands.network.nodes
          ([], 0, [], ()))) ∧
    (traverse TwoIslands.panel.visitor TwoIslands.network TwoIslands.network.nodes
      ([], 0, [], ())).state = (["A", "B"], 2, ["A"], ()) := by
  have hexact := panel_separates TwoIslands.panel TwoIslands.network TwoIslands.network.nodes
    ([], 0, [], ())
  have hfault : (traverse TwoIslands.panel.visitor TwoIslands.network TwoIslands.network.nodes
      ([], 0, [], ())).fault = some (.unknownNode "B") := by decide +kernel
  exact ⟨TwoIslands.network_isBuilt,
    fun config locator options =>
      (hexact.2.2.2 TwoIslands.network_isBuilt config locator options).1,
    hfault, hexact.2.2.1 _ hfault, by decide +kernel⟩

end GridSetup
