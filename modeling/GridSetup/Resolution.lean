import GridSetup.Survey.DynamicModel
import GridSetup.Survey.Generation
import GridSetup.Survey.HvdcPosition
import GridSetup.Survey.LoadsAndShunts
import GridSetup.Survey.MainComponent
import GridSetup.Survey.Slack

/-! # The resolution of a network

A network and its automatons are resolved into the definitions of a dynamic
simulation. The main component is found first, over all nodes; everything
else is then gathered from its nodes, in the order of their discovery. -/

namespace GridSetup

open Std (ExtTreeMap ExtTreeSet)

structure Options where
  /-- Whether generators may produce any reactive power. -/
  unlimitedReactivePower : Bool := false
  /-- The voltage from which loads are modelled. -/
  loadThreshold : Float := 45

/-- Everything the simulation is set up from. -/
structure Resolution where
  mainComponent : ExtTreeSet String
  slackNode : Option String
  generators : List GeneratorDefinition
  /-- The generator that stands for each bus regulated in proportion. -/
  representatives : ExtTreeMap String String
  loads : List LoadDefinition
  hvdcLines : ExtTreeMap String HvdcDefinition
  dynamicModels : DynamicModels
  shuntCounts : ExtTreeMap String Nat

namespace Resolution

/-- The types of what is gathered from the main component. -/
abbrev Parts : List Type :=
  [Option SlackCandidate, Generation, List LoadDefinition, ExtTreeMap String HvdcDefinition,
    DynamicModelSurvey, ExtTreeMap String Nat]

def panel (options : Options) : Panel Parts :=
  .cons SlackCandidate.visitor <|
  .cons (Generation.visitor options.unlimitedReactivePower) <|
  .cons (LoadDefinition.visitor options.loadThreshold) <|
  .cons HvdcDefinition.visitor <|
  .cons DynamicModelSurvey.visitor <|
  .cons shuntCountVisitor .nil

def start (survey : DynamicModelSurvey) : States Parts :=
  (none, {}, [], ∅, survey, ∅, ())

/-- The resolution made up of the main component and the final states. -/
def ofParts (mainComponent : List Node) (parts : States Parts) : Resolution :=
  let (slack, generation, loads, hvdcLines, survey, shuntCounts, _) := parts
  { mainComponent := ExtTreeSet.ofList (mainComponent.map Node.id)
    slackNode := slack.map fun candidate => candidate.node.id
    generators := generation.definitions
    representatives := generation.representatives
    loads
    hvdcLines
    dynamicModels := survey.result
    shuntCounts }

end Resolution

open Resolution in
def resolve (network : Network) (config : AutomatonConfig) (locator : Locator)
    (options : Options) : Logged (Except Fault Resolution) :=
  let search := traverse MainComponent.visitor network network.nodes {}
  match search.fault with
  | some fault => { value := .error fault, events := search.events }
  | none =>
    let main := search.state.nodes
    let survey := DynamicModelSurvey.prepare config locator
    let outcome := traverse (panel options).visitor network main (start survey.value)
    let events := search.events ++ .mainComponent main.length network.nodes.length ::
      (survey.events ++ outcome.events)
    match outcome.fault with
    | some fault => { value := .error fault, events }
    | none =>
      let resolution := ofParts main outcome.state
      { value := .ok resolution
        events := events ++ resolution.dynamicModels.unusedEvents }

end GridSetup
