import GridSetup.Diagram
import GridSetup.Network.Reach
import GridSetup.Survey.Visitor

/-! # Generator definitions

Every generator of a visited node is defined for the simulation. Its model
depends on how it shares the regulation of its bus and on whether a reactive
diagram limits it. Generators that regulate a bus together do so in
proportion, and the first of them is noted as the one that stands for the bus. -/

namespace GridSetup

open Std (ExtTreeMap)

inductive Regulation where
  /-- The voltage of its own node. -/
  | localBus
  /-- The voltage of another node. -/
  | remoteBus
  /-- Together with other generators, in proportion. -/
  | proportional
  deriving DecidableEq, Repr

/-- The models a generator may have in the simulation. -/
inductive ModelType where
  | signal
  | diagramSignal
  | remoteSignal
  | remoteDiagramSignal
  | proportionalSignal
  | proportionalDiagramSignal
  deriving DecidableEq, Repr

namespace ModelType

def new : Regulation → Bool → ModelType
  | .localBus, false => signal
  | .localBus, true => diagramSignal
  | .remoteBus, false => remoteSignal
  | .remoteBus, true => remoteDiagramSignal
  | .proportional, false => proportionalSignal
  | .proportional, true => proportionalDiagramSignal

def usesDiagram : ModelType → Bool
  | diagramSignal | remoteDiagramSignal | proportionalDiagramSignal => true
  | _ => false

def regulation : ModelType → Regulation
  | signal | diagramSignal => .localBus
  | remoteSignal | remoteDiagramSignal => .remoteBus
  | proportionalSignal | proportionalDiagramSignal => .proportional

/-- The name of the model in the libraries of the simulation. -/
def name : ModelType → String
  | signal => "GeneratorPVSignalN"
  | diagramSignal => "GeneratorPVDiagramPQSignalN"
  | remoteSignal => "GeneratorPVRemoteSignalN"
  | remoteDiagramSignal => "GeneratorPVRemoteDiagramPQSignalN"
  | proportionalSignal => "GeneratorPQPropSignalN"
  | proportionalDiagramSignal => "GeneratorPQPropDiagramPQSignalN"

end ModelType

/-- What the model of a generator is chosen by. -/
structure GeneratorModel where
  regulation : Regulation
  usesDiagram : Bool
  deriving DecidableEq, Repr

namespace GeneratorModel

def type (model : GeneratorModel) : ModelType := .new model.regulation model.usesDiagram

def name (model : GeneratorModel) : String := model.type.name

end GeneratorModel

/-- A generator as the simulation needs it. -/
structure GeneratorDefinition where
  id : String
  model : ModelType
  nodeId : String
  points : List CurvePoint
  pMin : Float
  pMax : Float
  qMin : Float
  qMax : Float
  targetP : Float
  regulatedBus : String
  /-- Whether closed switches lead to another node with generators. -/
  coupled : Bool
  deriving DecidableEq

def Network.regulation (network : Network) (generator : Generator) : Regulation :=
  if 1 < network.regulatorCount generator.regulatedBus then .proportional
  else if generator.regulatesRemotely then .remoteBus
  else .localBus

structure Generation where
  definitions : List GeneratorDefinition := []
  /-- The generator that stands for each bus regulated in proportion. -/
  representatives : ExtTreeMap String String := ∅

namespace Generation

-- without limits on the reactive power no diagram is looked at
def usesDiagram (unlimited : Bool) (generator : Generator) : Logged Bool :=
  if unlimited then { value := false } else generator.hasDiagram

/-- Adds the definition of a generator of a node. -/
def define (unlimited : Bool) (network : Network) (node : Node) (coupled : Bool)
    (state : Generation) (generator : Generator) : Generation :=
  let regulation := network.regulation generator
  { definitions := state.definitions ++ [{
      id := generator.id
      model := .new regulation (usesDiagram unlimited generator).value
      nodeId := node.id
      points := generator.points
      pMin := generator.pMin
      pMax := generator.pMax
      qMin := generator.qMin
      qMax := generator.qMax
      targetP := generator.targetP
      regulatedBus := generator.regulatedBus
      coupled }]
    representatives :=
      if regulation = .proportional then
        state.representatives.insertIfNew generator.regulatedBus generator.id
      else state.representatives }

def isSource (node : Node) : Bool := !node.generators.isEmpty

def visitor (unlimited : Bool) : Visitor Generation := fun network node state =>
  if !isSource node then { state }
  else
    match network.findThroughClosedSwitches node.id fun _ other => isSource other with
    | .error fault => { state, fault }
    | .ok search =>
      let coupled := search.found.isSome
      { state := node.generators.foldl (define unlimited network node coupled) state
        events := node.generators.flatMap fun generator =>
          (usesDiagram unlimited generator).events }

end Generation
end GridSetup
