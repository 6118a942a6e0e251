import GridSetup.Survey.Visitor

/-! # Loads and shunts

Loads are modelled from a voltage on. Below it, by more than the tolerance,
the loads of a node are ignored, which is reported for each of them. Shunts
are only counted, by voltage level: a level whose nodes bear none is counted
with zero. -/

namespace GridSetup

open Std (ExtTreeMap)

/-- A load as the simulation needs it. -/
structure LoadDefinition where
  id : String
  nodeId : String
  deriving DecidableEq

namespace LoadDefinition

def of (load : Load) : LoadDefinition := { id := load.id, nodeId := load.nodeId }

/-- Whether the loads of a node are ignored. -/
def isIgnored (threshold : Float) (node : Node) : Bool :=
  Voltage.below node.nominalVoltage threshold

def ignoredEvent (threshold : Float) (node : Node) (load : Load) : Event :=
  .ignoredLoad load.id node.id node.nominalVoltage threshold

/-- The visitor that defines the loads from a voltage on. -/
def visitor (threshold : Float) : Visitor (List LoadDefinition) := fun _ node state =>
  if isIgnored threshold node then
    { state, events := node.loads.map (ignoredEvent threshold node) }
  else { state := state ++ node.loads.map of }

end LoadDefinition

/-- The visitor that counts shunts by voltage level. -/
def shuntCountVisitor : Visitor (ExtTreeMap String Nat) := fun _ node state =>
  { state := state.alter node.voltageLevel fun count =>
      some (count.getD 0 + node.shunts.length) }

end GridSetup
