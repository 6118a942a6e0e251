/-! # Equipment connected to a node

Shunts, loads and generators. A load or generator carries the id of the node
it is attached to, which stays empty until a node takes it in. -/

namespace GridSetup

/-- The kinds of equipment whose ids are kept apart from each other. -/
inductive EquipmentKind where
  | shunt
  | generator
  | load
  deriving DecidableEq, Repr

def EquipmentKind.name : EquipmentKind → String
  | .shunt => "shunt"
  | .generator => "generator"
  | .load => "load"

structure Shunt where
  id : String
  deriving DecidableEq

structure Load where
  id : String
  /-- The node the load is attached to, empty while it is on no node. -/
  nodeId : String := ""
  deriving DecidableEq

/-- One point of a reactive capability curve: at active power `p` the reactive
power lies between `qMin` and `qMax`. -/
structure CurvePoint where
  p : Float
  qMin : Float
  qMax : Float
  deriving DecidableEq

/-- A generator, which regulates the voltage of one bus. -/
structure Generator where
  id : String
  regulatedBus : String
  /-- The node the generator is attached to, empty while it is on no node. -/
  nodeId : String := ""
  points : List CurvePoint := []
  pMin : Float := 0
  pMax : Float := 0
  qMin : Float := 0
  qMax : Float := 0
  targetP : Float := 0
  deriving DecidableEq

/-- Whether the generator regulates a bus other than its own node. -/
def Generator.regulatesRemotely (generator : Generator) : Bool :=
  generator.regulatedBus != generator.nodeId

end GridSetup
