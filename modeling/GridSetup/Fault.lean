import GridSetup.Branch
import GridSetup.Equipment

/-! # Faults

Everything that can be wrong with the description of a network or with a
look-up in one, by cause. `Fault.kind` sorts the causes into a few kinds and
`Fault.message` puts each into words. -/

namespace GridSetup

/-- The kinds of elements, other than nodes, that are looked up by id. -/
inductive ElementKind where
  | voltageLevel
  | line
  | transformer
  | switch
  | hvdcLine
  | converter
  deriving DecidableEq, Repr

/-- The name of a kind of element at the start of a sentence. -/
def ElementKind.title : ElementKind → String
  | .voltageLevel => "Voltage level"
  | .line => "Line"
  | .transformer => "Transformer"
  | .switch => "Switch"
  | .hvdcLine => "HVDC line"
  | .converter => "Converter"

/-- A reason for which a network is refused or a look-up finds nothing. -/
inductive Fault where
  | unknownNode (id : String)
  | unknownElement (kind : ElementKind) (id : String)
  | repeatedNode (id : String)
  | repeatedEquipment (kind : EquipmentKind) (id : String)
  | repeatedBranch (kind : BranchKind) (id : String)
  /-- A branch that ends twice on one node. -/
  | repeatedEnd (kind : BranchKind) (branch : String)
  /-- A branch that ends on no node of the network. -/
  | missingEnd (kind : BranchKind) (branch node : String)
  | repeatedHvdcLine (id : String)
  | repeatedConverter (id : String)
  /-- A converter that stands on no node of the network. -/
  | missingConverterBus (line bus : String)
  /-- A generator that regulates no node of the network. -/
  | missingRegulatedBus (generator bus : String)
  /-- A switch that is registered on a node it does not end on. -/
  | misplacedSwitch (switch node : String)
  deriving DecidableEq, Repr

inductive FaultKind where
  | nodeNotFound
  | elementNotFound
  | invalidElement
  | invalidEdge
  | invalidGraph
  | internal
  deriving DecidableEq, Repr

namespace Fault

def kind : Fault → FaultKind
  | .unknownNode _ => .nodeNotFound
  | .unknownElement _ _ => .elementNotFound
  | .repeatedNode _ => .invalidGraph
  | .repeatedEquipment _ _ => .invalidElement
  | .repeatedBranch _ _ => .invalidEdge
  | .repeatedEnd _ _ => .invalidEdge
  | .missingEnd _ _ _ => .invalidEdge
  | .repeatedHvdcLine _ => .invalidEdge
  | .repeatedConverter _ => .invalidElement
  | .missingConverterBus _ _ => .invalidEdge
  | .missingRegulatedBus _ _ => .invalidElement
  | .misplacedSwitch _ _ => .internal

def message : Fault → String
  | .unknownNode id => s!"Node with id {id} not found."
  | .unknownElement kind id => s!"{kind.title} with id {id} not found."
  | .repeatedNode id => s!"Duplicate node ID found: {id}"
  | .repeatedEquipment kind id => s!"Duplicate {kind.name} ID found: {id}"
  | .repeatedBranch kind id => s!"Duplicate {kind.name} ID found: {id}"
  | .repeatedEnd kind branch =>
    s!"{kind.title}:{branch} Can't connect a node to itself."
  | .missingEnd kind branch node =>
    s!"{kind.title}:{branch} Can't find a node with ID {node}"
  | .repeatedHvdcLine id => s!"Duplicate HVDC line ID found: {id}"
  | .repeatedConverter id => s!"Duplicate converter ID found: {id}"
  | .missingConverterBus line bus =>
    s!"HvdcLine:{line} Can't find a node with ID {bus}"
  | .missingRegulatedBus generator bus =>
    s!"Generator:{generator} regulates bus {bus}, which can't be found."
  | .misplacedSwitch switch node =>
    s!"Switch {switch} is registered on node {node} but doesn't end there."

/-- What was found, or the fault of not having found it. -/
def orFound {α : Type} (fault : Fault) : Option α → Except Fault α
  | some found => .ok found
  | none => .error fault

end Fault
end GridSetup
