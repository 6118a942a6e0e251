import GridSetup.Network.Assembly

/-! # Building a network

A network is built from nodes, branches and HVDC lines, in this order. Each
part is checked against the network as it stands when the part comes, and the
first fault found ends the building. The buses that generators regulate are
checked last, when all nodes are there. -/

namespace GridSetup

def hasNode (nodes : List Node) (id : String) : Bool :=
  nodes.any fun node => node.id == id

/-- A network to which nodes are being added, with the kind and id of all
equipment that came with them. -/
structure Intake where
  network : Network := {}
  equipment : List (EquipmentKind × String) := []

namespace Intake

def note (seen : List (EquipmentKind × String)) (item : EquipmentKind × String) :
    Except Fault (List (EquipmentKind × String)) :=
  if item ∈ seen then .error (.repeatedEquipment item.1 item.2) else .ok (seen ++ [item])

/-- Takes in a node with an id of its own, all of whose equipment is new. -/
def addNode (intake : Intake) (node : Node) : Except Fault Intake :=
  if hasNode intake.network.nodes node.id then .error (.repeatedNode node.id)
  else do
    let equipment ← node.equipment.foldlM note intake.equipment
    return { network := intake.network.addNode node, equipment }

end Intake

namespace Network

def hasBranch (network : Network) (kind : BranchKind) (id : String) : Bool :=
  match kind with
  | .line => network.lines.any fun line => line.id == id
  | .transformer => network.transformers.any fun transformer => transformer.id == id
  | .switch => network.switches.any fun switch => switch.id == id

/-- Passes an end of a branch that is a node and none of the ends before it. -/
def checkEnd (network : Network) (branch : Branch) (earlier : List String) (nodeId : String) :
    Except Fault (List String) :=
  if nodeId ∈ earlier then .error (.repeatedEnd branch.kind branch.id)
  else if hasNode network.nodes nodeId then .ok (earlier ++ [nodeId])
  else .error (.missingEnd branch.kind branch.id nodeId)

/-- Adds a branch with an id of its own among those of its kind, and proper
ends. -/
def insertBranch (network : Network) (branch : Branch) : Except Fault Network :=
  if network.hasBranch branch.kind branch.id then
    .error (.repeatedBranch branch.kind branch.id)
  else do
    let _ ← branch.ends.foldlM (network.checkEnd branch) []
    return network.addBranch branch

def insertConverter (lineId : String) (network : Network) (entry : Side × Converter) :
    Except Fault Network :=
  if network.converters.contains entry.2.id then .error (.repeatedConverter entry.2.id)
  else if hasNode network.nodes entry.2.bus then .ok (addConverter lineId network entry)
  else .error (.missingConverterBus lineId entry.2.bus)

/-- Adds an HVDC line with an id of its own, converter by converter. -/
def insertHvdcLine (network : Network) (line : HvdcLine) : Except Fault Network :=
  if network.hvdcLines.any fun other => other.id == line.id then
    .error (.repeatedHvdcLine line.id)
  else do
    let network ← line.sides.foldlM (insertConverter line.id) network
    return { network with hvdcLines := network.hvdcLines ++ [line] }

def insertRegulator (network : Network) (generator : Generator) : Except Fault Network :=
  if hasNode network.nodes generator.regulatedBus then .ok (network.countRegulator generator)
  else .error (.missingRegulatedBus generator.id generator.regulatedBus)

/-- The network with the given parts, or the first fault found in them. -/
def build (nodes : List Node) (branches : List Branch) (hvdcLines : List HvdcLine) :
    Except Fault Network := do
  let intake ← nodes.foldlM Intake.addNode {}
  let network ← branches.foldlM insertBranch intake.network
  let network ← hvdcLines.foldlM insertHvdcLine network
  (network.nodes.flatMap Node.generators).foldlM insertRegulator network

end Network
end GridSetup
