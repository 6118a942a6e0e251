import GridSetup.Fault
import GridSetup.Hvdc
import GridSetup.Node
import Std.Data.ExtTreeMap

/-! # Networks and look-ups in them

A network keeps its nodes and branches in the order in which they were given.
Two nodes joined by a line or a transformer are linked, by one link however
many branches join them. Look-ups by id either find the element or say which
id is unknown. -/

namespace GridSetup

open Std (ExtTreeMap)

/-- A link between two neighbouring nodes, from the end named first by the
branch that made it. -/
structure Link where
  origin : String
  target : String
  deriving DecidableEq

namespace Link

/-- Whether the link joins the two nodes, in either direction. -/
def joins (link : Link) (a b : String) : Bool :=
  (link.origin == a && link.target == b) || (link.origin == b && link.target == a)

/-- The other ends of the links of a node: of those that start there, then of
those that only end there. -/
def farEnds (links : List Link) (id : String) : List String :=
  (links.filter fun link => link.origin == id).map Link.target ++
    (links.filter fun link => link.target == id && link.origin != id).map Link.origin

end Link

/-- A voltage level with the ids of its nodes. -/
structure VoltageLevel where
  id : String
  nodes : List String
  deriving DecidableEq

/-- A power network. `Network.build` makes it from its parts. -/
structure Network where
  nodes : List Node := []
  lines : List Line := []
  transformers : List Transformer := []
  switches : List Switch := []
  hvdcLines : List HvdcLine := []
  /-- The id of the HVDC line that each converter belongs to, and its side. -/
  converters : ExtTreeMap String (String × Side) := ∅
  /-- The links between neighbours, the newest first. -/
  links : List Link := []
  /-- The ids of the nodes of each voltage level. -/
  levels : ExtTreeMap String (List String) := ∅
  /-- The number of generators that regulate each bus, where there are any. -/
  regulators : ExtTreeMap String Nat := ∅

namespace Network

/-- The first node with the given id, if there is one. -/
def node? (network : Network) (id : String) : Option Node :=
  network.nodes.find? fun node => node.id == id

def node (network : Network) (id : String) : Except Fault Node :=
  (Fault.unknownNode id).orFound (network.node? id)

/-- The ids of the neighbours of a node: those it was linked to, then those
that were linked to it, the newest link first. -/
def neighborIds (network : Network) (id : String) : List String :=
  Link.farEnds network.links id

/-- The neighbours of a node, in the order of `neighborIds`. -/
def neighbors (network : Network) (id : String) : Except Fault (List Node) := do
  let _ ← network.node id
  (network.neighborIds id).mapM network.node

def neighborCount (network : Network) (id : String) : Except Fault Nat :=
  (network.neighbors id).map List.length

def voltageLevel (network : Network) (id : String) : Except Fault VoltageLevel :=
  (Fault.unknownElement .voltageLevel id).orFound
    ((network.levels[id]?).map fun nodes => { id, nodes })

def voltageLevels (network : Network) : List VoltageLevel :=
  network.levels.toList.map fun level => { id := level.1, nodes := level.2 }

def line (network : Network) (id : String) : Except Fault Line :=
  (Fault.unknownElement .line id).orFound
    (network.lines.find? fun line => line.id == id)

def transformer (network : Network) (id : String) : Except Fault Transformer :=
  (Fault.unknownElement .transformer id).orFound
    (network.transformers.find? fun transformer => transformer.id == id)

def switch (network : Network) (id : String) : Except Fault Switch :=
  (Fault.unknownElement .switch id).orFound
    (network.switches.find? fun switch => switch.id == id)

def hvdcLine (network : Network) (id : String) : Except Fault HvdcLine :=
  (Fault.unknownElement .hvdcLine id).orFound
    (network.hvdcLines.find? fun line => line.id == id)

/-- The HVDC line a converter belongs to, with the side the converter is on. -/
def hvdcLineOfConverter (network : Network) (converterId : String) :
    Except Fault (HvdcLine × Side) := do
  let (lineId, side) ← (Fault.unknownElement .converter converterId).orFound
    network.converters[converterId]?
  return (← network.hvdcLine lineId, side)

def regulatorCount (network : Network) (bus : String) : Nat :=
  network.regulators.getD bus 0

end Network
end GridSetup
