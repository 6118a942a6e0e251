import GridSetup.Network.Basic

/-! # The steps of building a network

What adding one part does to a network, the part being sound. A branch is
registered once for each of its ends and a converter where it stands, a line
or a transformer also links its ends, and a generator is counted on the bus it
regulates. -/

namespace GridSetup

/-- All pairs of elements of a list, in the order of the list. -/
def pairs {α : Type} : List α → List (α × α)
  | [] => []
  | x :: rest => rest.map (fun y => (x, y)) ++ pairs rest

namespace Node

/-- Lists a branch on the node. -/
def registerBranch (branch : Branch) (node : Node) : Node :=
  match branch with
  | .line line => { node with lines := node.lines ++ [line.id] }
  | .transformer transformer =>
    { node with transformers := node.transformers ++ [transformer.id] }
  | .switch switch => { node with switches := node.switches ++ [switch.id] }

/-- Lists a converter on the node. -/
def registerConverter (converter : Converter) (node : Node) : Node :=
  { node with converters := node.converters ++ [converter.id] }

/-- Changes the node with the given id, and no other. -/
def updateAt (id : String) (change : Node → Node) (nodes : List Node) : List Node :=
  nodes.map fun node => if node.id = id then change node else node

end Node

namespace Network

/-- Links two nodes, unless a link joins them already. -/
def link (links : List Link) (ends : String × String) : List Link :=
  if links.any fun link => link.joins ends.1 ends.2 then links
  else { origin := ends.1, target := ends.2 } :: links

/-- Adds a node and lists it in its voltage level. Registrations it brings
along from another network are dropped. -/
def addNode (network : Network) (node : Node) : Network :=
  { network with
    nodes := network.nodes ++ [node.unregistered]
    levels := network.levels.alter node.voltageLevel fun ids =>
      some (ids.getD [] ++ [node.id]) }

/-- Adds a branch, which links its ends unless it is a switch. -/
def addBranch (network : Network) (branch : Branch) : Network :=
  let register (nodes : List Node) (id : String) : List Node :=
    Node.updateAt id (Node.registerBranch branch) nodes
  let network := { network with nodes := branch.ends.foldl register network.nodes }
  match branch with
  | .line line =>
    { network with
      lines := network.lines ++ [line]
      links := (pairs line.ends).foldl link network.links }
  | .transformer transformer =>
    { network with
      transformers := network.transformers ++ [transformer]
      links := (pairs transformer.ends).foldl link network.links }
  | .switch switch => { network with switches := network.switches ++ [switch] }

/-- Adds the converter on one side of an HVDC line. -/
def addConverter (lineId : String) (network : Network) (entry : Side × Converter) : Network :=
  { network with
    nodes := Node.updateAt entry.2.bus (Node.registerConverter entry.2) network.nodes
    converters := network.converters.insert entry.2.id (lineId, entry.1) }

def addHvdcLine (network : Network) (line : HvdcLine) : Network :=
  let network := line.sides.foldl (addConverter line.id) network
  { network with hvdcLines := network.hvdcLines ++ [line] }

/-- Counts a generator on the bus it regulates. -/
def countRegulator (network : Network) (generator : Generator) : Network :=
  { network with
    regulators := network.regulators.alter generator.regulatedBus fun count =>
      some (count.getD 0 + 1) }

end Network
end GridSetup
