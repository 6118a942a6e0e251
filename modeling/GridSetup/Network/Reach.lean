import GridSetup.Network.Basic
import GridSetup.Walk

/-! # What can be reached in a network

Two walks over the nodes of a network: one along its links, which gives the
connected component of a node, and one through closed switches, on which a
node with some property is searched. Both give the node they start from first
and the others in the order in which the walk takes them. -/

namespace GridSetup

structure Search where
  found : Option Node
  tested : List Node

/-- The test knows the nodes that were tried before. -/
def Search.run (accepts : List Node → Node → Bool) (tested : List Node) :
    List Node → Search
  | [] => { found := none, tested }
  | node :: rest =>
    if accepts tested node then { found := some node, tested := tested ++ [node] }
    else run accepts (tested ++ [node]) rest

namespace Network

def reachableNodes (network : Network) (start : String) : Except Fault (List Node) := do
  let start ← network.node start
  let ids ← depthFirst (fun id => .ok (network.neighborIds id))
    (network.nodes.map Node.id) start.id
  ids.mapM network.node

/-- The node at the other end of a switch, unless the switch is open. -/
def acrossClosedSwitch (network : Network) (nodeId switchId : String) :
    Except Fault (List String) := do
  let switch ← network.switch switchId
  if switch.isOpen then return []
  match switch.otherEnd? nodeId with
  | some otherId =>
    let other ← network.node otherId
    return [other.id]
  | none => throw (.misplacedSwitch switchId nodeId)

def closedNeighborIds (network : Network) (nodeId : String) :
    Except Fault (List String) := do
  let node ← network.node nodeId
  let across ← node.switches.mapM (network.acrossClosedSwitch nodeId)
  return across.flatten

def closedSwitchGroup (network : Network) (start : String) : Except Fault (List Node) := do
  let start ← network.node start
  let ids ← depthFirst network.closedNeighborIds (network.nodes.map Node.id) start.id
  ids.mapM network.node

/-- Searches a node on the way through closed switches. The node it starts
from is not tried. -/
def findThroughClosedSwitches (network : Network) (start : String)
    (accepts : List Node → Node → Bool) : Except Fault Search := do
  let group ← network.closedSwitchGroup start
  return Search.run accepts [] group.tail

end Network
end GridSetup
