import GridSetup.Network.Construction

/-! # Parts inspected before they are put together

Building a network holds each part against the network as it stands. The same
verdict can be had from the parts alone: they are inspected in the order in
which they are given, each against those before it, and if no fault is found
they are all put together. -/

namespace GridSetup

/-- The first fault that `check` finds on going through a list, where each
element is checked knowing the elements before it. -/
def firstFault {α ε : Type} (check : List α → α → Option ε) (earlier : List α) :
    List α → Option ε
  | [] => none
  | x :: rest => (check earlier x).or (firstFault check (earlier ++ [x]) rest)

namespace Inspection

def equipmentFault? (earlier : List (EquipmentKind × String))
    (item : EquipmentKind × String) : Option Fault :=
  if earlier.contains item then some (.repeatedEquipment item.1 item.2) else none

/-- A node must have an id of its own, and so must all of its equipment. -/
def nodeFault? (earlier : List Node) (node : Node) : Option Fault :=
  if hasNode earlier node.id then some (.repeatedNode node.id)
  else firstFault equipmentFault? (earlier.flatMap Node.equipment) node.equipment

def endFault? (nodes : List Node) (branch : Branch) (earlier : List String)
    (nodeId : String) : Option Fault :=
  if nodeId ∈ earlier then some (.repeatedEnd branch.kind branch.id)
  else if hasNode nodes nodeId then none
  else some (.missingEnd branch.kind branch.id nodeId)

def branchFault? (nodes : List Node) (earlier : List Branch) (branch : Branch) :
    Option Fault :=
  if earlier.any fun other => other.kind == branch.kind && other.id == branch.id then
    some (.repeatedBranch branch.kind branch.id)
  else firstFault (endFault? nodes branch) [] branch.ends

def converterFault? (nodes : List Node) (lineId : String) (earlier : List Converter)
    (converter : Converter) : Option Fault :=
  if earlier.any fun other => other.id == converter.id then
    some (.repeatedConverter converter.id)
  else if hasNode nodes converter.bus then none
  else some (.missingConverterBus lineId converter.bus)

def hvdcLineFault? (nodes : List Node) (earlier : List HvdcLine) (line : HvdcLine) :
    Option Fault :=
  if earlier.any fun other => other.id == line.id then
    some (.repeatedHvdcLine line.id)
  else firstFault (converterFault? nodes line.id)
    (earlier.flatMap HvdcLine.converters) line.converters

def regulationFault? (nodes : List Node) (generator : Generator) : Option Fault :=
  if hasNode nodes generator.regulatedBus then none
  else some (.missingRegulatedBus generator.id generator.regulatedBus)

end Inspection

open Inspection in
/-- The first fault among the parts of a network, if there is any. -/
def inspect (nodes : List Node) (branches : List Branch) (hvdcLines : List HvdcLine) :
    Option Fault :=
  (firstFault nodeFault? [] nodes).or <|
    (firstFault (branchFault? nodes) [] branches).or <|
      (firstFault (hvdcLineFault? nodes) [] hvdcLines).or <|
        (nodes.flatMap Node.generators).findSome? (regulationFault? nodes)

/-- The network of parts that are taken to be sound. -/
def Network.assemble (nodes : List Node) (branches : List Branch) (hvdcLines : List HvdcLine) :
    Network :=
  let network : Network := nodes.foldl addNode {}
  let network := branches.foldl addBranch network
  let network := hvdcLines.foldl addHvdcLine network
  (nodes.flatMap Node.generators).foldl countRegulator network

end GridSetup
