import GridSetup.Equipment

/-! # Nodes

A node belongs to a voltage level and bears equipment. It also lists the ids
of the branches that end on it and of the converters that stand on it; these
registrations are written when a network is assembled and mean nothing
before.

Nodes are compared by id alone. Their nominal voltages come from measurements
and conversions, so these are compared with a small tolerance. -/

namespace GridSetup

/-- A node of a network. Everything attached to it carries its id. -/
structure Node where
  id : String
  voltageLevel : String
  nominalVoltage : Float
  shunts : List Shunt := []
  loads : List Load := []
  generators : List Generator := []
  -- ids of the branches that end on the node and of the converters that stand there
  lines : List String := []
  transformers : List String := []
  switches : List String := []
  converters : List String := []
  loads_attached : ∀ load ∈ loads, load.nodeId = id := by simp
  generators_attached : ∀ generator ∈ generators, generator.nodeId = id := by simp

namespace Node

def withShunts (node : Node) (shunts : List Shunt) : Node :=
  { node with shunts := node.shunts ++ shunts }

/-- Adds a load, which from then on carries the id of the node. -/
def withLoad (node : Node) (load : Load) : Node :=
  { node with
    loads := node.loads ++ [{ load with nodeId := node.id }]
    loads_attached := by
      intro l hl
      rcases List.mem_append.mp hl with hl | hl
      · exact node.loads_attached l hl
      · rw [List.mem_singleton.mp hl] }

def withGenerator (node : Node) (generator : Generator) : Node :=
  { node with
    generators := node.generators ++ [{ generator with nodeId := node.id }]
    generators_attached := by
      intro g hg
      rcases List.mem_append.mp hg with hg | hg
      · exact node.generators_attached g hg
      · rw [List.mem_singleton.mp hg] }

/-- The node without registrations: what it is outside of any network. -/
def unregistered (node : Node) : Node :=
  { node with lines := [], transformers := [], switches := [], converters := [] }

/-- The kind and id of each piece of equipment: shunts, then generators, then
loads. -/
def equipment (node : Node) : List (EquipmentKind × String) :=
  node.shunts.map (fun shunt => (.shunt, shunt.id)) ++
    (node.generators.map (fun generator => (.generator, generator.id)) ++
      node.loads.map (fun load => (.load, load.id)))

def order (a b : Node) : Ordering := compare a.id b.id

def same (a b : Node) : Bool := a.id == b.id

def sort (nodes : List Node) : List Node :=
  nodes.mergeSort fun a b => (order a b).isLE

/-- Of each run of nodes with one id, keeps the last. -/
def dropShadowed : List Node → List Node
  | [] => []
  | [node] => [node]
  | node :: next :: rest =>
    if same node next then dropShadowed (next :: rest)
    else node :: dropShadowed (next :: rest)

/-- The ordered set of the given nodes: one node for each id, the last one
given. -/
def orderedSet (nodes : List Node) : List Node := dropShadowed (sort nodes)

end Node

/-! ## Comparing voltages

All comparisons are those of floating-point numbers: nothing is alike, higher
or below where a number is missing. -/

namespace Voltage

/-- The difference up to which two voltages count as equal. -/
def tolerance : Float := 1e-6

def alike (a b : Float) : Bool := (a - b).abs ≤ tolerance

def higher (a b : Float) : Bool := 0 < a - b

/-- Whether a voltage is below a threshold by more than the tolerance. -/
def below (voltage threshold : Float) : Bool := voltage < threshold - tolerance

end Voltage
end GridSetup
