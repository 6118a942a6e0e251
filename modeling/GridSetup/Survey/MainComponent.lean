import GridSetup.Network.Reach
import GridSetup.Survey.Visitor

/-! # The main component

Of the connected components of the visited nodes the largest is kept, the
earliest one if several are equally large. A node whose component was seen
before is passed over. -/

namespace GridSetup

structure MainComponent where
  /-- The ids of all nodes whose component was seen. -/
  marked : List String := []
  /-- The nodes of the largest component, in the order of discovery. -/
  nodes : List Node := []

namespace MainComponent

def consider (state : MainComponent) (component : List Node) : MainComponent :=
  { marked := component.map Node.id ++ state.marked
    nodes := if state.nodes.length < component.length then component else state.nodes }

/-- The visitor that keeps the largest component. -/
def visitor : Visitor MainComponent := fun network node state =>
  if node.id ∈ state.marked then { state }
  else
    match network.reachableNodes node.id with
    | .error fault => { state, fault }
    | .ok component => { state := state.consider component }

end MainComponent
end GridSetup
