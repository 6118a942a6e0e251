import GridSetup.Survey.Visitor

/-! # The slack node

The reference node of a simulation should have a high voltage and many
neighbours. Among voltages that count as equal the number of neighbours
decides. A candidate is replaced only by a better one. -/

namespace GridSetup

/-- A node that may become the slack node. -/
structure SlackCandidate where
  node : Node
  neighbors : Nat

namespace SlackCandidate

/-- Whether another candidate is better. -/
def beatenBy (best other : SlackCandidate) : Bool :=
  if Voltage.alike other.node.nominalVoltage best.node.nominalVoltage then
    best.neighbors < other.neighbors
  else Voltage.higher other.node.nominalVoltage best.node.nominalVoltage

def better (best : Option SlackCandidate) (other : SlackCandidate) : SlackCandidate :=
  match best with
  | none => other
  | some best => if best.beatenBy other then other else best

/-- The visitor that looks for the best candidate. -/
def visitor : Visitor (Option SlackCandidate) := fun network node best =>
  match network.neighborCount node.id with
  | .error fault => { state := best, fault }
  | .ok neighbors => { state := some (better best { node, neighbors }) }

end SlackCandidate
end GridSetup
