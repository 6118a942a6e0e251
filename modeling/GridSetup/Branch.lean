/-! # Branches

A branch connects two nodes, or three in the case of a transformer with three
windings. -/

namespace GridSetup

/-- The kinds of branches, whose ids are kept apart from each other. -/
inductive BranchKind where
  | line
  | transformer
  | switch
  deriving DecidableEq, Repr

/-- The name of a kind of branch in running text. -/
def BranchKind.name : BranchKind → String
  | .line => "line"
  | .transformer => "transformer"
  | .switch => "switch"

/-- The name of a kind of branch at the start of a sentence. -/
def BranchKind.title : BranchKind → String
  | .line => "Line"
  | .transformer => "Transformer"
  | .switch => "Switch"

/-- An overhead line or cable. -/
structure Line where
  id : String
  first : String
  second : String
  /-- The season whose limits are active, if any is. -/
  season : Option String := none
  deriving DecidableEq

def Line.ends (line : Line) : List String := [line.first, line.second]

/-- The nodes the windings of a transformer end on. -/
inductive Windings where
  | two (first second : String)
  | three (first second third : String)
  deriving DecidableEq

structure Transformer where
  id : String
  windings : Windings
  deriving DecidableEq

def Transformer.ends (transformer : Transformer) : List String :=
  match transformer.windings with
  | .two first second => [first, second]
  | .three first second third => [first, second, third]

structure Switch where
  id : String
  first : String
  second : String
  isOpen : Bool
  deriving DecidableEq

namespace Switch

def ends (switch : Switch) : List String := [switch.first, switch.second]

/-- The end opposite to the given node, if the switch ends there at all. -/
def otherEnd? (switch : Switch) (nodeId : String) : Option String :=
  if switch.first = nodeId then some switch.second
  else if switch.second = nodeId then some switch.first
  else none

end Switch

inductive Branch where
  | line (line : Line)
  | transformer (transformer : Transformer)
  | switch (switch : Switch)
  deriving DecidableEq

namespace Branch

def kind : Branch → BranchKind
  | .line _ => .line
  | .transformer _ => .transformer
  | .switch _ => .switch

def id : Branch → String
  | .line l => l.id
  | .transformer t => t.id
  | .switch s => s.id

def ends : Branch → List String
  | .line l => l.ends
  | .transformer t => t.ends
  | .switch s => s.ends

end Branch
end GridSetup
