import GridSetup.Survey.Visitor

/-! # Positions of HVDC lines

An HVDC line is kept if one of its converters stands on a visited node, and
its position tells which of them do. -/

namespace GridSetup

open Std (ExtTreeMap)

inductive HvdcPosition where
  | first
  | second
  | both
  deriving DecidableEq, Repr

namespace HvdcPosition

/-- The position of a line of which one converter was met. -/
def ofSide : Side → HvdcPosition
  | .first => .first
  | .second => .second

/-- The position of a line once the converter on one more side is met. -/
def addSide (position : HvdcPosition) (side : Side) : HvdcPosition :=
  if position = ofSide side then position else .both

end HvdcPosition

/-- An HVDC line as the simulation needs it. -/
structure HvdcDefinition where
  id : String
  type : ConverterType
  first : Converter
  second : Converter
  position : HvdcPosition
  deriving DecidableEq

namespace HvdcDefinition

/-- The definition of a line of which the converter on one side was met. -/
def new (line : HvdcLine) (side : Side) : HvdcDefinition where
  id := line.id
  type := line.type
  first := line.converter .first
  second := line.converter .second
  position := .ofSide side

/-- The line that is defined. -/
def line (definition : HvdcDefinition) : HvdcLine where
  id := definition.id
  type := definition.type
  first := definition.first
  second := definition.second

/-- Notes that the converter on one side of a line was met. -/
def meet (definitions : ExtTreeMap String HvdcDefinition) (line : HvdcLine) (side : Side) :
    ExtTreeMap String HvdcDefinition :=
  definitions.alter line.id fun
    | some known => some { known with position := known.position.addSide side }
    | none => some (new line side)

/-- Goes through converters by id, up to one that belongs to no line. -/
def meetAll (network : Network) :
    List String → ExtTreeMap String HvdcDefinition → Outcome (ExtTreeMap String HvdcDefinition)
  | [], state => { state }
  | converterId :: rest, state =>
    match network.hvdcLineOfConverter converterId with
    | .error fault => { state, fault }
    | .ok (line, side) => meetAll network rest (meet state line side)

/-- The visitor that goes through the converters of each node. -/
def visitor : Visitor (ExtTreeMap String HvdcDefinition) := fun network node state =>
  meetAll network node.converters state

end HvdcDefinition
end GridSetup
