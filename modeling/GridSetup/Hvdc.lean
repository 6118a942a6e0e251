/-! # HVDC lines

A line of direct current between two converters, each of which stands on a
bus of the network. -/

namespace GridSetup

/-- The technology of the converters of an HVDC line. -/
inductive ConverterType where
  | lcc
  | vsc
  deriving DecidableEq, Repr

def ConverterType.name : ConverterType → String
  | .lcc => "LCC"
  | .vsc => "VSC"

inductive Side where
  | first
  | second
  deriving DecidableEq, Repr

structure Converter where
  id : String
  bus : String
  /-- Whether voltage regulation is on, where that is known. -/
  voltageRegulation : Option Bool := none
  deriving DecidableEq

/-- An HVDC line with its two converters. -/
structure HvdcLine where
  id : String
  type : ConverterType
  first : Converter
  second : Converter
  deriving DecidableEq

namespace HvdcLine

def converter (line : HvdcLine) : Side → Converter
  | .first => line.first
  | .second => line.second

/-- Both converters, the first side first. -/
def converters (line : HvdcLine) : List Converter := [line.first, line.second]

/-- The sides, each with the converter on it. -/
def sides (line : HvdcLine) : List (Side × Converter) :=
  [(.first, line.first), (.second, line.second)]

end HvdcLine
end GridSetup
