import GridSetup.Decimal.Plain
import GridSetup.Library.FileTree

/-! # Events worth reporting

Things that are not faults but that someone should hear of: input that is
ignored and data that cannot be used. A value computed on the way is `Logged`
together with the events, in the order in which they happened. -/

namespace GridSetup

inductive Severity where
  | debug
  | warn
  deriving DecidableEq, Repr

/-- What is wrong with the diagram of a generator. -/
inductive DiagramFlaw where
  /-- There is no curve, and no limit is set. -/
  | absent
  /-- There is no curve, and the limits enclose nothing. -/
  | limits (pMin pMax qMin qMax : Float)
  /-- The curve has a single point. -/
  | singlePoint
  /-- At `p` the reactive range is empty. -/
  | range (qMin qMax p : Float)
  /-- The active power does not increase from one point to the next. -/
  | sequence (p next : Float)
  deriving DecidableEq

inductive Event where
  | repeatedAutomaton (id : String)
  | repeatedAssociation (id : String)
  | unusableDiagram (generator : String) (flaw : DiagramFlaw)
  /-- A load below the voltage from which loads are modelled. -/
  | ignoredLoad (load node : String) (voltage threshold : Float)
  | missingLibrary (automaton library : String)
  /-- A macro connector that refers to an association that is not there. -/
  | missingAssociation (automaton connector association : String)
  /-- A macro connector that is bound to nothing in the end. -/
  | unusedConnector (id : String)
  | mainComponent (size total : Nat)
  /-- A library file that cannot be checked for. -/
  | unreadableLibrary (path : String) (obstacle : Obstacle)
  deriving DecidableEq

/-- A missing diagram is no cause for worry, nor is an ignored load. -/
def Event.severity : Event → Severity
  | .unusableDiagram _ .absent => .debug
  | .ignoredLoad _ _ _ _ => .debug
  | .mainComponent _ _ => .debug
  | _ => .warn

def DiagramFlaw.message (generator : String) : DiagramFlaw → String
  | .absent => s!"Generator:{generator} has no diagram data."
  | .limits pMin pMax qMin qMax =>
    s!"Generator:{generator} has an invalid diagram: pmin={plainText pMin}, " ++
      s!"pmax={plainText pMax}, qmin={plainText qMin}, qmax={plainText qMax}."
  | .singlePoint =>
    s!"Generator:{generator} has an invalid diagram: a single point is given."
  | .range qMin qMax p =>
    s!"Generator:{generator} has an invalid diagram: qmin={plainText qMin} " ++
      s!"isn't below qmax={plainText qMax} at p={plainText p}."
  | .sequence p next =>
    s!"Generator:{generator} has an invalid diagram: p={plainText p} " ++
      s!"is followed by p={plainText next}."

def Event.message : Event → String
  | .repeatedAutomaton id => s!"Duplicate automaton id {id} ignored."
  | .repeatedAssociation id => s!"Duplicate association id {id} ignored."
  | .unusableDiagram generator flaw => flaw.message generator
  | .ignoredLoad load node voltage threshold =>
    s!"Load:{load} ignored, node {node} is below the DSO voltage level " ++
      s!"({plainText voltage} < {plainText threshold})."
  | .missingLibrary automaton library =>
    s!"Automaton:{automaton} dropped, library {library} not found."
  | .missingAssociation automaton connector association =>
    s!"Automaton:{automaton} macro connector {connector} skipped, " ++
      s!"association {association} not found."
  | .unusedConnector id => s!"Macro connector {id} isn't connected to any element."
  | .mainComponent size total =>
    s!"Main connected component has {size} of {total} nodes."
  | .unreadableLibrary path obstacle =>
    s!"Can't check if {path} exists: {obstacle.message}"

structure Logged (α : Type) where
  value : α
  events : List Event := []

end GridSetup
