import GridSetup.Event
import Std.Data.ExtTreeMap

/-! # Automatons and their associations

An automaton is a dynamic model from a library. Each of its macro connectors
refers to an association, and the association says what it is bound to in the
network. Of several entries with one id the first counts, and a single
association counts before a multiple one. -/

namespace GridSetup

open Std (ExtTreeMap)

/-- A macro connector of an automaton with the association it refers to. -/
structure MacroConnect where
  connector : String
  association : String
  deriving DecidableEq

structure Automaton where
  id : String
  library : String
  connects : List MacroConnect := []
  deriving DecidableEq

inductive SingleTarget where
  /-- One node of a voltage level. -/
  | bus (voltageLevel : String)
  | line (id : String)
  | transformer (id : String)
  deriving DecidableEq

inductive MultipleTarget where
  /-- Every node of a voltage level. -/
  | buses (voltageLevel : String)
  /-- Every shunt of a voltage level. -/
  | shunts (voltageLevel : String)
  deriving DecidableEq

structure SingleAssociation where
  id : String
  target : SingleTarget
  deriving DecidableEq

structure MultipleAssociation where
  id : String
  target : MultipleTarget
  deriving DecidableEq

/-- What an association of either sort is bound to. -/
inductive Target where
  | single (target : SingleTarget)
  | multiple (target : MultipleTarget)
  deriving DecidableEq

/-- Adds an item under its id, unless there is one already, which is
reported. -/
def indexItem {α : Type} (id : α → String) (repeated : String → Event)
    (index : Logged (ExtTreeMap String α)) (item : α) : Logged (ExtTreeMap String α) :=
  if index.value.contains (id item) then
    { index with events := index.events ++ [repeated (id item)] }
  else { index with value := index.value.insert (id item) item }

/-- The items by id, the first one where several share an id. -/
def indexById {α : Type} (id : α → String) (repeated : String → Event)
    (items : List α) : Logged (ExtTreeMap String α) :=
  items.foldl (indexItem id repeated) { value := ∅ }

structure AutomatonConfig where
  automatons : ExtTreeMap String Automaton := ∅
  singles : ExtTreeMap String SingleAssociation := ∅
  multiples : ExtTreeMap String MultipleAssociation := ∅

namespace AutomatonConfig

def ofLists (automatons : List Automaton) (singles : List SingleAssociation)
    (multiples : List MultipleAssociation) : Logged AutomatonConfig :=
  let automatons := indexById Automaton.id .repeatedAutomaton automatons
  let singles := indexById SingleAssociation.id .repeatedAssociation singles
  let multiples := indexById MultipleAssociation.id .repeatedAssociation multiples
  { value := {
      automatons := automatons.value
      singles := singles.value
      multiples := multiples.value }
    events := automatons.events ++ singles.events ++ multiples.events }

def all (config : AutomatonConfig) : List Automaton := config.automatons.toList.map Prod.snd

def automaton? (config : AutomatonConfig) (id : String) : Option Automaton :=
  config.automatons[id]?

/-- What the association of the given id is bound to, if there is one. -/
def target? (config : AutomatonConfig) (association : String) : Option Target :=
  match config.singles[association]? with
  | some single => some (.single single.target)
  | none => (config.multiples[association]?).map fun multiple => .multiple multiple.target

end AutomatonConfig
end GridSetup
