import GridSetup.Automaton
import GridSetup.Library.SearchPath
import GridSetup.Survey.Visitor
import Std.Data.ExtTreeSet

/-! # Dynamic models

The macro connectors of automatons are bound to elements of the network as
the nodes are visited. Until then they wait under the voltage level or the
branch they ask for. A connector that is to be bound to one node of a voltage
level takes the first one that comes; all others take every element they ask
for. An automaton whose connectors meet nothing has no model. -/

namespace GridSetup

open Std (ExtTreeMap ExtTreeSet TransCmp LawfulEqCmp)

inductive ConnectedKind where
  | node
  | line
  | transformer
  | shunt
  deriving DecidableEq, Repr

def ConnectedKind.rank : ConnectedKind → Nat
  | .node => 0
  | .line => 1
  | .transformer => 2
  | .shunt => 3

theorem ConnectedKind.rank_injective {a b : ConnectedKind} (h : a.rank = b.rank) : a = b := by
  revert h
  cases a <;> cases b <;> decide

structure Connection where
  connector : String
  kind : ConnectedKind
  element : String
  deriving DecidableEq

/-- Connections are ordered by connector, then by kind, then by element. -/
def Connection.order : Connection → Connection → Ordering :=
  compareLex (compareOn Connection.connector) <|
    compareLex (compareOn fun connection => connection.kind.rank)
      (compareOn Connection.element)

instance : TransCmp Connection.order := inferInstanceAs (TransCmp (compareLex _ _))

instance : LawfulEqCmp Connection.order where
  compare_self := by simp [Connection.order, compareLex, compareOn]
  eq_of_compare {a b} h := by
    simp only [Connection.order, compareLex, compareOn, Ordering.then_eq_eq,
      Std.LawfulEqOrd.compare_eq_iff_eq] at h
    obtain ⟨hc, hk, he⟩ := h
    obtain ⟨_, _, _⟩ := a
    obtain ⟨_, _, _⟩ := b
    have := ConnectedKind.rank_injective hk
    simp_all

structure DynamicModel where
  id : String
  library : String
  connections : ExtTreeSet Connection Connection.order

structure DynamicModels where
  /-- The models with a connection, by the id of their automaton. -/
  models : ExtTreeMap String DynamicModel := ∅
  /-- The macro connectors that are bound to something. -/
  used : ExtTreeSet String := ∅
  /-- The macro connectors of the automatons whose library is there. -/
  declared : ExtTreeSet String := ∅

/-- A macro connector that waits for its elements. -/
structure Binding where
  automaton : Automaton
  connector : String
  deriving DecidableEq

structure BusBindings where
  /-- The bindings that take the first node only. -/
  firstNode : List Binding := []
  /-- The bindings that take every node. -/
  everyNode : List Binding := []

/-- The dynamic models and what is still to be bound, by the voltage level or
the id of the branch it waits for. -/
structure DynamicModelSurvey where
  buses : ExtTreeMap String BusBindings := ∅
  shunts : ExtTreeMap String (List Binding) := ∅
  lines : ExtTreeMap String (List Binding) := ∅
  transformers : ExtTreeMap String (List Binding) := ∅
  result : DynamicModels := {}

namespace DynamicModels

def connect (models : DynamicModels) (automaton : Automaton) (connection : Connection) :
    DynamicModels :=
  { models with
    models := models.models.alter automaton.id fun model =>
      let model := model.getD {
        id := automaton.id
        library := automaton.library
        connections := ∅ }
      some { model with connections := model.connections.insert connection }
    used := models.used.insert connection.connector }

def unused (models : DynamicModels) : List String :=
  models.declared.toList.filter fun connector => !models.used.contains connector

def unusedEvents (models : DynamicModels) : List Event :=
  models.unused.map .unusedConnector

end DynamicModels

namespace DynamicModelSurvey

def enqueue (waiting : ExtTreeMap String (List Binding)) (key : String) (binding : Binding) :
    ExtTreeMap String (List Binding) :=
  waiting.alter key fun bindings => some (bindings.getD [] ++ [binding])

/-- Lets a binding wait for the elements of its target. -/
def dispatch (survey : DynamicModelSurvey) (target : Target) (binding : Binding) :
    DynamicModelSurvey :=
  match target with
  | .single (.bus level) =>
    { survey with
      buses := survey.buses.alter level fun bindings =>
        let bindings := bindings.getD {}
        some { bindings with firstNode := bindings.firstNode ++ [binding] } }
  | .single (.line id) => { survey with lines := enqueue survey.lines id binding }
  | .single (.transformer id) =>
    { survey with transformers := enqueue survey.transformers id binding }
  | .multiple (.buses level) =>
    { survey with
      buses := survey.buses.alter level fun bindings =>
        let bindings := bindings.getD {}
        some { bindings with everyNode := bindings.everyNode ++ [binding] } }
  | .multiple (.shunts level) => { survey with shunts := enqueue survey.shunts level binding }

def prepareConnect (config : AutomatonConfig) (automaton : Automaton)
    (survey : Logged DynamicModelSurvey) (connect : MacroConnect) :
    Logged DynamicModelSurvey :=
  let result := { survey.value.result with
    declared := survey.value.result.declared.insert connect.connector }
  match config.target? connect.association with
  | none =>
    { value := { survey.value with result }
      events := survey.events ++
        [.missingAssociation automaton.id connect.connector connect.association] }
  | some target =>
    { value := dispatch { survey.value with result } target
        { automaton, connector := connect.connector }
      events := survey.events }

/-- Prepares an automaton, which is dropped if its library is not there. -/
def prepareAutomaton (config : AutomatonConfig) (locator : Locator)
    (survey : Logged DynamicModelSurvey) (automaton : Automaton) :
    Logged DynamicModelSurvey :=
  let found := locator.find automaton.library
  let survey := { survey with events := survey.events ++ found.events }
  if found.value then automaton.connects.foldl (prepareConnect config automaton) survey
  else
    { survey with
      events := survey.events ++ [.missingLibrary automaton.id automaton.library] }

def prepare (config : AutomatonConfig) (locator : Locator) : Logged DynamicModelSurvey :=
  config.all.foldl (prepareAutomaton config locator) { value := {} }

/-- The libraries that are asked for in preparing, in order. -/
def askedLibraries (config : AutomatonConfig) : List String :=
  config.all.map Automaton.library

def materialize (kind : ConnectedKind) (element : String) (bindings : List Binding)
    (models : DynamicModels) : DynamicModels :=
  bindings.foldl
    (fun models binding =>
      models.connect binding.automaton { connector := binding.connector, kind, element })
    models

/-- Binds the macro connectors that wait for some of the elements. -/
def materializeAll (kind : ConnectedKind) (waiting : ExtTreeMap String (List Binding))
    (elements : List String) (models : DynamicModels) : DynamicModels :=
  elements.foldl
    (fun models element => materialize kind element (waiting.getD element []) models)
    models

/-- The visitor that binds macro connectors to the elements of each node. -/
def visitor : Visitor DynamicModelSurvey := fun _ node survey =>
  let buses := survey.buses.getD node.voltageLevel {}
  let shunts := survey.shunts.getD node.voltageLevel []
  let models := materialize .node node.id buses.firstNode survey.result
  let models := materialize .node node.id buses.everyNode models
  let models := node.shunts.foldl
    (fun models shunt => materialize .shunt shunt.id shunts models) models
  let models := materializeAll .line survey.lines node.lines models
  let models := materializeAll .transformer survey.transformers node.transformers models
  { state := { survey with
      -- the first node of the voltage level has come
      buses := survey.buses.modify node.voltageLevel fun buses => { buses with firstNode := [] }
      result := models } }

end DynamicModelSurvey
end GridSetup
