import GridSetup.Event
import GridSetup.Network.Basic

/-! # Visitors

A visitor gathers something from the nodes of a network, one node at a time. A
visit may fail, and the nodes after it are then left out. Several visitors
can be taken along together as a panel: each node is shown to every member in
turn, and the first failure ends the visit. -/

namespace GridSetup

structure Outcome (σ : Type) where
  state : σ
  events : List Event := []
  fault : Option Fault := none

/-- Goes on with the state of an outcome, unless it failed. -/
def Outcome.andThen {σ : Type} (outcome : Outcome σ) (next : σ → Outcome σ) : Outcome σ :=
  match outcome.fault with
  | some _ => outcome
  | none =>
    let after := next outcome.state
    { after with events := outcome.events ++ after.events }

/-- What a visitor does on a node, given the state it is in. -/
abbrev Visitor (σ : Type) := Network → Node → σ → Outcome σ

/-- Shows nodes to a visitor, up to the first failure. -/
def traverse {σ : Type} (visitor : Visitor σ) (network : Network) :
    List Node → σ → Outcome σ
  | [], state => { state }
  | node :: rest, state =>
    (visitor network node state).andThen (traverse visitor network rest)

/-- Visitors with states of the listed types. -/
inductive Panel : List Type → Type 1 where
  | nil : Panel []
  | cons {σ : Type} {types : List Type} (first : Visitor σ) (rest : Panel types) :
    Panel (σ :: types)

/-- One state for each of the listed types. -/
@[reducible] def States : List Type → Type
  | [] => Unit
  | σ :: types => σ × States types

/-- The panel as one visitor. -/
def Panel.visitor {types : List Type} : Panel types → Visitor (States types)
  | .nil => fun _ _ state => { state }
  | .cons first rest => fun network node state =>
    let own := first network node state.1
    match own.fault with
    | some fault => { state := (own.state, state.2), events := own.events, fault }
    | none =>
      let others := rest.visitor network node state.2
      { state := (own.state, others.state)
        events := own.events ++ others.events
        fault := others.fault }

end GridSetup
