import GridSetup.Proofs.Inventory
import GridSetup.Proofs.Reports

/-! # Macro connectors, bound and unbound

A macro connector is declared when its automaton is prepared, and it is in use as soon
as one connection has it, whichever automaton that is for. Preparing and visiting write
to different books, and yet whatever is visited the connectors in use are declared, so
that those left over can be told: they are reported in the end, and the report changes
nothing. -/

namespace GridSetup

open Std (ExtTreeMap ExtTreeSet)

/-- The connector belongs to an automaton that has its library, whatever its
association stands for. -/
def AutomatonConfig.Declares (config : AutomatonConfig) (locator : Locator)
    (connector : String) : Prop :=
  ∃ automaton ∈ config.all, locator.finds automaton.library ∧
    ∃ connect ∈ automaton.connects, connect.connector = connector

namespace DynamicModels

/-- The books agree with each other and with the configuration: in addition to being in
step, each model has a connection, the declared connectors are those of the automatons
that have their library, and each of them is either in use or not. -/
structure Balanced (config : AutomatonConfig) (locator : Locator) (models : DynamicModels) :
    Prop extends Recorded
      (fun automaton => automaton ∈ config.all ∧ locator.finds automaton.library) models where
  inhabited : models.Inhabited
  declared : ∀ connector, connector ∈ models.declared ↔ config.Declares locator connector
  used_declared : ∀ connector ∈ models.used, connector ∈ models.declared
  divided : ∀ connector, connector ∈ models.declared ↔
    connector ∈ models.used ∨ connector ∈ models.unused
  apart : ∀ connector ∈ models.unused, connector ∉ models.used

/-- The events are one warning for each connector that is declared but not in use, in
the order of the connectors. -/
def WarnsOfUnused (models : DynamicModels) (events : List Event) : Prop :=
  ∃ connectors : List String, events = connectors.map .unusedConnector ∧
    connectors.Pairwise (· < ·) ∧
    (∀ connector, connector ∈ connectors ↔
      connector ∈ models.declared ∧ connector ∉ models.used) ∧
    ∀ event ∈ events, event.severity = .warn

theorem mem_unused (models : DynamicModels) (connector : String) :
    connector ∈ models.unused ↔ connector ∈ models.declared ∧ connector ∉ models.used := by
  rw [unused, List.mem_filter, ExtTreeSet.mem_toList, Bool.not_eq_true',
    Bool.eq_false_iff, ne_eq, ExtTreeSet.contains_iff_mem]

theorem unused_ordered (models : DynamicModels) : models.unused.Pairwise (· < ·) := by
  have hordered : models.declared.toList.Pairwise fun a b => compare a b = .lt :=
    ExtTreeSet.ordered_toList
  exact (hordered.imp fun h => compareOfLessAndEq_eq_lt.mp h).filter _

theorem unusedEvents_warn (models : DynamicModels) : models.WarnsOfUnused models.unusedEvents := by
  refine ⟨models.unused, rfl, models.unused_ordered, models.mem_unused, ?_⟩
  intro event he
  obtain ⟨connector, -, rfl⟩ := List.mem_map.mp he
  rfl

end DynamicModels

namespace DynamicModelSurvey

open DynamicModels

variable (config : AutomatonConfig) (locator : Locator)

/-- Preparing declares a connector even if its association is not there. -/
theorem mem_declared_prepare (connector : String) :
    connector ∈ (prepare config locator).value.result.declared ↔
      config.Declares locator connector := by
  refine prepare_iff (P := fun survey => connector ∈ survey.value.result.declared)
    ExtTreeSet.not_mem_empty (fun _ _ => Iff.rfl) (fun automaton survey connect => ?_) locator
  rw [prepareConnect_result, ExtTreeSet.mem_insert, Std.LawfulEqCmp.compare_eq_iff_eq, or_comm]

/-- What waits at the start has a declared connector, so what is bound to something
has one. -/
theorem modelsOf_used_declared (network : Network) (visits : List Node) :
    ∀ connector ∈ (modelsOf network config locator visits).used,
      config.Declares locator connector := by
  refine traverse_keeps (P := fun models => ∀ connector ∈ models.used,
    config.Declares locator connector) visits ?_ ?_
  · intro models target binding hb connection hconnection h connector hused
    rw [DynamicModels.connect, ExtTreeSet.mem_insert, Std.LawfulEqCmp.compare_eq_iff_eq] at hused
    rcases hused with rfl | hused
    · obtain ⟨automaton, ha, hlibrary, connect, hc, -, rfl⟩ :=
        (mem_waiting_prepare config locator target binding).mp hb
      exact ⟨automaton, ha, hlibrary, connect, hc, hconnection.symm⟩
    · exact h connector hused
  · rw [prepare_used]
    exact fun connector hused => absurd hused ExtTreeSet.not_mem_empty

theorem modelsOf_inhabited (network : Network) (visits : List Node) :
    (modelsOf network config locator visits).Inhabited := by
  refine traverse_keeps visits (fun models _ binding _ connection _ h =>
    (connect_gains models binding.automaton connection).inhabited h) fun id model hmodel => ?_
  rw [prepare_models] at hmodel
  cases hmodel

theorem modelsOf_balanced (network : Network) (visits : List Node) :
    (modelsOf network config locator visits).Balanced config locator := by
  have hdeclared : ∀ connector,
      connector ∈ (modelsOf network config locator visits).declared ↔
        config.Declares locator connector := by
    intro connector
    rw [modelsOf_declared, mem_declared_prepare]
  have hused : ∀ connector ∈ (modelsOf network config locator visits).used,
      connector ∈ (modelsOf network config locator visits).declared :=
    fun connector h => (hdeclared connector).mpr
      (modelsOf_used_declared config locator network visits connector h)
  exact {
    toRecorded := modelsOf_recorded config locator network visits
    inhabited := modelsOf_inhabited config locator network visits
    declared := hdeclared
    used_declared := hused
    divided connector := by
      have := hused connector
      rw [mem_unused]
      tauto
    apart connector h := ((mem_unused _ connector).mp h).2 }

end DynamicModelSurvey

/-- Whatever nodes are visited, of whatever network, no visit fails, the books of the
dynamic models are balanced, and the report in the end is one warning for each declared
connector that is bound to nothing, in order. A built network is resolved into the
models as the visits to its main component leave them, and of unbound connectors
nothing else is in the log. -/
theorem macroConnectors_balanced (network : Network) (config : AutomatonConfig)
    (locator : Locator) (visits : List Node) :
    let outcome := traverse DynamicModelSurvey.visitor network visits
      (DynamicModelSurvey.prepare config locator).value
    outcome.fault = none ∧
    outcome.state.result.Balanced config locator ∧
    outcome.state.result.WarnsOfUnused outcome.state.result.unusedEvents ∧
    (network.IsBuilt → ∀ options, ∃ resolution,
      (resolve network config locator options).value = .ok resolution ∧
      resolution.dynamicModels =
        DynamicModelSurvey.modelsOf network config locator network.mainNodes ∧
      resolution.dynamicModels.WarnsOfUnused
        (eventsAbout .connector (resolve network config locator options).events)) := by
  intro outcome
  have hfault := traverse_of_succeedsOn (DynamicModelSurvey.visitor_succeedsOn network visits)
    (DynamicModelSurvey.prepare config locator).value
  refine ⟨hfault.1, DynamicModelSurvey.modelsOf_balanced config locator network visits,
    outcome.state.result.unusedEvents_warn, fun built options => ?_⟩
  refine ⟨_, built.coherent.resolve_eq_separately config locator options, rfl, ?_⟩
  rw [built.coherent.eventsAbout_resolve]
  exact DynamicModels.unusedEvents_warn _

namespace Mainland

/-- Two automatons share a connector that only one of them binds, one refers to an
association that is not there and to the shunts of the island, and a third lacks its
library. -/
def shared : AutomatonConfig :=
  (AutomatonConfig.ofLists
    [{ id := "T", library := "Tap", connects :=
        [{ connector := "control", association := "tap" },
          { connector := "lost", association := "nowhere" }] },
      { id := "U", library := "Tap", connects :=
        [{ connector := "control", association := "nowhere" },
          { connector := "shed", association := "banks" }] },
      { id := "W", library := "Missing", connects :=
        [{ connector := "dropped", association := "tap" }] }]
    [{ id := "tap", target := .transformer "NSE" }]
    [{ id := "banks", target := .shunts "V2" }]).value

end Mainland

/-- The transformer is met from all of its ends and bound once. The shunt of the island
is never met. -/
theorem macroConnectors_balanced_mainland :
    Mainland.network.IsBuilt ∧
    (∃ resolution : Resolution,
      (resolve Mainland.network Mainland.shared (.ofLibraries (· = "Tap")) {}).value =
        .ok resolution ∧
      resolution.dynamicModels.WarnsOfUnused (eventsAbout .connector
        (resolve Mainland.network Mainland.shared (.ofLibraries (· = "Tap")) {}).events)) ∧
    (resolve Mainland.network Mainland.shared (.ofLibraries (· = "Tap")) {}).value.map
        (fun resolution => (resolution.dynamicModels.used.toList,
          resolution.dynamicModels.declared.toList, resolution.dynamicModels.unused,
          resolution.dynamicModels.models.toList.map fun model =>
            (model.1, model.2.connections.toList.map Connection.element))) =
      .ok (["control"], ["control", "lost", "shed"], ["lost", "shed"], [("T", ["NSE"])]) := by
  have built : Mainland.network.IsBuilt := ⟨_, _, _, Mainland.build_network⟩
  obtain ⟨-, -, -, hresolved⟩ := macroConnectors_balanced Mainland.network Mainland.shared
    (.ofLibraries (· = "Tap")) []
  obtain ⟨resolution, hok, -, hwarns⟩ := hresolved built {}
  exact ⟨built, ⟨resolution, hok, hwarns⟩, by decide +kernel⟩

end GridSetup
