import GridSetup.Proofs.Inventory
import GridSetup.Proofs.Reports
import GridSetup.Proofs.Tally
import GridSetup.Proofs.Tolerance

/-! # Every load is accounted for

A load of the main component is either defined or reported as ignored. The two go to
different places, the one to the resolution and the other to the log, and together they
hold every load of the main component once and no other. Which of them it is depends on
the voltage of the node alone, so the loads of a node go the same way. -/

namespace GridSetup

theorem flatMap_ite {α β : Type} (p : α → Bool) (f : α → List β) (l : List α) :
    (l.flatMap fun x => if p x then f x else []) = (l.filter p).flatMap f := by
  induction l with
  | nil => rfl
  | cons x rest ih =>
    rw [List.flatMap_cons, List.filter_cons, ih]
    by_cases h : p x = true
    · rw [if_pos h, if_pos h, List.flatMap_cons]
    · rw [if_neg h, if_neg h, List.nil_append]

/-- What is taken over all elements is taken over those that have a property and those
that have not. -/
theorem flatMap_filter_perm {α β : Type} (p : α → Bool) (f : α → List β) (l : List α) :
    ((l.filter fun x => !p x).flatMap f ++ (l.filter p).flatMap f).Perm (l.flatMap f) := by
  rw [← List.flatMap_append]
  exact (List.perm_append_comm.trans (List.filter_append_perm p l)).flatMap_right f

/-- The load that an event says is ignored. -/
def Event.ignoredLoad? : Event → Option String
  | .ignoredLoad load _ _ _ => some load
  | _ => none

namespace LoadDefinition

theorem flatMap_definitionsAt (threshold : Float) (visits : List Node) :
    visits.flatMap (definitionsAt threshold) =
      (visits.filter fun node => !isIgnored threshold node).flatMap fun node =>
        node.loads.map of := by
  rw [← flatMap_ite]
  refine List.flatMap_congr fun node _ => ?_
  rw [definitionsAt]
  cases isIgnored threshold node <;> rfl

theorem flatMap_reports (threshold : Float) (visits : List Node) :
    visits.flatMap (LoadDefinition.reports threshold) =
      (visits.filter (isIgnored threshold)).flatMap fun node =>
        node.loads.map (ignoredEvent threshold node) :=
  flatMap_ite (isIgnored threshold) _ visits

/-- The ids of the loads that are defined. -/
theorem map_id_definitionsAt (threshold : Float) (visits : List Node) :
    (visits.flatMap (definitionsAt threshold)).map LoadDefinition.id =
      (visits.filter fun node => !isIgnored threshold node).flatMap
        (Node.equipmentIds .load) := by
  rw [flatMap_definitionsAt, List.map_flatMap]
  refine List.flatMap_congr fun node _ => ?_
  rw [List.map_map]
  rfl

/-- The ids of the loads that are reported. -/
theorem filterMap_reports (threshold : Float) (visits : List Node) :
    (visits.flatMap (LoadDefinition.reports threshold)).filterMap Event.ignoredLoad? =
      (visits.filter (isIgnored threshold)).flatMap (Node.equipmentIds .load) := by
  rw [flatMap_reports, List.filterMap_flatMap]
  refine List.flatMap_congr fun node _ => ?_
  rw [List.filterMap_map]
  exact congrFun (List.filterMap_eq_map (f := Load.id)) node.loads

theorem reports_severity (threshold : Float) (visits : List Node) :
    ∀ event ∈ visits.flatMap (LoadDefinition.reports threshold), event.severity = .debug := by
  intro event he
  rw [flatMap_reports] at he
  obtain ⟨node, -, he⟩ := List.mem_flatMap.mp he
  obtain ⟨load, -, rfl⟩ := List.mem_map.mp he
  rfl

end LoadDefinition

namespace Resolution

/-- The loads of these nodes, one node after the other, are defined or reported as the
voltage of their node is, and of the loads of the network each one is named once by
either if its node is in the main component, and not at all if it is not. -/
structure AccountsForLoads (network : Network) (main : List Node) (threshold : Float)
    (log : List Event) (resolution : Resolution) : Prop where
  defined : resolution.loads =
    (main.filter fun node => ¬node.nominalVoltage < threshold - 1e-6).flatMap fun node =>
      node.loads.map fun load => { id := load.id, nodeId := node.id }
  reported : eventsAbout .load log =
    (main.filter fun node => node.nominalVoltage < threshold - 1e-6).flatMap fun node =>
      node.loads.map fun load => .ignoredLoad load.id node.id node.nominalVoltage threshold
  remarked : ∀ event ∈ eventsAbout .load log, event.severity = .debug
  once : ∀ node ∈ network.nodes, ∀ load ∈ node.loads,
    (resolution.loads.map LoadDefinition.id ++
      (eventsAbout .load log).filterMap Event.ignoredLoad?).count load.id =
        if node.id ∈ resolution.mainComponent then 1 else 0
  defined_iff : ∀ node ∈ network.nodes, ∀ load ∈ node.loads,
    (load.id ∈ resolution.loads.map LoadDefinition.id ↔
      node.id ∈ resolution.mainComponent ∧ ¬node.nominalVoltage < threshold - 1e-6)
  reported_iff : ∀ node ∈ network.nodes, ∀ load ∈ node.loads,
    (load.id ∈ (eventsAbout .load log).filterMap Event.ignoredLoad? ↔
      node.id ∈ resolution.mainComponent ∧ node.nominalVoltage < threshold - 1e-6)
  unnumbered : ∀ node ∈ main, node.nominalVoltage.isNaN = true ∨ threshold.isNaN = true →
    ¬node.nominalVoltage < threshold - 1e-6

end Resolution

namespace Network.Coherent

variable {network : Network} (config : AutomatonConfig) (locator : Locator)
  (options : Options)

/-- Whatever nodes of the main component are selected, the equipment of these and that of
the others together is all of the main component, once. -/
theorem count_selected_equipment (coherent : network.Coherent) (selected : Node → Bool)
    {kind : EquipmentKind} {node : Node} (hn : node ∈ network.nodes) {id : String}
    (hid : id ∈ node.equipmentIds kind) :
    ((network.mainNodes.filter fun node => !selected node).flatMap (Node.equipmentIds kind) ++
        (network.mainNodes.filter selected).flatMap (Node.equipmentIds kind)).count id =
      if node.id ∈ network.mainNodes.map Node.id then 1 else 0 := by
  have hborne : id ∈ network.mainNodes.flatMap (Node.equipmentIds kind) ↔
      node.id ∈ network.mainNodes.map Node.id :=
    (mem_flatMap_iff_mem coherent.mainNodes_subset
      (coherent.wellFormed.distinct_nodes.equipment kind) hn hid).trans
        (coherent.mem_mainNodes_ids_iff hn).symm
  rw [(flatMap_filter_perm selected _ _).count_eq,
    (coherent.mainNodes_equipment_nodup kind).count]
  simp only [hborne]

theorem separately_accountsForLoads (coherent : network.Coherent) :
    (Resolution.separately network config locator options).AccountsForLoads network
      network.mainNodes options.loadThreshold
      (resolve network config locator options).events := by
  have hloads : (Resolution.separately network config locator options).loads =
      network.mainNodes.flatMap (LoadDefinition.definitionsAt options.loadThreshold) :=
    LoadDefinition.traverse_state options.loadThreshold network.mainNodes
  have hevents := coherent.eventsAbout_resolve config locator options .load
  dsimp only [Resolution.reports] at hevents
  have hkept : (fun node : Node => decide ¬node.nominalVoltage < options.loadThreshold - 1e-6) =
      fun node => !LoadDefinition.isIgnored options.loadThreshold node :=
    funext fun _ => decide_not
  have hborne : ∀ node : Node, ∀ load ∈ node.loads, load.id ∈ node.equipmentIds .load :=
    fun _ _ hl => List.mem_map_of_mem hl
  refine {
    defined := ?_
    reported := ?_
    remarked := ?_
    once := fun node hn load hl => ?_
    defined_iff := fun node hn load hl => ?_
    reported_iff := fun node hn load hl => ?_
    unnumbered := fun node _ h => ?_ }
  · rw [hloads, hkept, LoadDefinition.flatMap_definitionsAt]
    refine List.flatMap_congr fun node _ => List.map_congr_left fun load hl => ?_
    rw [LoadDefinition.of, node.loads_attached load hl]
  · rw [hevents, LoadDefinition.flatMap_reports]
    rfl
  · rw [hevents]
    exact LoadDefinition.reports_severity options.loadThreshold network.mainNodes
  · rw [hloads, hevents, LoadDefinition.map_id_definitionsAt, LoadDefinition.filterMap_reports,
      coherent.count_selected_equipment _ hn (hborne node load hl)]
    simp only [Resolution.mem_mainComponent_iff]
  · rw [hloads, LoadDefinition.map_id_definitionsAt, ← hkept,
      coherent.mem_selected_equipment_iff _ hn (hborne node load hl),
      Resolution.mem_mainComponent_iff, decide_eq_true_iff]
  · rw [hevents, LoadDefinition.filterMap_reports,
      coherent.mem_selected_equipment_iff _ hn (hborne node load hl),
      Resolution.mem_mainComponent_iff]
    exact and_congr_right fun _ => decide_eq_true_iff
  · exact of_decide_eq_false (Voltage.below_isNaN h)

end Network.Coherent

/-- A built network is resolved, whatever the configuration, the libraries and the options
are, so that the loads of its main component are accounted for. -/
theorem loads_accounted {network : Network} (built : network.IsBuilt)
    (config : AutomatonConfig) (locator : Locator) (options : Options) :
    ∃ resolution main, (resolve network config locator options).value = .ok resolution ∧
      network.IsMain network.nodes main ∧
      (∀ id, id ∈ resolution.mainComponent ↔ id ∈ main.map Node.id) ∧
      resolution.AccountsForLoads network main options.loadThreshold
        (resolve network config locator options).events :=
  ⟨_, network.mainNodes, built.coherent.resolve_eq_separately config locator options,
    built.coherent.mainNodes_isMain,
    Resolution.mem_mainComponent_iff network config locator options,
    built.coherent.separately_accountsForLoads config locator options⟩

/-! ## A feeder

Loads on a node of high voltage, on one of low voltage and on one whose voltage is no
number are in one component. The one on the node that stands apart is in another. -/

namespace Feeder

def town : Node := { id := "Town", voltageLevel := "V2", nominalVoltage := 20 }

def station : Node := { id := "Station", voltageLevel := "V1", nominalVoltage := 400 }

def nodes : List Node :=
  [{ id := "Away", voltageLevel := "V1", nominalVoltage := 400,
     loads := [{ id := "L1", nodeId := "Away" }] },
    (town.withLoad { id := "L2" }).withLoad { id := "L3" },
    (station.withLoad { id := "L4" }).withLoad { id := "L5" },
    { id := "Unknown", voltageLevel := "V3", nominalVoltage := 0 / 0,
      loads := [{ id := "L6", nodeId := "Unknown" }] }]

def branches : List Branch :=
  [.transformer { id := "ST", windings := .two "Station" "Town" },
    .line { id := "SU", first := "Station", second := "Unknown" }]

def network : Network :=
  .assemble nodes branches []

theorem network_isBuilt : network.IsBuilt :=
  ⟨nodes, branches, [], rfl⟩

end Feeder

/-- The loads of the low voltage are ignored, that of the unknown one is not, and of the
load that is away nothing is said. -/
theorem loads_accounted_feeder :
    Feeder.network.IsBuilt ∧
    (∃ (resolution : Resolution) (main : List Node),
      (resolve Feeder.network {} (.ofLibraries fun _ => false) {}).value = .ok resolution ∧
      resolution.AccountsForLoads Feeder.network main 45
        (resolve Feeder.network {} (.ofLibraries fun _ => false) {}).events) ∧
    (resolve Feeder.network {} (.ofLibraries fun _ => false) {}).value.map Resolution.loads =
      .ok [{ id := "L4", nodeId := "Station" }, { id := "L5", nodeId := "Station" },
        { id := "L6", nodeId := "Unknown" }] ∧
    (eventsAbout .load
        (resolve Feeder.network {} (.ofLibraries fun _ => false) {}).events).filterMap
          Event.ignoredLoad? = ["L2", "L3"] := by
  obtain ⟨resolution, main, hok, -, -, haccounts⟩ :=
    loads_accounted Feeder.network_isBuilt {} (.ofLibraries fun _ => false) {}
  exact ⟨Feeder.network_isBuilt, ⟨resolution, main, hok, haccounts⟩, by decide +kernel,
    by decide +kernel⟩

end GridSetup
