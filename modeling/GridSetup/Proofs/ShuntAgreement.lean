import GridSetup.Proofs.Bookkeeping
import GridSetup.Proofs.Inventory
import GridSetup.Proofs.Tally

/-! # Shunts counted and shunts connected

Shunts are counted by adding up how many the visited nodes bear, and they are connected
one by one, into a set. Nodes of the main component are visited once, and the ids of
shunts are distinct over the whole network, so nothing is counted twice and the set
drops nothing: both come to the same number. -/

namespace GridSetup

theorem AutomatonConfig.Resolves.unique {config : AutomatonConfig} {id : String}
    {target target' : Target} (h : config.Resolves id target) (h' : config.Resolves id target') :
    target = target' := by
  rw [← config.target?_eq_some_iff] at h h'
  exact Option.some.inj (h.symm.trans h')

/-- The connections to all shunts on the nodes of a voltage level. -/
def shuntConnections (connector level : String) (visits : List Node) : List Connection :=
  (visits.filter fun node => node.voltageLevel = level).flatMap fun node =>
    node.shunts.map fun shunt => { connector, kind := .shunt, element := shunt.id }

theorem mem_shuntConnections {connector level : String} {visits : List Node}
    {connection : Connection} :
    connection ∈ shuntConnections connector level visits ↔
      ∃ node ∈ visits, node.voltageLevel = level ∧ ∃ shunt ∈ node.shunts,
        { connector, kind := .shunt, element := shunt.id } = connection := by
  simp only [shuntConnections, List.mem_flatMap, List.mem_filter, decide_eq_true_eq, List.mem_map,
    and_assoc]

theorem length_shuntConnections (connector level : String) (visits : List Node) :
    (shuntConnections connector level visits).length =
      (shuntsOfLevel visits level).getD 0 := by
  simp only [shuntConnections, List.length_flatMap, List.length_map, shuntsOfLevel_getD]

theorem shuntConnections_nodup (connector level : String) {visits : List Node}
    (h : (visits.flatMap (Node.equipmentIds .shunt)).Nodup) :
    (shuntConnections connector level visits).Nodup := by
  have hids : (shuntConnections connector level visits).map Connection.element =
      (visits.filter fun node => node.voltageLevel = level).flatMap
        (Node.equipmentIds .shunt) := by
    rw [shuntConnections, List.map_flatMap]
    refine List.flatMap_congr fun node _ => ?_
    rw [List.map_map]
    rfl
  refine List.Nodup.of_map Connection.element ?_
  rw [hids]
  exact h.sublist (List.filter_sublist.flatMap _)

namespace DynamicModels

/-- The connections that the model of an automaton has for a connector. -/
def connectionsOf (models : DynamicModels) (id connector : String) : List Connection :=
  match models.models[id]? with
  | none => []
  | some model =>
    model.connections.toList.filter fun connection => connection.connector = connector

theorem mem_connectionsOf (models : DynamicModels) (id connector : String)
    (connection : Connection) :
    connection ∈ models.connectionsOf id connector ↔
      models.Connected id connection ∧ connection.connector = connector := by
  rw [connectionsOf, Connected]
  cases models.models[id]? with
  | none => simp
  | some model => simp [Std.ExtTreeSet.mem_toList]

theorem connectionsOf_nodup (models : DynamicModels) (id connector : String) :
    (models.connectionsOf id connector).Nodup := by
  rw [connectionsOf]
  split
  · exact List.nodup_nil
  · rename_i model _
    have hdistinct := Std.ExtTreeSet.distinct_toList (t := model.connections)
    refine List.Nodup.filter _ (hdistinct.imp fun hne heq => hne ?_)
    exact Std.LawfulEqCmp.compare_eq_iff_eq.mpr heq

end DynamicModels

namespace DynamicModelSurvey

variable {network : Network} {visits : List Node} {config : AutomatonConfig}
  {locator : Locator} {automaton : Automaton} {connect : MacroConnect} {level : String}

/-- The only macro connector of a name, if it stands for all shunts of a voltage level,
is bound to each shunt on the visited nodes of the level, and to nothing else. -/
theorem mem_connectionsOf_shunts (coherent : network.Coherent) (hsub : visits ⊆ network.nodes)
    (unique : ∀ a ∈ config.all, ∀ b ∈ config.all, a.id = b.id → a = b)
    (ha : automaton ∈ config.all) (hlibrary : locator.finds automaton.library)
    (honly : (automaton.connects.filter fun other => other.connector = connect.connector) =
      [connect])
    (hresolves : config.Resolves connect.association (.multiple (.shunts level)))
    (connection : Connection) :
    connection ∈ (modelsOf network config locator visits).connectionsOf automaton.id
        connect.connector ↔
      connection ∈ shuntConnections connect.connector level visits := by
  rw [DynamicModels.mem_connectionsOf, modelsOf_connected config locator coherent hsub,
    mem_shuntConnections]
  have hconnect : ∀ other,
      other ∈ automaton.connects ∧ other.connector = connect.connector ↔ other = connect := by
    intro other
    rw [← List.mem_singleton (b := connect), ← honly, List.mem_filter, decide_eq_true_iff]
  refine ⟨fun h => ?_, fun h => ?_⟩
  · obtain ⟨⟨other, ho, hid, -, bound, hb, hname, target, htarget, hmeets⟩, hconnector⟩ := h
    obtain rfl := unique other ho automaton ha hid
    obtain rfl := (hconnect bound).mp ⟨hb, hname.trans hconnector⟩
    obtain rfl := htarget.unique hresolves
    obtain ⟨connector, kind, element⟩ := connection
    obtain rfl : bound.connector = connector := hname
    cases hmeets with
    | shunt visited borne => exact ⟨_, visited, rfl, _, borne, rfl⟩
  · obtain ⟨node, visited, rfl, shunt, borne, rfl⟩ := h
    have hmem := ((hconnect connect).mpr rfl).1
    exact ⟨⟨automaton, ha, rfl, hlibrary, connect, hmem, rfl, _, hresolves,
      .shunt visited borne⟩, rfl⟩

end DynamicModelSurvey

/-- A built network is resolved so that a macro connector which stands for all shunts of
a voltage level, and whose automaton has its library and no other connector of that
name, has as many connections as shunts are counted for the level. -/
theorem shuntConnections_counted {network : Network} (built : network.IsBuilt)
    (automatons : List Automaton) (singles : List SingleAssociation)
    (multiples : List MultipleAssociation) (locator : Locator) (options : Options) :
    let config := (AutomatonConfig.ofLists automatons singles multiples).value
    ∃ resolution, (resolve network config locator options).value = .ok resolution ∧
      ∀ automaton ∈ config.all, locator.finds automaton.library → ∀ connect level,
        (automaton.connects.filter fun other => other.connector = connect.connector) =
          [connect] →
        config.Resolves connect.association (.multiple (.shunts level)) →
        (resolution.dynamicModels.connectionsOf automaton.id connect.connector).length =
          resolution.shuntCounts.getD level 0 := by
  intro config
  have coherent := built.coherent
  refine ⟨_, coherent.resolve_eq_separately config locator options, ?_⟩
  intro automaton ha hlibrary connect level honly hresolves
  have hperm : ((DynamicModelSurvey.modelsOf network config locator
      network.mainNodes).connectionsOf automaton.id connect.connector).Perm
        (shuntConnections connect.connector level network.mainNodes) :=
    (List.perm_ext_iff_of_nodup (DynamicModels.connectionsOf_nodup _ _ _)
      (shuntConnections_nodup _ _ (coherent.mainNodes_equipment_nodup .shunt))).mpr
      (DynamicModelSurvey.mem_connectionsOf_shunts coherent coherent.mainNodes_subset
        (fun _ ha _ hb => AutomatonConfig.all_injective automatons singles multiples ha hb)
        ha hlibrary honly hresolves)
  rw [Std.ExtTreeMap.getD_eq_getD_getElem?]
  calc ((DynamicModelSurvey.modelsOf network config locator
        network.mainNodes).connectionsOf automaton.id connect.connector).length
      = (shuntConnections connect.connector level network.mainNodes).length := hperm.length_eq
    _ = (shuntsOfLevel network.mainNodes level).getD 0 := length_shuntConnections _ _ _
    _ = _ := congrArg (Option.getD · 0) (shuntCount_exact network.mainNodes level).symm

namespace Mainland

/-- Sheds the shunts of one voltage level and measures those of another. -/
def shedder : Automaton :=
  { id := "T", library := "Tap", connects :=
      [{ connector := "measure", association := "away" },
        { connector := "shed", association := "here" }] }

/-- Uses the name of a connector of the other for another voltage level. -/
def rival : Automaton :=
  { id := "U", library := "Tap", connects := [{ connector := "shed", association := "away" }] }

def banks : List MultipleAssociation :=
  [{ id := "here", target := .shunts "V1" }, { id := "away", target := .shunts "V2" }]

end Mainland

/-- One shunt is shed where one is counted. That of the island is neither measured nor
counted. -/
theorem shuntConnections_counted_mainland :
    Mainland.network.IsBuilt ∧
    (∃ resolution : Resolution,
      (resolve Mainland.network
        (AutomatonConfig.ofLists [Mainland.shedder, Mainland.rival] [] Mainland.banks).value
        (.ofLibraries (· = "Tap")) {}).value = .ok resolution ∧
      (resolution.dynamicModels.connectionsOf "T" "shed").length =
        resolution.shuntCounts.getD "V1" 0) ∧
    (resolve Mainland.network
        (AutomatonConfig.ofLists [Mainland.shedder, Mainland.rival] [] Mainland.banks).value
        (.ofLibraries (· = "Tap")) {}).value.map (fun resolution =>
          (resolution.dynamicModels.connectionsOf "T" "shed",
            resolution.dynamicModels.connectionsOf "T" "measure",
            resolution.shuntCounts.toList)) =
      .ok ([{ connector := "shed", kind := .shunt, element := "S1" }], [],
        [("V1", 1), ("V2", 0)]) := by
  have built : Mainland.network.IsBuilt := ⟨_, _, _, Mainland.build_network⟩
  obtain ⟨resolution, hok, hcounted⟩ := shuntConnections_counted built
    [Mainland.shedder, Mainland.rival] [] Mainland.banks (.ofLibraries (· = "Tap")) {}
  have present : Mainland.shedder ∈
      (AutomatonConfig.ofLists [Mainland.shedder, Mainland.rival] [] Mainland.banks).value.all := by
    decide +kernel
  have target : (AutomatonConfig.ofLists [Mainland.shedder, Mainland.rival] []
      Mainland.banks).value.target? "here" = some (.multiple (.shunts "V1")) := by
    decide +kernel
  have hshed := hcounted Mainland.shedder present rfl
    { connector := "shed", association := "here" } "V1" (by decide)
    ((AutomatonConfig.target?_eq_some_iff _ _ _).mp target)
  exact ⟨built, ⟨resolution, hok, hshed⟩, by decide +kernel⟩

end GridSetup
