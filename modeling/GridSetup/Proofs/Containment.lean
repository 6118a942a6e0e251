import GridSetup.Proofs.Bookkeeping
import GridSetup.Proofs.Inventory
import GridSetup.Proofs.Slack
import GridSetup.Proofs.Tally

/-! # What a resolution refers to

A resolution is gathered from the main component and refers to nothing outside
of it. Nodes, loads and shunts are met on the nodes that are visited, but a
branch is met as soon as one of its ends is. That its other ends are inside as
well is because no branch leaves the component. A voltage level may have nodes
on both sides, and only those inside count. -/

namespace GridSetup

/-- The connection leads to one of these nodes, to a shunt that one of them
bears, or to a line or a transformer that ends on no other node. -/
inductive Connection.Within (network : Network) (members : List Node) : Connection → Prop
  | node {connector : String} {node : Node} (member : node ∈ members) :
    Within network members { connector, kind := .node, element := node.id }
  | shunt {connector : String} {node : Node} {shunt : Shunt} (member : node ∈ members)
    (borne : shunt ∈ node.shunts) :
    Within network members { connector, kind := .shunt, element := shunt.id }
  | line {connector : String} {line : Line} (present : line ∈ network.lines)
    (inside : line.ends ⊆ members.map Node.id) :
    Within network members { connector, kind := .line, element := line.id }
  | transformer {connector : String} {transformer : Transformer}
    (present : transformer ∈ network.transformers)
    (inside : transformer.ends ⊆ members.map Node.id) :
    Within network members { connector, kind := .transformer, element := transformer.id }

namespace Resolution

/-- The nodes of the network that are in the main component. -/
def members (network : Network) (resolution : Resolution) : List Node :=
  network.nodes.filter fun node => resolution.mainComponent.contains node.id

/-- The resolution refers only to the members of its main component, to what
they bear and to branches between them. -/
structure Contained (network : Network) (resolution : Resolution) : Prop where
  slackless : resolution.slackNode = none ↔ network.nodes = []
  slack : ∀ id, resolution.slackNode = some id → id ∈ resolution.mainComponent
  connections : ∀ id connection, resolution.dynamicModels.Connected id connection →
    connection.Within network (resolution.members network)
  loads : ∀ definition ∈ resolution.loads, ∃ node ∈ resolution.members network,
    definition.nodeId = node.id ∧ ∃ load ∈ node.loads, load.id = definition.id
  shunts : ∀ level : String,
    resolution.shuntCounts[level]? = shuntsOfLevel (resolution.members network) level

end Resolution

/-- What a target meets in the main component is within any nodes that comprise
the main component. -/
theorem Target.Meets.within {network : Network} (coherent : network.Coherent)
    {members : List Node} (hsub : network.mainNodes ⊆ members) {target : Target}
    {connector element : String} {kind : ConnectedKind}
    (h : target.Meets network network.mainNodes kind element) :
    Connection.Within network members { connector, kind, element } := by
  -- a branch is met at one end and is inside with all of them
  have hinside : ∀ kind ≠ BranchKind.switch, ∀ branch ∈ network.branchesOf kind,
      ∀ node ∈ network.mainNodes, node.id ∈ branch.ends → branch.ends ⊆ members.map Node.id := by
    intro kind hkind branch hb node hn hend
    obtain ⟨hmem, rfl⟩ := Network.mem_branchesOf.mp hb
    exact List.Subset.trans (coherent.ends_subset_mainNodes hmem hkind hn hend)
      (List.map_subset Node.id hsub)
  cases h with
  | firstBus first => exact .node (hsub (List.mem_of_find?_eq_some first))
  | everyBus visited => exact .node (hsub visited)
  | shunt visited borne => exact .shunt (hsub visited) borne
  | line present visited ends =>
    exact .line present (hinside .line (by decide) _ (List.mem_map_of_mem present) _ visited ends)
  | transformer present visited ends =>
    exact .transformer present
      (hinside .transformer (by decide) _ (List.mem_map_of_mem present) _ visited ends)

/-! ## The parts of a resolution -/

namespace Network.Coherent

variable {network : Network} (config : AutomatonConfig) (locator : Locator)
  (options : Options)

theorem mainNodes_perm_members (coherent : network.Coherent) :
    network.mainNodes.Perm
      ((Resolution.separately network config locator options).members network) := by
  have hnodup : network.nodes.Nodup := coherent.wellFormed.distinct_nodes.ids.of_map Node.id
  rw [Resolution.members]
  refine (List.perm_ext_iff_of_nodup coherent.mainNodes_nodup (hnodup.filter _)).mpr fun node => ?_
  rw [List.mem_filter, Std.ExtTreeSet.contains_iff_mem, Resolution.mem_mainComponent_iff]
  refine ⟨fun h => ⟨coherent.mainNodes_subset h, List.mem_map_of_mem h⟩, fun h => ?_⟩
  exact (coherent.mem_mainNodes_ids_iff h.1).mp h.2

theorem separately_contained (coherent : network.Coherent) :
    (Resolution.separately network config locator options).Contained network := by
  have hslack := SlackCandidate.traverse_tracks coherent coherent.mainNodes_subset
  have hmembers := coherent.mainNodes_perm_members config locator options
  refine { slackless := ?_, slack := ?_, connections := ?_, loads := ?_, shunts := ?_ }
  · rw [Resolution.separately, Option.map_eq_none_iff, ← coherent.mainNodes_eq_nil_iff]
    exact hslack.eq_none_iff
  · intro id hid
    rw [Resolution.separately] at hid
    obtain ⟨candidate, hcandidate, rfl⟩ := Option.map_eq_some_iff.mp hid
    rw [hcandidate] at hslack
    rw [Resolution.mem_mainComponent_iff]
    exact List.mem_map_of_mem hslack.1
  · intro id connection hconnected
    obtain ⟨_, -, -, -, _, -, -, _, -, hmeets⟩ :=
      (DynamicModelSurvey.modelsOf_connected config locator coherent coherent.mainNodes_subset
        id connection).mp hconnected
    exact hmeets.within coherent hmembers.subset
  · intro definition hdefinition
    rw [Resolution.separately, LoadDefinition.traverse_state] at hdefinition
    obtain ⟨node, hn, hown⟩ := List.mem_flatMap.mp hdefinition
    obtain ⟨load, hload, rfl⟩ := LoadDefinition.mem_definitionsAt hown
    exact ⟨node, hmembers.subset hn, node.loads_attached load hload, load, hload, rfl⟩
  · intro level
    rw [Resolution.separately, shuntCount_exact, shuntsOfLevel_perm hmembers]
    rfl

end Network.Coherent

/-- A built network is resolved, whatever the configuration, the libraries and the
options are, into something that refers to nothing outside of the main component:
what it calls the main component is that of the network, and the slack node, every
connection, every load definition and every count of shunts is within. -/
theorem resolution_contained {network : Network} (built : network.IsBuilt)
    (config : AutomatonConfig) (locator : Locator) (options : Options) :
    ∃ resolution main, (resolve network config locator options).value = .ok resolution ∧
      network.IsMain network.nodes main ∧
      (∀ id, id ∈ resolution.mainComponent ↔ id ∈ main.map Node.id) ∧
      resolution.Contained network :=
  ⟨_, network.mainNodes, built.coherent.resolve_eq_separately config locator options,
    built.coherent.mainNodes_isMain,
    Resolution.mem_mainComponent_iff network config locator options,
    built.coherent.separately_contained config locator options⟩

namespace Mainland

/-- An automaton that measures one node of a voltage level which the island has a
share in, sheds all shunts of it, and controls the transformer. -/
def straddling : AutomatonConfig :=
  (AutomatonConfig.ofLists
    [{ id := "T", library := "Tap", connects :=
        [{ connector := "control", association := "tap" },
          { connector := "measure", association := "side" },
          { connector := "shed", association := "banks" }] }]
    [{ id := "side", target := .bus "V2" }, { id := "tap", target := .transformer "NSE" }]
    [{ id := "banks", target := .shunts "V2" }]).value

end Mainland

/-- The shunt and the load of the island are left out although the mainland has a
node in their voltage level, which is counted with no shunt. -/
theorem resolution_contained_mainland :
    Mainland.network.IsBuilt ∧
    (∃ (resolution : Resolution) (main : List Node),
      (resolve Mainland.network Mainland.straddling (.ofLibraries (· = "Tap")) {}).value =
        .ok resolution ∧
      (∀ id, id ∈ resolution.mainComponent ↔ id ∈ main.map Node.id) ∧
      resolution.Contained Mainland.network) ∧
    (resolve Mainland.network Mainland.straddling (.ofLibraries (· = "Tap")) {}).value.map
        (fun resolution => (resolution.slackNode, resolution.loads.map LoadDefinition.id,
          resolution.shuntCounts.toList, resolution.dynamicModels.models.toList.map fun model =>
            model.2.connections.toList.map Connection.element)) =
      .ok (some "N", ["K"], [("V1", 1), ("V2", 0)], [["NSE", "E"]]) := by
  have built : Mainland.network.IsBuilt := ⟨_, _, _, Mainland.build_network⟩
  obtain ⟨resolution, main, hok, -, hmain, hcontained⟩ :=
    resolution_contained built Mainland.straddling (.ofLibraries (· = "Tap")) {}
  exact ⟨built, ⟨resolution, main, hok, hmain, hcontained⟩, by decide +kernel⟩

end GridSetup
