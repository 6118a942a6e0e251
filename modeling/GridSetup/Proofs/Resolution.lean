import GridSetup.Proofs.FailedLookup
import GridSetup.Proofs.MainComponent

/-! # Resolving never fails

Every look-up that walks and visitors make of a built network finds what it
asks for, so no visitor fails on any node in any state, neither does a
traversal, and a built network is resolved whatever the configuration, the
libraries and the options are. -/

namespace GridSetup

namespace Network.Coherent

variable {network : Network}

theorem neighbors_exact (coherent : network.Coherent) {node : Node}
    (hn : node ∈ network.nodes) :
    ∃ others, network.neighbors node.id = .ok others ∧
      others.map Node.id = network.neighborIds node.id ∧
      ∀ other ∈ others, other ∈ network.nodes := by
  obtain ⟨others, hothers, hrest⟩ := coherent.mapM_node (network.neighborIds node.id)
    fun id hid => coherent.adjacent_present ((coherent.mem_neighborIds_iff node.id id).mp hid)
  refine ⟨others, ?_, hrest⟩
  rw [neighbors, coherent.node_of_mem hn]
  exact hothers

theorem converter_found (coherent : network.Coherent) {node : Node}
    (hn : node ∈ network.nodes) {id : String} (hid : id ∈ node.converters) :
    ∃ line side, network.hvdcLineOfConverter id = .ok (line, side) := by
  obtain ⟨line, hl, converter, hc, rfl, -⟩ := (coherent.stationed node hn id).mp hid
  rw [HvdcLine.converters_eq] at hc
  obtain ⟨side, -, rfl⟩ := List.mem_map.mp hc
  exact ⟨line, side, (coherent.hvdcLineOfConverter_eq_ok_iff _ _ _).mpr ⟨hl, rfl⟩⟩

theorem lookupsSucceed (coherent : network.Coherent) : network.LookupsSucceed where
  node node hn := coherent.node_of_mem hn
  neighbor node hn id hid := by
    have hadjacent := (coherent.mem_neighborIds_iff node.id id).mp hid
    obtain ⟨other, ho, rfl⟩ := List.mem_map.mp (coherent.adjacent_present hadjacent)
    exact ⟨other, coherent.node_of_mem ho⟩
  switch node hn id hid := by
    obtain ⟨switch, hs, rfl, hend⟩ := (coherent.mem_switches_iff hn id).mp hid
    have hends := coherent.switch_ends hs
    obtain ⟨other, hother⟩ := switch.otherEnd?_isSome hend
    have hmem := ((switch.otherEnd?_eq_some_iff hends.distinct node.id other).mp hother).2.1
    obtain ⟨far, hfar, rfl⟩ := List.mem_map.mp (hends.present other hmem)
    exact ⟨switch, far.id, far, (coherent.switch_eq_ok_iff _ _).mpr ⟨hs, rfl⟩, hother,
      coherent.node_of_mem hfar⟩
  converter node hn id hid := by
    obtain ⟨line, side, hfound⟩ := coherent.converter_found hn hid
    obtain ⟨hl, rfl⟩ := (coherent.hvdcLineOfConverter_eq_ok_iff id line side).mp hfound
    exact ⟨line.id, side, line, (coherent.converter_entry _ _ _).mpr ⟨line, hl, rfl, rfl⟩,
      (coherent.hvdcLine_eq_ok_iff _ _).mpr ⟨hl, rfl⟩⟩

/-- A search can only complain that it does not know the node to start from. -/
theorem findThroughClosedSwitches_eq_error (coherent : network.Coherent) {start : String}
    {accepts : List Node → Node → Bool} {fault : Fault}
    (h : network.findThroughClosedSwitches start accepts = .error fault) :
    fault = .unknownNode start ∧ start ∉ network.nodes.map Node.id := by
  have hstart : start ∉ network.nodes.map Node.id := by
    intro hmem
    obtain ⟨node, hn, rfl⟩ := List.mem_map.mp hmem
    obtain ⟨search, hsearch⟩ := coherent.findThroughClosedSwitches_isOk hn accepts
    rw [hsearch] at h
    cases h
  refine ⟨?_, hstart⟩
  rw [findThroughClosedSwitches, closedSwitchGroup, node_eq_error hstart] at h
  cases h
  rfl

/-! ## Visitors -/

theorem slack_succeedsOn (coherent : network.Coherent) :
    SlackCandidate.visitor.SucceedsOn network network.nodes :=
  SlackCandidate.visitor_failsByLookup.succeedsOn coherent.lookupsSucceed

theorem generation_succeedsOn (coherent : network.Coherent) (unlimited : Bool) :
    (Generation.visitor unlimited).SucceedsOn network network.nodes :=
  (Generation.visitor_failsByLookup unlimited).succeedsOn coherent.lookupsSucceed

theorem loads_succeedsOn (nodes : List Node) (threshold : Float) :
    (LoadDefinition.visitor threshold).SucceedsOn network nodes :=
  fun node _ => LoadDefinition.visitor_fault threshold node

theorem hvdc_succeedsOn (coherent : network.Coherent) :
    HvdcDefinition.visitor.SucceedsOn network network.nodes :=
  HvdcDefinition.visitor_failsByLookup.succeedsOn coherent.lookupsSucceed

theorem panel_succeedsOn (coherent : network.Coherent) (options : Options) :
    (Resolution.panel options).SucceedsOn network network.nodes :=
  ⟨coherent.slack_succeedsOn, coherent.generation_succeedsOn _,
    loads_succeedsOn _ _, coherent.hvdc_succeedsOn, fun _ _ _ => rfl, fun _ _ _ => rfl, trivial⟩

end Network.Coherent

/-! ## Resolving -/

namespace Network

variable {network : Network}

/-- The nodes of the main component, as a traversal of all nodes finds them. -/
def mainNodes (network : Network) : List Node :=
  (traverse MainComponent.visitor network network.nodes {}).state.nodes

theorem Coherent.mainNodes_isMain (coherent : network.Coherent) :
    network.IsMain network.nodes network.mainNodes :=
  (MainComponent.traverse_tracks coherent (List.Subset.refl network.nodes)).main

theorem Coherent.mainNodes_subset (coherent : network.Coherent) :
    network.mainNodes ⊆ network.nodes := by
  rcases coherent.mainNodes_isMain with ⟨-, hnone⟩ | ⟨node, hnode, hok⟩
  · rw [hnone]
    exact List.nil_subset _
  · obtain ⟨component, hcomponent, -, -, hpresent, -⟩ := coherent.reachableNodes_exact hnode.mem
    rw [hcomponent] at hok
    cases hok
    exact hpresent

/-- A coherent network is resolved into what the panel gathers from the main
component, and all that is reported on the way is in one log. -/
theorem Coherent.resolve_eq (coherent : network.Coherent) (config : AutomatonConfig)
    (locator : Locator) (options : Options) :
    let search := traverse MainComponent.visitor network network.nodes {}
    let survey := DynamicModelSurvey.prepare config locator
    let outcome := traverse (Resolution.panel options).visitor network network.mainNodes
      (Resolution.start survey.value)
    let resolution := Resolution.ofParts network.mainNodes outcome.state
    resolve network config locator options =
      { value := .ok resolution
        events := search.events ++ .mainComponent network.mainNodes.length network.nodes.length ::
          (survey.events ++ outcome.events) ++ resolution.dynamicModels.unusedEvents } := by
  have hsearch := (traverse_of_succeedsOn (MainComponent.visitor_succeedsOn coherent) {}).1
  have hpanel := (Panel.visitor_succeedsOn _ (coherent.panel_succeedsOn options)).mono
    coherent.mainNodes_subset
  have houtcome := (traverse_of_succeedsOn hpanel
    (Resolution.start (DynamicModelSurvey.prepare config locator).value)).1
  intro search survey outcome resolution
  unfold resolve
  dsimp only
  rw [hsearch]
  dsimp only
  rw [mainNodes] at houtcome
  rw [houtcome]
  rfl

theorem Coherent.resolve_value (coherent : network.Coherent) (config : AutomatonConfig)
    (locator : Locator) (options : Options) :
    (resolve network config locator options).value =
      .ok (Resolution.ofParts network.mainNodes
        (traverse (Resolution.panel options).visitor network network.mainNodes
          (Resolution.start (DynamicModelSurvey.prepare config locator).value)).state) := by
  rw [coherent.resolve_eq]

end Network

/-- Resolving fails by a failed look-up only, whatever network it is. In a built network
none of the look-ups made on the way can fail, so it is resolved whatever the
configuration, the libraries and the options are; its nodes can all be walked from, along
links and through closed switches; and a search never finds a switch out of place: it
only complains if it does not know the node to start from. -/
theorem resolve_succeeds (network : Network) (config : AutomatonConfig) (locator : Locator)
    (options : Options) :
    (∀ fault, (resolve network config locator options).value = .error fault →
      network.FailedLookup fault) ∧
    (network.IsBuilt →
      (∃ resolution, (resolve network config locator options).value = .ok resolution) ∧
      network.LookupsSucceed ∧ (∀ fault, ¬network.FailedLookup fault) ∧
      (∀ start ∈ network.nodes, ∃ component, network.reachableNodes start.id = .ok component) ∧
      (∀ start ∈ network.nodes, ∀ accepts, ∃ search,
        network.findThroughClosedSwitches start.id accepts = .ok search) ∧
      ∀ start accepts fault, network.findThroughClosedSwitches start accepts = .error fault →
        fault = .unknownNode start ∧ start ∉ network.nodes.map Node.id) := by
  refine ⟨fun fault => resolve_failed, fun built => ?_⟩
  have coherent := built.coherent
  have lookups := coherent.lookupsSucceed
  have hresolved : ∃ resolution, (resolve network config locator options).value =
      .ok resolution := by
    cases hvalue : (resolve network config locator options).value with
    | error fault => exact absurd (resolve_failed hvalue) (lookups.not_failedLookup fault)
    | ok resolution => exact ⟨resolution, rfl⟩
  refine ⟨hresolved, lookups, lookups.not_failedLookup, fun start hstart => ?_,
    fun start hstart accepts => coherent.findThroughClosedSwitches_isOk hstart accepts,
    fun start accepts fault h => coherent.findThroughClosedSwitches_eq_error h⟩
  obtain ⟨component, hcomponent, -⟩ := coherent.reachableNodes_exact hstart
  exact ⟨component, hcomponent⟩

/-- With the look-ups made for the converter on `D` and for the switch on `B`. -/
theorem resolve_succeeds_twoIslands :
    TwoIslands.network.IsBuilt ∧
    (∀ config locator options, ∃ resolution,
      (resolve TwoIslands.network config locator options).value = .ok resolution) ∧
    (∃ lineId side line, TwoIslands.network.converters["AD2"]? = some (lineId, side) ∧
      TwoIslands.network.hvdcLine lineId = .ok line) ∧
    (∃ switch other far, TwoIslands.network.switch "BC" = .ok switch ∧
      switch.otherEnd? "B" = some other ∧ TwoIslands.network.node other = .ok far) ∧
    (∀ fault, ¬TwoIslands.network.FailedLookup fault) ∧
    "X" ∉ TwoIslands.network.nodes.map Node.id := by
  have succeeds config locator options :=
    (resolve_succeeds TwoIslands.network config locator options).2 TwoIslands.network_isBuilt
  obtain ⟨-, lookups, hnone, -, -, hstranger⟩ := succeeds {} (.ofLibraries fun _ => false) {}
  obtain ⟨d, hd, hconverter⟩ : ∃ node ∈ TwoIslands.network.nodes, "AD2" ∈ node.converters := by
    decide +kernel
  obtain ⟨b, hb, hid, hswitch⟩ : ∃ node ∈ TwoIslands.network.nodes,
      node.id = "B" ∧ "BC" ∈ node.switches := by decide +kernel
  exact ⟨TwoIslands.network_isBuilt, fun config locator options =>
      (succeeds config locator options).1,
    lookups.converter d hd "AD2" hconverter, hid ▸ lookups.switch b hb "BC" hswitch, hnone,
    (hstranger "X" (fun _ _ => true) _ rfl).2⟩

/-! ## The main component -/

theorem Network.Coherent.mem_mainComponent {network : Network} (coherent : network.Coherent)
    (parts : States Resolution.Parts) :
    (network.nodes = [] ∧ (Resolution.ofParts network.mainNodes parts).mainComponent = ∅) ∨
      ∃ node, network.IsFirstLargest network.nodes node ∧
        ∀ id, id ∈ (Resolution.ofParts network.mainNodes parts).mainComponent ↔
          network.Linked node.id id := by
  rcases coherent.mainNodes_isMain with ⟨hempty, hnone⟩ | ⟨node, hnode, hok⟩
  · refine .inl ⟨hempty, ?_⟩
    rw [hnone]
    rfl
  · refine .inr ⟨node, hnode, fun id => ?_⟩
    obtain ⟨component, hcomponent, -, -, -, hlinked⟩ := coherent.reachableNodes_exact hnode.mem
    rw [hcomponent] at hok
    cases hok
    rw [Resolution.ofParts, Std.ExtTreeSet.mem_ofList, List.contains_iff_mem]
    exact hlinked id

/-- Whatever nodes of a built network are visited, in whatever order and however
often, the main component is what can be reached from the first of them whose
component is largest, as if no node had been marked. For a resolution all nodes
are visited, in the order in which they were given. -/
theorem mainComponent_exact {nodes : List Node} {branches : List Branch}
    {hvdcLines : List HvdcLine} {network : Network}
    (h : Network.build nodes branches hvdcLines = .ok network) :
    (∀ visits, visits ⊆ network.nodes →
      (traverse MainComponent.visitor network visits {}).fault = none ∧
      (traverse MainComponent.naiveVisitor network visits []).fault = none ∧
      (traverse MainComponent.visitor network visits {}).state.nodes =
        (traverse MainComponent.naiveVisitor network visits []).state ∧
      network.IsMain visits (traverse MainComponent.visitor network visits {}).state.nodes) ∧
    network.nodes.map Node.id = nodes.map Node.id ∧
    ∀ config locator options, ∃ resolution,
      (resolve network config locator options).value = .ok resolution ∧
      ((network.nodes = [] ∧ resolution.mainComponent = ∅) ∨
        ∃ node, network.IsFirstLargest network.nodes node ∧
          ∀ id, id ∈ resolution.mainComponent ↔ network.Linked node.id id) := by
  have coherent := Network.IsBuilt.coherent ⟨nodes, branches, hvdcLines, h⟩
  refine ⟨fun visits hsub => ?_, ?_, fun config locator options => ?_⟩
  · have hmain := (MainComponent.traverse_tracks coherent hsub).main
    have hfault := traverse_of_succeedsOn
      ((MainComponent.visitor_succeedsOn coherent).mono hsub) {}
    have hnaive := traverse_of_succeedsOn
      ((MainComponent.naiveVisitor_succeedsOn coherent).mono hsub) []
    exact ⟨hfault.1, hnaive.1,
      hmain.unique (MainComponent.traverse_naive_isMain coherent hsub), hmain⟩
  · obtain ⟨-, rfl⟩ := Network.build_eq_ok_iff.mp h
    exact Network.assemble_ids
  · exact ⟨_, coherent.resolve_value config locator options, coherent.mem_mainComponent _⟩

/-- Visited backwards, the second of the two equally large islands is the main
component. -/
theorem mainComponent_exact_twoIslands :
    Network.build TwoIslands.nodes TwoIslands.branches TwoIslands.hvdcLines =
      .ok TwoIslands.network ∧
    TwoIslands.network.IsMain TwoIslands.network.nodes.reverse
      (traverse MainComponent.visitor TwoIslands.network
        TwoIslands.network.nodes.reverse {}).state.nodes ∧
    (traverse MainComponent.visitor TwoIslands.network
      TwoIslands.network.nodes.reverse {}).state.nodes.map Node.id = ["D", "C"] :=
  ⟨TwoIslands.build_network,
    ((mainComponent_exact TwoIslands.build_network).1 _ fun _ => List.mem_reverse.mp).2.2.2,
    by decide +kernel⟩

end GridSetup
