import GridSetup.Proofs.Inventory
import GridSetup.Proofs.MainNodes

/-! # Every generator is defined, once and as it is

A visited node adds the definitions of its own generators, in their order, to
those that are there. How a generator regulates is decided by the generators of
the whole network, which are counted when it is built, whatever part of it is
visited. -/

namespace GridSetup

/-! ## Counting regulators -/

/-- The generators of a network that regulate a bus. -/
def Network.regulatorsOf (network : Network) (bus : String) : List Generator :=
  (network.nodes.flatMap Node.generators).filter fun generator => generator.regulatedBus = bus

namespace Network

theorem foldl_countRegulator_count (generators : List Generator) (network : Network)
    (bus : String) :
    (generators.foldl countRegulator network).regulatorCount bus =
      network.regulatorCount bus +
        (generators.filter fun generator => generator.regulatedBus = bus).length := by
  induction generators generalizing network with
  | nil => simp
  | cons generator rest ih =>
    have hstep : (network.countRegulator generator).regulatorCount bus =
        network.regulatorCount bus + if generator.regulatedBus = bus then 1 else 0 := by
      simp only [regulatorCount, countRegulator, Std.ExtTreeMap.getD_alter,
        Std.LawfulEqCmp.compare_eq_iff_eq]
      split
      · rename_i hbus
        rw [hbus, Std.ExtTreeMap.getD_eq_getD_getElem?]
        rfl
      · rfl
    rw [List.foldl_cons, ih, hstep, List.filter_cons]
    by_cases hbus : generator.regulatedBus = bus
    · simp only [hbus, if_true, decide_true, List.length_cons]
      omega
    · simp [hbus]

theorem assemble_regulatorCount (nodes : List Node) (branches : List Branch)
    (hvdcLines : List HvdcLine) (bus : String) :
    (assemble nodes branches hvdcLines).regulatorCount bus =
      ((nodes.flatMap Node.generators).filter fun generator =>
        generator.regulatedBus = bus).length := by
  unfold assemble
  dsimp only
  rw [foldl_countRegulator_count, foldl_addHvdcLine, foldl_addBranch, foldl_addNode]
  simp [regulatorCount]

/-- Generators are counted over all nodes of the network. -/
theorem IsBuilt.regulatorCount_eq {network : Network} (built : network.IsBuilt) (bus : String) :
    network.regulatorCount bus = (network.regulatorsOf bus).length := by
  obtain ⟨nodes, branches, hvdcLines, h⟩ := built
  obtain ⟨-, rfl⟩ := build_eq_ok_iff.mp h
  have hgenerators : (assemble nodes branches hvdcLines).nodes.flatMap Node.generators =
      nodes.flatMap Node.generators := by
    rw [assemble_eq, List.flatMap_map]
    rfl
  rw [assemble_regulatorCount, regulatorsOf, hgenerators]

end Network

/-! ## Searching other sources -/

theorem Search.run_found (accepts : Node → Bool) (tested nodes : List Node) :
    (Search.run (fun _ => accepts) tested nodes).found = nodes.find? accepts := by
  induction nodes generalizing tested with
  | nil => rfl
  | cons node rest ih =>
    rw [Search.run, List.find?_cons]
    cases haccepts : accepts node with
    | true => simp
    | false => simpa using ih (tested ++ [node])

/-- Closed switches lead from the node to another one with generators. -/
def Network.Coupled (network : Network) (node : Node) : Prop :=
  ∃ other ∈ network.nodes, other.id ≠ node.id ∧ other.generators ≠ [] ∧
    Relation.ReflTransGen network.SwitchedTogether node.id other.id

/-- Whether the search through closed switches from a node finds another one with
generators. -/
def Network.findsSource (network : Network) (node : Node) : Bool :=
  match network.findThroughClosedSwitches node.id fun _ other => Generation.isSource other with
  | .error _ => false
  | .ok search => search.found.isSome

namespace Network.Coherent

variable {network : Network}

theorem findsSource_iff (coherent : network.Coherent) {node : Node}
    (hn : node ∈ network.nodes) : network.findsSource node = true ↔ network.Coupled node := by
  obtain ⟨others, -, hsearch, -, hothers⟩ := coherent.closedSwitchGroup_others hn
  rw [findsSource, hsearch]
  dsimp only
  rw [Search.run_found, List.find?_isSome]
  refine ⟨fun h => ?_, fun h => ?_⟩
  · obtain ⟨other, ho, hsource⟩ := h
    obtain ⟨hmem, hne, hlink⟩ := (hothers other).mp ho
    exact ⟨other, hmem, hne, by simpa [Generation.isSource] using hsource, hlink⟩
  · obtain ⟨other, hmem, hne, hsource, hlink⟩ := h
    exact ⟨other, (hothers other).mpr ⟨hmem, hne, hlink⟩,
      by simpa [Generation.isSource] using hsource⟩

end Network.Coherent

/-! ## Models -/

namespace ModelType

@[simp] theorem new_regulation (regulation : Regulation) (usesDiagram : Bool) :
    (new regulation usesDiagram).regulation = regulation := by
  cases regulation <;> cases usesDiagram <;> rfl

@[simp] theorem new_usesDiagram (regulation : Regulation) (usesDiagram : Bool) :
    (new regulation usesDiagram).usesDiagram = usesDiagram := by
  cases regulation <;> cases usesDiagram <;> rfl

/-- A model is told by what it was chosen by. -/
theorem new_eq_iff (regulation : Regulation) (usesDiagram : Bool) (model : ModelType) :
    new regulation usesDiagram = model ↔
      model.regulation = regulation ∧ model.usesDiagram = usesDiagram := by
  cases regulation <;> cases usesDiagram <;> cases model <;> decide

/-- Models with one name are the same. -/
theorem name_injective {model other : ModelType} (h : model.name = other.name) :
    model = other := by
  revert h
  cases model <;> cases other <;> decide

end ModelType

/-! ## Definitions -/

namespace Generation

/-- The definition of a generator of a node. -/
def definition (unlimited : Bool) (network : Network) (node : Node) (generator : Generator) :
    GeneratorDefinition :=
  { id := generator.id
    model := .new (network.regulation generator) (usesDiagram unlimited generator).value
    nodeId := node.id
    points := generator.points
    pMin := generator.pMin
    pMax := generator.pMax
    qMin := generator.qMin
    qMax := generator.qMax
    targetP := generator.targetP
    regulatedBus := generator.regulatedBus
    coupled := network.findsSource node }

theorem definition_regulation (unlimited : Bool) (network : Network) (node : Node)
    (generator : Generator) :
    (definition unlimited network node generator).model.regulation =
      network.regulation generator :=
  ModelType.new_regulation _ _

theorem definition_usesDiagram (unlimited : Bool) (network : Network) (node : Node)
    (generator : Generator) :
    (definition unlimited network node generator).model.usesDiagram =
      (usesDiagram unlimited generator).value :=
  ModelType.new_usesDiagram _ _

/-- The definitions of the generators of a node. -/
def definitionsAt (unlimited : Bool) (network : Network) (node : Node) :
    List GeneratorDefinition :=
  node.generators.map (definition unlimited network node)

/-- Notes a generator as the one that stands for its bus, if it regulates in
proportion and is the first to do so. -/
def represent (network : Network) (representatives : Std.ExtTreeMap String String)
    (generator : Generator) : Std.ExtTreeMap String String :=
  if network.regulation generator = .proportional then
    representatives.insertIfNew generator.regulatedBus generator.id
  else representatives

theorem foldl_define (unlimited : Bool) (network : Network) (node : Node)
    (generators : List Generator) (state : Generation) :
    generators.foldl (define unlimited network node (network.findsSource node)) state =
      { definitions := state.definitions ++ generators.map (definition unlimited network node)
        representatives := generators.foldl (represent network) state.representatives } := by
  induction generators generalizing state with
  | nil => simp
  | cons generator rest ih =>
    rw [List.foldl_cons, ih]
    simp [define, definition, represent]

variable {network : Network}

/-- A visited node adds the definitions of its generators. -/
theorem visit_state (coherent : network.Coherent) (unlimited : Bool) {node : Node}
    (hn : node ∈ network.nodes) (state : Generation) :
    (visitor unlimited network node state).state =
      { definitions := state.definitions ++ definitionsAt unlimited network node
        representatives := node.generators.foldl (represent network) state.representatives } := by
  obtain ⟨search, hsearch⟩ := coherent.findThroughClosedSwitches_isOk hn
    fun _ other => isSource other
  have hfinds : network.findsSource node = search.found.isSome := by
    rw [Network.findsSource, hsearch]
  rw [visitor]
  split
  · rename_i hnone
    have hempty : node.generators = [] := by simpa [isSource] using hnone
    simp [definitionsAt, hempty]
  · rw [hsearch]
    dsimp only
    rw [← hfinds, foldl_define]
    rfl

/-- After any visits the definitions are those of the visited nodes, one node
after the other. -/
theorem traverse_state (coherent : network.Coherent) (unlimited : Bool) {visits : List Node}
    (hsub : visits ⊆ network.nodes) :
    (traverse (visitor unlimited) network visits {}).state =
      { definitions := visits.flatMap (definitionsAt unlimited network)
        representatives :=
          (visits.flatMap Node.generators).foldl (represent network) ∅ } := by
  refine traverse_invariant (P := fun visits state => state =
      { definitions := visits.flatMap (definitionsAt unlimited network)
        representatives := (visits.flatMap Node.generators).foldl (represent network) ∅ })
    ((coherent.generation_succeedsOn unlimited).mono hsub) ?_ rfl
  intro before _ node hn state hstate
  rw [visit_state coherent unlimited (hsub hn), hstate]
  simp [List.foldl_append]

/-- A bus keeps the generator that stands for it, and else gets the first that regulates
it in proportion. -/
theorem getElem?_foldl_represent (network : Network) (generators : List Generator)
    (representatives : Std.ExtTreeMap String String) (bus : String) :
    (generators.foldl (represent network) representatives)[bus]? =
      representatives[bus]?.or ((generators.find? fun generator =>
        generator.regulatedBus = bus ∧ network.regulation generator = .proportional).map
          Generator.id) := by
  induction generators generalizing representatives with
  | nil => simp
  | cons generator rest ih =>
    rw [List.foldl_cons, ih, represent, List.find?_cons]
    by_cases hregulation : network.regulation generator = .proportional
    · rw [if_pos hregulation]
      simp only [Std.ExtTreeMap.getElem?_insertIfNew, Std.LawfulEqCmp.compare_eq_iff_eq]
      by_cases hbus : generator.regulatedBus = bus
      · subst hbus
        by_cases hmem : generator.regulatedBus ∈ representatives <;> simp [hregulation, hmem]
      · simp [hbus]
    · rw [if_neg hregulation]
      simp [hregulation]

/-- The buses with a generator that stands for them are those that some generator
regulates in proportion. -/
theorem mem_foldl_represent (network : Network) (generators : List Generator) (bus : String) :
    bus ∈ generators.foldl (represent network) ∅ ↔
      ∃ generator ∈ generators, network.regulation generator = .proportional ∧
        generator.regulatedBus = bus := by
  rw [Std.ExtTreeMap.mem_iff_isSome_getElem?, getElem?_foldl_represent]
  simp [and_comm]

theorem mem_flatMap_definitionsAt {unlimited : Bool} {visits : List Node}
    {definition : GeneratorDefinition} :
    definition ∈ visits.flatMap (definitionsAt unlimited network) ↔
      ∃ node ∈ visits, ∃ generator ∈ node.generators,
        Generation.definition unlimited network node generator = definition := by
  simp only [List.mem_flatMap, definitionsAt, List.mem_map]

theorem flatMap_definitionsAt (unlimited : Bool) (network : Network) (visits : List Node) :
    visits.flatMap (definitionsAt unlimited network) =
      (visits.flatMap fun node => node.generators.map fun generator => (node, generator)).map
        fun owned => definition unlimited network owned.1 owned.2 := by
  rw [List.map_flatMap]
  refine List.flatMap_congr fun node _ => ?_
  rw [List.map_map]
  rfl

theorem map_id_definitionsAt (unlimited : Bool) (network : Network) (visits : List Node) :
    (visits.flatMap (definitionsAt unlimited network)).map GeneratorDefinition.id =
      visits.flatMap (Node.equipmentIds .generator) := by
  rw [List.map_flatMap]
  refine List.flatMap_congr fun node _ => ?_
  rw [definitionsAt, List.map_map]
  rfl

end Generation

/-! ## What the definitions say -/

/-- The definition says of a generator what it is, on which node it is, how it
regulates among all generators of the network, and whether its diagram counts. -/
structure GeneratorDefinition.Describes (network : Network) (options : Options) (node : Node)
    (generator : Generator) (definition : GeneratorDefinition) : Prop where
  id : definition.id = generator.id
  nodeId : definition.nodeId = node.id
  points : definition.points = generator.points
  activeLimits : definition.pMin = generator.pMin ∧ definition.pMax = generator.pMax
  reactiveLimits : definition.qMin = generator.qMin ∧ definition.qMax = generator.qMax
  targetP : definition.targetP = generator.targetP
  regulatedBus : definition.regulatedBus = generator.regulatedBus
  proportional : definition.model.regulation = .proportional ↔
    2 ≤ (network.regulatorsOf generator.regulatedBus).length
  remote : definition.model.regulation = .remoteBus ↔
    (network.regulatorsOf generator.regulatedBus).length < 2 ∧ generator.regulatedBus ≠ node.id
  own : definition.model.regulation = .localBus ↔
    (network.regulatorsOf generator.regulatedBus).length < 2 ∧ generator.regulatedBus = node.id
  diagram : definition.model.usesDiagram = true ↔
    options.unlimitedReactivePower = false ∧ generator.hasDiagram.value = true

theorem Network.IsBuilt.definition_describes {network : Network} (built : network.IsBuilt)
    (options : Options) {node : Node} {generator : Generator} (hg : generator ∈ node.generators) :
    (Generation.definition options.unlimitedReactivePower network node generator).Describes
      network options node generator := by
  have hnode : generator.nodeId = node.id := node.generators_attached generator hg
  have hregulation : network.regulation generator =
      if 2 ≤ (network.regulatorsOf generator.regulatedBus).length then .proportional
      else if generator.regulatedBus ≠ node.id then .remoteBus
      else .localBus := by
    rw [Network.regulation, built.regulatorCount_eq, Generator.regulatesRemotely, hnode]
    simp only [bne_iff_ne, Nat.succ_le_iff]
  refine {
    id := rfl
    nodeId := rfl
    points := rfl
    activeLimits := ⟨rfl, rfl⟩
    reactiveLimits := ⟨rfl, rfl⟩
    targetP := rfl
    regulatedBus := rfl
    proportional := ?_
    remote := ?_
    own := ?_
    diagram := ?_ }
  · rw [Generation.definition_regulation, hregulation]
    grind
  · rw [Generation.definition_regulation, hregulation]
    grind
  · rw [Generation.definition_regulation, hregulation]
    grind
  · rw [Generation.definition_usesDiagram]
    cases hunlimited : options.unlimitedReactivePower <;>
      simp [Generation.usesDiagram]

/-- A built network is resolved into one definition for each generator of its
main component and none for any other, node by node in the order of discovery,
and each definition describes its generator. -/
theorem generators_exact {network : Network} (built : network.IsBuilt)
    (config : AutomatonConfig) (locator : Locator) (options : Options) :
    ∃ resolution main, (resolve network config locator options).value = .ok resolution ∧
      network.IsMain network.nodes main ∧
      (∀ id, id ∈ resolution.mainComponent ↔ id ∈ main.map Node.id) ∧
      List.Forall₂ (fun owned definition => definition.Describes network options owned.1 owned.2)
        (main.flatMap fun node => node.generators.map fun generator => (node, generator))
        resolution.generators ∧
      (resolution.generators.map GeneratorDefinition.id).Nodup ∧
      ∀ node ∈ network.nodes, ∀ generator ∈ node.generators,
        (generator.id ∈ resolution.generators.map GeneratorDefinition.id ↔
          node.id ∈ resolution.mainComponent) := by
  have coherent := built.coherent
  have hdistinct := coherent.wellFormed.distinct_nodes.equipment .generator
  have hgenerators : (Resolution.separately network config locator options).generators =
      network.mainNodes.flatMap
        (Generation.definitionsAt options.unlimitedReactivePower network) := by
    rw [Resolution.separately, Generation.traverse_state coherent _ coherent.mainNodes_subset]
  refine ⟨_, network.mainNodes, coherent.resolve_eq_separately config locator options,
    coherent.mainNodes_isMain, Resolution.mem_mainComponent_iff network config locator options,
    ?_, ?_, ?_⟩
  · rw [hgenerators, Generation.flatMap_definitionsAt, List.forall₂_map_right_iff,
      List.forall₂_same]
    intro owned howned
    obtain ⟨node, -, hpair⟩ := List.mem_flatMap.mp howned
    obtain ⟨generator, hg, rfl⟩ := List.mem_map.mp hpair
    exact built.definition_describes options hg
  · rw [hgenerators, Generation.map_id_definitionsAt]
    exact nodup_flatMap_of_subset coherent.mainNodes_nodup coherent.mainNodes_subset hdistinct
  · intro node hn generator hg
    have hown : generator.id ∈ node.equipmentIds .generator := List.mem_map_of_mem hg
    rw [hgenerators, Generation.map_id_definitionsAt, Resolution.mem_mainComponent_iff,
      coherent.mem_mainNodes_ids_iff hn]
    exact mem_flatMap_iff_mem coherent.mainNodes_subset hdistinct hn hown

/-- The generator of the island is left out, but counts: the one on the mainland
that regulates the same bus does so in proportion. -/
theorem generators_exact_mainland :
    Mainland.network.IsBuilt ∧
    (∃ (resolution : Resolution) (main : List Node),
      (resolve Mainland.network {} (.ofLibraries fun _ => false) {}).value = .ok resolution ∧
      List.Forall₂
        (fun owned definition => definition.Describes Mainland.network {} owned.1 owned.2)
        (main.flatMap fun node => node.generators.map fun generator => (node, generator))
        resolution.generators ∧
      (resolution.generators.map GeneratorDefinition.id).Nodup) ∧
    (resolve Mainland.network {} (.ofLibraries fun _ => false) {}).value.map (fun resolution =>
        resolution.generators.map fun definition =>
          (definition.id, definition.nodeId, definition.model)) =
      .ok [("G1", "N", .remoteSignal), ("G2", "S", .diagramSignal),
        ("G4", "E", .proportionalSignal)] := by
  have built : Mainland.network.IsBuilt := ⟨_, _, _, Mainland.build_network⟩
  obtain ⟨resolution, main, hok, -, -, hdescribed, hnodup, -⟩ :=
    generators_exact built {} (.ofLibraries fun _ => false) {}
  exact ⟨built, ⟨resolution, main, hok, hdescribed, hnodup⟩, by decide +kernel⟩

end GridSetup
