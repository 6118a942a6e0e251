import GridSetup.Proofs.Generation

/-! # The generators that stand for buses

Whether a generator regulates in proportion is a matter of its bus: of how many
generators of the whole network regulate it. So all generators of a bus agree on it,
also where only some of them are visited, and the one that stands for the bus is the
first that was defined. -/

namespace GridSetup

namespace Network

variable {network : Network}

/-- Generators regulate in proportion exactly if another one regulates their bus. -/
theorem regulation_eq_proportional_iff (network : Network) (generator : Generator) :
    network.regulation generator = .proportional ↔
      1 < network.regulatorCount generator.regulatedBus := by
  rw [regulation]
  grind

theorem mem_regulatorsOf {node : Node} (hn : node ∈ network.nodes) {generator : Generator}
    (hg : generator ∈ node.generators) :
    generator ∈ network.regulatorsOf generator.regulatedBus :=
  List.mem_filter.mpr ⟨List.mem_flatMap.mpr ⟨node, hn, hg⟩, decide_eq_true rfl⟩

/-- Two different generators of one bus share its regulation, on whichever nodes they
are. -/
theorem IsBuilt.shared_regulation (built : network.IsBuilt) {node other : Node}
    (hn : node ∈ network.nodes) (ho : other ∈ network.nodes) {generator rival : Generator}
    (hg : generator ∈ node.generators) (hr : rival ∈ other.generators) (hne : generator ≠ rival)
    (hbus : generator.regulatedBus = rival.regulatedBus) :
    network.regulation generator = .proportional := by
  have hpair : [generator, rival] ⊆ network.regulatorsOf generator.regulatedBus :=
    List.cons_subset.mpr ⟨mem_regulatorsOf hn hg,
      List.cons_subset.mpr ⟨hbus ▸ mem_regulatorsOf ho hr, List.nil_subset _⟩⟩
  have hboth : [generator, rival].Subperm (network.regulatorsOf generator.regulatedBus) :=
    List.Nodup.subperm (by simp [hne]) hpair
  rw [regulation_eq_proportional_iff, built.regulatorCount_eq]
  exact hboth.length_le

end Network

namespace Generation

/-- The generators that stand for buses go together with the definitions: there is one
for each bus that is regulated in proportion, namely the first that is defined, and for
no other bus. -/
structure RepresentsBuses (generation : Generation) : Prop where
  buses : ∀ bus, bus ∈ generation.representatives ↔
    ∃ definition ∈ generation.definitions,
      definition.model.regulation = .proportional ∧ definition.regulatedBus = bus
  first : ∀ (bus id : String), generation.representatives[bus]? = some id →
    (generation.definitions.find? fun definition => definition.regulatedBus = bus).map
      GeneratorDefinition.id = some id
  shared : ∀ definition ∈ generation.definitions, ∀ other ∈ generation.definitions,
    definition.id ≠ other.id → definition.regulatedBus = other.regulatedBus →
      definition.model.regulation = .proportional ∧ other.model.regulation = .proportional
  unshared : ∀ definition ∈ generation.definitions,
    definition.model.regulation ≠ .proportional →
      definition.regulatedBus ∉ generation.representatives

variable {network : Network} {visits : List Node}

/-- The first definition for a bus is that of the first generator that regulates it. -/
theorem find?_definitions (unlimited : Bool) (network : Network) (visits : List Node)
    (bus : String) :
    ((visits.flatMap (definitionsAt unlimited network)).find? fun definition =>
        definition.regulatedBus = bus).map GeneratorDefinition.id =
      ((visits.flatMap Node.generators).find? fun generator =>
        generator.regulatedBus = bus).map Generator.id := by
  have howned : visits.flatMap Node.generators =
      (visits.flatMap fun node => node.generators.map fun generator => (node, generator)).map
        Prod.snd := by
    rw [List.map_flatMap]
    refine List.flatMap_congr fun node _ => ?_
    simp [Function.comp_def]
  rw [flatMap_definitionsAt, howned, List.find?_map, List.find?_map, Option.map_map,
    Option.map_map]
  rfl

/-- The buses with a generator that stands for them, by the definitions. -/
theorem mem_representatives_iff (unlimited : Bool) (network : Network) (visits : List Node)
    (bus : String) :
    bus ∈ (visits.flatMap Node.generators).foldl (represent network) ∅ ↔
      ∃ definition ∈ visits.flatMap (definitionsAt unlimited network),
        definition.model.regulation = .proportional ∧ definition.regulatedBus = bus := by
  rw [mem_foldl_represent]
  refine ⟨fun h => ?_, fun h => ?_⟩
  · obtain ⟨generator, hg, hregulation, hbus⟩ := h
    obtain ⟨node, hn, hg⟩ := List.mem_flatMap.mp hg
    exact ⟨_, mem_flatMap_definitionsAt.mpr ⟨node, hn, generator, hg, rfl⟩,
      (definition_regulation unlimited network node generator).trans hregulation, hbus⟩
  · obtain ⟨_, hd, hregulation, hbus⟩ := h
    obtain ⟨node, hn, generator, hg, rfl⟩ := mem_flatMap_definitionsAt.mp hd
    rw [definition_regulation] at hregulation
    exact ⟨generator, List.mem_flatMap.mpr ⟨node, hn, hg⟩, hregulation, hbus⟩

/-- The generator that stands for a bus is the first that regulates it, since all that
do regulate in proportion if one does. -/
theorem getElem?_representatives {network : Network} {generators : List Generator}
    {bus id : String} (h : (generators.foldl (represent network) ∅)[bus]? = some id) :
    (generators.find? fun generator => generator.regulatedBus = bus).map Generator.id =
      some id := by
  rw [getElem?_foldl_represent, Std.ExtTreeMap.getElem?_empty, Option.none_or] at h
  obtain ⟨generator, hfound, -⟩ := Option.map_eq_some_iff.mp h
  have hgenerator : generator.regulatedBus = bus ∧
      network.regulation generator = .proportional := by simpa using List.find?_some hfound
  obtain ⟨hbus, hregulation⟩ := hgenerator
  rw [network.regulation_eq_proportional_iff, hbus] at hregulation
  have hsame : (fun generator : Generator => decide (generator.regulatedBus = bus)) =
      fun generator => decide (generator.regulatedBus = bus ∧
        network.regulation generator = .proportional) := by
    funext generator
    rw [decide_eq_decide, network.regulation_eq_proportional_iff]
    exact ⟨fun hbus => ⟨hbus, hbus ▸ hregulation⟩, And.left⟩
  rw [hsame, h]

theorem traverse_representsBuses (built : network.IsBuilt) (unlimited : Bool)
    (hsub : visits ⊆ network.nodes) :
    (traverse (visitor unlimited) network visits {}).state.RepresentsBuses := by
  rw [traverse_state built.coherent unlimited hsub]
  refine ⟨mem_representatives_iff unlimited network visits, fun bus id hid => ?_, ?_, ?_⟩
  · exact (find?_definitions unlimited network visits bus).trans (getElem?_representatives hid)
  · intro _ hd _ hd' hne hbus
    obtain ⟨node, hn, generator, hg, rfl⟩ := mem_flatMap_definitionsAt.mp hd
    obtain ⟨other, ho, rival, hr, rfl⟩ := mem_flatMap_definitionsAt.mp hd'
    have hdiffer : generator ≠ rival := fun h => hne (congrArg Generator.id h)
    rw [definition_regulation, definition_regulation]
    exact ⟨built.shared_regulation (hsub hn) (hsub ho) hg hr hdiffer hbus,
      built.shared_regulation (hsub ho) (hsub hn) hr hg hdiffer.symm hbus.symm⟩
  · intro _ hd hunshared hmem
    obtain ⟨node, hn, generator, hg, rfl⟩ := mem_flatMap_definitionsAt.mp hd
    obtain ⟨rival, -, hregulation, hbus⟩ := (mem_foldl_represent network _ _).mp hmem
    have hbus : rival.regulatedBus = generator.regulatedBus := hbus
    rw [definition_regulation] at hunshared
    rw [network.regulation_eq_proportional_iff, hbus] at hregulation
    exact hunshared ((network.regulation_eq_proportional_iff generator).mpr hregulation)

end Generation

/-- After any visits to nodes of a built network each of their generators is defined, and
the generators that stand for buses go together with the definitions. -/
theorem representatives_exact {network : Network} (built : network.IsBuilt) (unlimited : Bool)
    {visits : List Node} (hsub : visits ⊆ network.nodes) :
    (traverse (Generation.visitor unlimited) network visits {}).fault = none ∧
      (traverse (Generation.visitor unlimited) network visits {}).state.definitions.map
        GeneratorDefinition.id = visits.flatMap (Node.equipmentIds .generator) ∧
      (traverse (Generation.visitor unlimited) network visits {}).state.RepresentsBuses := by
  refine ⟨?_, ?_, Generation.traverse_representsBuses built unlimited hsub⟩
  · exact (traverse_of_succeedsOn
      ((built.coherent.generation_succeedsOn unlimited).mono hsub) {}).1
  · rw [Generation.traverse_state built.coherent unlimited hsub,
      Generation.map_id_definitionsAt]

/-- Of the two generators that share the bus of the island, that of the mainland is met
first, then the other one, then the first again. -/
theorem representatives_exact_mainland :
    Mainland.network.IsBuilt ∧ Mainland.network.nodes.reverse ++ Mainland.network.nodes ⊆
      Mainland.network.nodes ∧
    (traverse (Generation.visitor false) Mainland.network
      (Mainland.network.nodes.reverse ++ Mainland.network.nodes) {}).state.RepresentsBuses ∧
    (traverse (Generation.visitor false) Mainland.network
      (Mainland.network.nodes.reverse ++ Mainland.network.nodes) {}).state.representatives.toList =
        [("I", "G4")] := by
  have built : Mainland.network.IsBuilt := ⟨_, _, _, Mainland.build_network⟩
  have hsub : Mainland.network.nodes.reverse ++ Mainland.network.nodes ⊆
      Mainland.network.nodes := by simp
  exact ⟨built, hsub, (representatives_exact built false hsub).2.2, by decide +kernel⟩

end GridSetup
