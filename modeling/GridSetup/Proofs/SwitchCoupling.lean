import GridSetup.Proofs.Generation
import GridSetup.Proofs.SwitchSearch

/-! # Generators coupled by switches

Each visited node searches for another one with generators on its own. Chains of closed
switches lead both ways, so whatever nodes are visited, the searches from all nodes of a
component agree: they find another source exactly if the component has two of them. -/

namespace GridSetup

namespace Network

variable {network : Network}

theorem SwitchedTogether.symm {a b : String} (h : network.SwitchedTogether a b) :
    network.SwitchedTogether b a := by
  obtain ⟨switch, hs, hclosed, ha, hb, hne⟩ := h
  exact ⟨switch, hs, hclosed, hb, ha, hne.symm⟩

theorem SwitchLinked.symm {a b : String} (h : network.SwitchLinked a b) :
    network.SwitchLinked b a := by
  induction h with
  | refl => exact .refl
  | tail _ step ih => exact .head step.symm ih

/-- The nodes with generators in the closed-switch component of a node. -/
def switchedSources (network : Network) (id : String) : Set Node :=
  {node | node ∈ network.nodes ∧ node.generators ≠ [] ∧ network.SwitchLinked id node.id}

theorem SwitchLinked.switchedSources_eq {a b : String} (h : network.SwitchLinked a b) :
    network.switchedSources a = network.switchedSources b := by
  ext node
  have hsame : network.SwitchLinked a node.id ↔ network.SwitchLinked b node.id :=
    ⟨h.symm.trans, h.trans⟩
  exact and_congr_right fun _ => and_congr_right fun _ => hsame

/-- A source is coupled exactly if its component has two sources: itself and another. -/
theorem Coherent.coupled_iff_nontrivial (coherent : network.Coherent) {node : Node}
    (hn : node ∈ network.nodes) (hsource : node.generators ≠ []) :
    network.Coupled node ↔ (network.switchedSources node.id).Nontrivial := by
  have hown : node ∈ network.switchedSources node.id := ⟨hn, hsource, .refl⟩
  constructor
  · intro h
    obtain ⟨other, ho, hne, hgenerators, hlink⟩ := h
    exact ⟨other, ⟨ho, hgenerators, hlink⟩, node, hown, fun heq => hne (congrArg Node.id heq)⟩
  · intro h
    obtain ⟨other, hother, hne⟩ := h.exists_ne node
    obtain ⟨ho, hgenerators, hlink⟩ := hother
    exact ⟨other, ho, fun hid => hne (coherent.ids_injective ho hn hid), hgenerators, hlink⟩

end Network

namespace Generation

/-- The definitions tell of the visited nodes which of them are coupled: those whose
closed-switch component has several sources, visited or not. -/
structure TellsCoupling (network : Network) (visits : List Node) (generation : Generation) :
    Prop where
  /-- Each generator of each visited node is defined, in the order of the visits. -/
  placed : (generation.definitions.map fun definition => (definition.nodeId, definition.id)) =
    visits.flatMap fun node => node.generators.map fun generator => (node.id, generator.id)
  coupled_iff : ∀ definition ∈ generation.definitions,
    definition.coupled = true ↔ (network.switchedSources definition.nodeId).Nontrivial
  uniform : ∀ definition ∈ generation.definitions, ∀ other ∈ generation.definitions,
    network.SwitchLinked definition.nodeId other.nodeId → definition.coupled = other.coupled
  /-- Generators on one node alone are not coupled, however many they are. -/
  single : ∀ definition ∈ generation.definitions,
    (∀ source ∈ network.switchedSources definition.nodeId, source.id = definition.nodeId) →
      definition.coupled = false

theorem traverse_tellsCoupling {network : Network} (coherent : network.Coherent)
    (unlimited : Bool) {visits : List Node} (hsub : visits ⊆ network.nodes) :
    TellsCoupling network visits (traverse (visitor unlimited) network visits {}).state := by
  rw [traverse_state coherent unlimited hsub]
  have coupled_iff : ∀ definition ∈ visits.flatMap (definitionsAt unlimited network),
      definition.coupled = true ↔ (network.switchedSources definition.nodeId).Nontrivial := by
    intro _ hd
    obtain ⟨node, hn, generator, hg, rfl⟩ := mem_flatMap_definitionsAt.mp hd
    exact (coherent.findsSource_iff (hsub hn)).trans
      (coherent.coupled_iff_nontrivial (hsub hn) (List.ne_nil_of_mem hg))
  refine ⟨?_, coupled_iff, ?_, ?_⟩
  · rw [List.map_flatMap]
    refine List.flatMap_congr fun node _ => ?_
    rw [definitionsAt, List.map_map]
    rfl
  · intro definition hd other ho hlink
    rw [Bool.eq_iff_iff, coupled_iff definition hd, coupled_iff other ho, hlink.switchedSources_eq]
  · intro definition hd hsingle
    rw [← Bool.not_eq_true, coupled_iff definition hd, Set.not_nontrivial_iff]
    intro a ha b hb
    exact coherent.ids_injective ha.1 hb.1 ((hsingle a ha).trans (hsingle b hb).symm)

end Generation

/-- After any visits to nodes of a built network, the generators on the nodes of one
closed-switch component are all coupled or all not, and they are exactly if two nodes of
the component bear generators. -/
theorem coupling_exact {network : Network} (built : network.IsBuilt) (unlimited : Bool)
    {visits : List Node} (hsub : visits ⊆ network.nodes) :
    (traverse (Generation.visitor unlimited) network visits {}).fault = none ∧
      (traverse (Generation.visitor unlimited) network visits {}).state.TellsCoupling
        network visits :=
  ⟨(traverse_of_succeedsOn ((built.coherent.generation_succeedsOn unlimited).mono hsub) {}).1,
    Generation.traverse_tellsCoupling built.coherent unlimited hsub⟩

/-- The generator of the island is coupled with one on the mainland, which is not visited.
A line does not couple the node that is. -/
theorem coupling_exact_mainland :
    Mainland.network.IsBuilt ∧ Mainland.network.nodes.take 2 ⊆ Mainland.network.nodes ∧
    (traverse (Generation.visitor false) Mainland.network
      (Mainland.network.nodes.take 2) {}).state.TellsCoupling Mainland.network
        (Mainland.network.nodes.take 2) ∧
    ((traverse (Generation.visitor false) Mainland.network
      (Mainland.network.nodes.take 2) {}).state.definitions.map fun definition =>
        (definition.id, definition.nodeId, definition.coupled)) =
      [("G3", "I", true), ("G1", "N", false)] := by
  have built : Mainland.network.IsBuilt := ⟨_, _, _, Mainland.build_network⟩
  have hsub : Mainland.network.nodes.take 2 ⊆ Mainland.network.nodes := List.take_subset _ _
  exact ⟨built, hsub, (coupling_exact built false hsub).2, by decide +kernel⟩

end GridSetup
