import GridSetup.Proofs.Inventory
import GridSetup.Proofs.Reach

/-! # How a component is discovered

The nodes that can be reached from a node are found one after the other, each of
them next to one that was found before. Which nodes these are depends on the
chains of lines and transformers alone, so that all nodes of a component reach
the same ones, in whatever order. -/

namespace GridSetup
namespace Network

variable {network : Network}

/-- The component of a node as it is discovered: the node first, then, once each,
the other nodes linked to it, always from one that is there already. -/
structure Discovers (network : Network) (start : Node) (component : List Node) : Prop where
  distinct : (component.map Node.id).Nodup
  first : component.head? = some start
  linked : ∀ node, node ∈ component ↔ node ∈ network.nodes ∧ network.Linked start.id node.id
  discovered : ∀ before node after, component = before ++ node :: after → before ≠ [] →
    ∃ earlier ∈ before, network.Adjacent earlier.id node.id

namespace Coherent

theorem reachableNodes_discovers (coherent : network.Coherent) {start : Node}
    (hstart : start ∈ network.nodes) :
    ∃ component, network.reachableNodes start.id = .ok component ∧
      network.Discovers start component := by
  obtain ⟨component, hok, hnodup, hhead, hpresent, hlinked⟩ := coherent.reachableNodes_exact hstart
  refine ⟨component, hok, hnodup, ?_, fun node => ⟨fun hn => ?_, fun hgiven => ?_⟩,
    fun before node after hsplit hbefore => ?_⟩
  · cases component with
    | nil => cases hhead
    | cons node rest =>
      have hid : node.id = start.id := by simpa using hhead
      exact congrArg some (coherent.ids_injective (hpresent node List.mem_cons_self) hstart hid)
  · exact ⟨hpresent node hn, (hlinked node.id).mp (List.mem_map_of_mem hn)⟩
  · obtain ⟨hn, hlink⟩ := hgiven
    exact (coherent.mem_ids_iff hpresent hn).mp ((hlinked node.id).mpr hlink)
  · have horder := coherent.depthFirst_of_reachableNodes hstart hok
    rw [hsplit, List.map_append, List.map_cons] at horder
    obtain ⟨id, hid, hfollows⟩ := depthFirst_discovered coherent.wellFormed.distinct_nodes.ids
      horder (by simpa using hbefore)
    obtain ⟨earlier, hearlier, rfl⟩ := List.mem_map.mp hid
    exact ⟨earlier, hearlier, (coherent.follows_neighborIds_iff _ _).mp hfollows⟩

end Coherent

theorem Discovers.nodup {start : Node} {component : List Node}
    (h : network.Discovers start component) : component.Nodup :=
  h.distinct.of_map Node.id

/-- Two nodes that are linked have the same component. -/
theorem Discovers.perm {a b : Node} {fromA fromB : List Node}
    (ha : network.Discovers a fromA) (hb : network.Discovers b fromB)
    (hlinked : network.Linked a.id b.id) : fromA.Perm fromB := by
  rw [List.perm_ext_iff_of_nodup ha.nodup hb.nodup]
  intro node
  rw [ha.linked, hb.linked]
  exact and_congr_right fun _ => ⟨hlinked.symm.trans, hlinked.trans⟩

end Network

/-- What can be reached from a node of a built network is its component, node by
node as it is discovered. So a node is reached from another exactly if the other
is reached from it, and then both reach the same nodes. From an id that no node
has nothing is reached. -/
theorem discovery_exact {network : Network} (built : network.IsBuilt) :
    (∀ start ∈ network.nodes, ∃ component, network.reachableNodes start.id = .ok component ∧
      network.Discovers start component) ∧
    (∀ a ∈ network.nodes, ∀ b ∈ network.nodes, ∀ fromA fromB,
      network.reachableNodes a.id = .ok fromA → network.reachableNodes b.id = .ok fromB →
        (b ∈ fromA ↔ a ∈ fromB) ∧ (b ∈ fromA → fromA.Perm fromB)) ∧
    ∀ id, id ∉ network.nodes.map Node.id →
      network.reachableNodes id = .error (.unknownNode id) ∧
      (Fault.unknownNode id).kind = .nodeNotFound := by
  have coherent := built.coherent
  refine ⟨fun start => coherent.reachableNodes_discovers, ?_, fun id hid => ⟨?_, rfl⟩⟩
  · intro a ha b hb fromA fromB hokA hokB
    obtain ⟨_, hfoundA, hA⟩ := coherent.reachableNodes_discovers ha
    obtain ⟨_, hfoundB, hB⟩ := coherent.reachableNodes_discovers hb
    rw [hokA] at hfoundA
    rw [hokB] at hfoundB
    cases hfoundA
    cases hfoundB
    rw [hA.linked, hB.linked]
    refine ⟨?_, fun hgiven => hA.perm hB hgiven.2⟩
    simp only [ha, hb, true_and]
    exact ⟨Network.Linked.symm, Network.Linked.symm⟩
  · rw [Network.reachableNodes, Network.node_eq_error hid]
    rfl

/-- The mainland holds cycles and is discovered from either end, each time without
the island, where only a closed switch and an HVDC line lead. -/
theorem discovery_exact_mainland :
    Mainland.network.IsBuilt ∧
    (∃ north ∈ Mainland.network.nodes, ∃ east ∈ Mainland.network.nodes, ∃ fromNorth fromEast,
      north.id = "N" ∧ east.id = "E" ∧
      Mainland.network.reachableNodes "N" = .ok fromNorth ∧
      Mainland.network.Discovers north fromNorth ∧
      Mainland.network.reachableNodes "E" = .ok fromEast ∧ fromNorth.Perm fromEast) ∧
    (Mainland.network.reachableNodes "N").map (List.map Node.id) = .ok ["N", "S", "E"] ∧
    (Mainland.network.reachableNodes "E").map (List.map Node.id) = .ok ["E", "N", "S"] ∧
    Mainland.network.reachableNodes "W" = .error (.unknownNode "W") := by
  have built : Mainland.network.IsBuilt := ⟨_, _, _, Mainland.build_network⟩
  obtain ⟨hdiscovers, hmutual, hunknown⟩ := discovery_exact built
  have hnorth : "N" ∈ Mainland.network.nodes.map Node.id := by decide +kernel
  have heast : "E" ∈ Mainland.network.nodes.map Node.id := by decide +kernel
  have hids : (Mainland.network.reachableNodes "N").map (List.map Node.id) =
      .ok ["N", "S", "E"] := by decide +kernel
  obtain ⟨north, hn, hnid⟩ := List.mem_map.mp hnorth
  obtain ⟨east, he, heid⟩ := List.mem_map.mp heast
  obtain ⟨fromNorth, hokN, hN⟩ := hdiscovers north hn
  obtain ⟨fromEast, hokE, -⟩ := hdiscovers east he
  have hreached : east ∈ fromNorth := by
    refine (built.coherent.mem_ids_iff (fun node hnode => ((hN.linked node).mp hnode).1) he).mp ?_
    have hfound := hids
    rw [hnid] at hokN
    rw [hokN] at hfound
    rw [heid, Except.ok.inj hfound]
    decide
  have hperm := (hmutual north hn east he _ _ hokN hokE).2 hreached
  rw [hnid] at hokN
  rw [heid] at hokE
  exact ⟨built, ⟨north, hn, east, he, fromNorth, fromEast, hnid, heid, hokN, hN, hokE, hperm⟩,
    hids, by decide +kernel, (hunknown "W" (by decide +kernel)).1⟩

end GridSetup
