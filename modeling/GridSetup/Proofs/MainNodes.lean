import GridSetup.Proofs.Separation

/-! # The nodes of the main component

What is gathered for a resolution is gathered from the nodes of the main
component. These are nodes of the network, each comes once, and they are told
from the others by the ids in the main component. A component that is larger
than every other is the main one, whatever comes first. -/

namespace GridSetup

open Std (ExtTreeSet)

/-- What some elements of a list name is named once if all of the list's names
are. -/
theorem nodup_flatMap_of_subset {α β : Type} {f : α → List β} {some all : List α}
    (hsome : some.Nodup) (hsub : some ⊆ all) (hall : (all.flatMap f).Nodup) :
    (some.flatMap f).Nodup := by
  obtain ⟨reordered, hperm, hinside⟩ := List.subperm_of_subset hsome hsub
  exact (hperm.flatMap_right f).nodup_iff.mp (hall.sublist (hinside.flatMap f))

/-- A name that two elements share makes them the same one, if all names are
distinct. -/
theorem eq_of_mem_flatMap {α β : Type} {f : α → List β} {all : List α}
    (hall : (all.flatMap f).Nodup) {a b : α} (ha : a ∈ all) (hb : b ∈ all) {name : β}
    (hna : name ∈ f a) (hnb : name ∈ f b) : a = b := by
  by_contra hne
  have hsymm : Std.Symm (Function.onFun List.Disjoint f) := ⟨fun _ _ h => h.symm⟩
  exact (List.nodup_flatMap.mp hall).2.forall ha hb hne hna hnb

/-- Some elements of a list name what one of its elements names exactly if that
one is among them. -/
theorem mem_flatMap_iff_mem {α β : Type} {f : α → List β} {some all : List α}
    (hsub : some ⊆ all) (hall : (all.flatMap f).Nodup) {a : α} (ha : a ∈ all) {name : β}
    (hname : name ∈ f a) : name ∈ some.flatMap f ↔ a ∈ some := by
  rw [List.mem_flatMap]
  refine ⟨fun h => ?_, fun h => ⟨a, h, hname⟩⟩
  obtain ⟨b, hb, hnb⟩ := h
  exact eq_of_mem_flatMap hall (hsub hb) ha hnb hname ▸ hb

namespace Network.Coherent

variable {network : Network}

theorem mainNodes_ids_nodup (coherent : network.Coherent) :
    (network.mainNodes.map Node.id).Nodup := by
  rcases coherent.mainNodes_isMain with ⟨-, hnone⟩ | ⟨node, hnode, hok⟩
  · rw [hnone]
    exact List.nodup_nil
  · obtain ⟨component, hcomponent, hnodup, -⟩ := coherent.reachableNodes_exact hnode.mem
    rw [hcomponent] at hok
    cases hok
    exact hnodup

theorem mainNodes_nodup (coherent : network.Coherent) : network.mainNodes.Nodup :=
  coherent.mainNodes_ids_nodup.of_map Node.id

/-- The nodes of the main component are those linked to the first node whose
component is largest. -/
theorem mem_mainNodes_iff (coherent : network.Coherent) {largest : Node}
    (hlargest : network.IsFirstLargest network.nodes largest) (node : Node) :
    node ∈ network.mainNodes ↔ node ∈ network.nodes ∧ network.Linked largest.id node.id := by
  rcases coherent.mainNodes_isMain with ⟨hempty, -⟩ | ⟨start, hstart, hok⟩
  · have := hlargest.mem
    rw [hempty] at this
    cases this
  · obtain rfl := hstart.unique hlargest
    obtain ⟨component, hcomponent, -, -, hpresent, hlinked⟩ :=
      coherent.reachableNodes_exact hstart.mem
    rw [hcomponent] at hok
    cases hok
    refine ⟨fun h => ⟨hpresent node h, (hlinked node.id).mp (List.mem_map_of_mem h)⟩, ?_⟩
    intro hgiven
    obtain ⟨hn, hlink⟩ := hgiven
    exact (coherent.mem_ids_iff hpresent hn).mp ((hlinked node.id).mpr hlink)

theorem mainNodes_eq_nil_iff (coherent : network.Coherent) :
    network.mainNodes = [] ↔ network.nodes = [] := by
  rcases coherent.mainNodes_isMain with ⟨hempty, hnone⟩ | ⟨largest, hlargest, -⟩
  · simp only [hempty, hnone]
  · have hmain := (coherent.mem_mainNodes_iff hlargest largest).mpr ⟨hlargest.mem, .refl⟩
    simp only [List.ne_nil_of_mem hmain, List.ne_nil_of_mem hlargest.mem]

/-- No line and no transformer leaves the main component. -/
theorem ends_subset_mainNodes (coherent : network.Coherent) {branch : Branch}
    (hb : branch ∈ network.branches) (hkind : branch.kind ≠ .switch) {node : Node}
    (hn : node ∈ network.mainNodes) (hend : node.id ∈ branch.ends) :
    branch.ends ⊆ network.mainNodes.map Node.id := by
  intro id hid
  rcases coherent.mainNodes_isMain with ⟨-, hnone⟩ | ⟨largest, hlargest, -⟩
  · rw [hnone] at hn
    cases hn
  by_cases hsame : node.id = id
  · exact hsame ▸ List.mem_map_of_mem hn
  · have hadjacent : network.Adjacent node.id id := ⟨branch, hb, hkind, hend, hid, hsame⟩
    obtain ⟨other, ho, rfl⟩ := List.mem_map.mp (coherent.adjacent_present hadjacent)
    have hlinked := ((coherent.mem_mainNodes_iff hlargest node).mp hn).2
    exact List.mem_map_of_mem
      ((coherent.mem_mainNodes_iff hlargest other).mpr ⟨ho, hlinked.tail hadjacent⟩)

theorem mem_mainNodes_ids_iff (coherent : network.Coherent) {node : Node}
    (hn : node ∈ network.nodes) :
    node.id ∈ network.mainNodes.map Node.id ↔ node ∈ network.mainNodes :=
  coherent.mem_ids_iff coherent.mainNodes_subset hn

/-- The equipment of the main component is named once. -/
theorem mainNodes_equipment_nodup (coherent : network.Coherent) (kind : EquipmentKind) :
    (network.mainNodes.flatMap (Node.equipmentIds kind)).Nodup :=
  nodup_flatMap_of_subset coherent.mainNodes_nodup coherent.mainNodes_subset
    (coherent.wellFormed.distinct_nodes.equipment kind)

/-- Equipment is on selected nodes of the main component if its own node is one of them. -/
theorem mem_selected_equipment_iff (coherent : network.Coherent) (selected : Node → Bool)
    {kind : EquipmentKind} {node : Node} (hn : node ∈ network.nodes) {id : String}
    (hid : id ∈ node.equipmentIds kind) :
    id ∈ (network.mainNodes.filter selected).flatMap (Node.equipmentIds kind) ↔
      node.id ∈ network.mainNodes.map Node.id ∧ selected node = true := by
  have hsub : network.mainNodes.filter selected ⊆ network.nodes :=
    fun _ h => coherent.mainNodes_subset (List.mem_of_mem_filter h)
  rw [coherent.mem_mainNodes_ids_iff hn, ← List.mem_filter]
  exact mem_flatMap_iff_mem hsub (coherent.wellFormed.distinct_nodes.equipment kind) hn hid

end Network.Coherent

/-! ## A component larger than every other -/

/-- The component of the node with this id is larger than every other one. -/
def Network.Dominates (network : Network) (id : String) : Prop :=
  id ∈ network.nodes.map Node.id ∧ ∀ other ∈ network.nodes.map Node.id,
    ¬ network.Linked id other → network.componentSize other < network.componentSize id

namespace Network.Coherent

variable {network : Network}

/-- The main component is the one that is larger than every other, if there is
one. -/
theorem mem_mainNodes_of_dominates (coherent : network.Coherent) {id : String}
    (h : network.Dominates id) (node : Node) :
    node ∈ network.mainNodes ↔ node ∈ network.nodes ∧ network.Linked id node.id := by
  obtain ⟨hid, hlarger⟩ := h
  obtain ⟨start, hstart, rfl⟩ := List.mem_map.mp hid
  obtain ⟨hempty, -⟩ | ⟨largest, hlargest, -⟩ := coherent.mainNodes_isMain
  · rw [hempty] at hstart
    cases hstart
  · have hlinked : network.Linked start.id largest.id := by
      by_contra hne
      have hlt := hlarger largest.id (List.mem_map_of_mem hlargest.mem) hne
      exact absurd hlt (Nat.not_lt.mpr (hlargest.componentSize_le start hstart))
    rw [coherent.mem_mainNodes_iff hlargest]
    exact and_congr_right fun _ => ⟨hlinked.trans, hlinked.symm.trans⟩

theorem linked_present (coherent : network.Coherent) {start b : String}
    (hstart : start ∈ network.nodes.map Node.id) (h : network.Linked start b) :
    b ∈ network.nodes.map Node.id := by
  induction h with
  | refl => exact hstart
  | tail _ step _ => exact coherent.adjacent_present step

/-- A component of more than half of the nodes is larger than every other: there
is no room for two of that size. -/
theorem dominates_of_half (coherent : network.Coherent) {id : String}
    (hid : id ∈ network.nodes.map Node.id)
    (hhalf : network.nodes.length < 2 * network.componentSize id) : network.Dominates id := by
  refine ⟨hid, fun other ho hne => ?_⟩
  have hinside : ∀ start ∈ network.nodes.map Node.id,
      {b | network.Linked start b} ⊆ ↑(network.nodes.map Node.id).toFinset :=
    fun start hstart b hb => List.mem_toFinset.mpr (coherent.linked_present hstart hb)
  have hdisjoint : Disjoint {b | network.Linked id b} {b | network.Linked other b} :=
    Set.disjoint_left.mpr fun b hb hb' => hne (Relation.ReflTransGen.trans hb (Linked.symm hb'))
  have hfinite : ∀ start ∈ network.nodes.map Node.id, {b | network.Linked start b}.Finite :=
    fun start hstart => (Finset.finite_toSet _).subset (hinside start hstart)
  have hunion : network.componentSize id + network.componentSize other ≤ network.nodes.length := by
    rw [componentSize, componentSize,
      ← Set.ncard_union_eq hdisjoint (hfinite id hid) (hfinite other ho)]
    calc ({b | network.Linked id b} ∪ {b | network.Linked other b}).ncard
        ≤ (network.nodes.map Node.id).toFinset.card := by
          rw [← Set.ncard_coe_finset]
          exact Set.ncard_le_ncard (Set.union_subset (hinside id hid) (hinside other ho))
      _ = network.nodes.length := by
          rw [List.toFinset_card_of_nodup coherent.wellFormed.distinct_nodes.ids,
            List.length_map]
  omega

end Network.Coherent

/-! ## The ids in a resolution -/

theorem Resolution.mem_mainComponent_iff (network : Network) (config : AutomatonConfig)
    (locator : Locator) (options : Options) (id : String) :
    id ∈ (Resolution.separately network config locator options).mainComponent ↔
      id ∈ network.mainNodes.map Node.id := by
  rw [Resolution.separately, ExtTreeSet.mem_ofList, List.contains_iff_mem]

end GridSetup
