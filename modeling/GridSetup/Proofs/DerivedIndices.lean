import GridSetup.Proofs.Generation
import GridSetup.Proofs.Rebuilding

/-! # What a network derives from its nodes

The nodes of a built network are the given ones, registrations apart. From them the
voltage levels are gathered while the nodes are added, and the regulators are counted
after everything else. All three agree in the end: each node is in the one voltage level
it names, and each generator is counted on the one bus it regulates, which is a node. -/

namespace GridSetup

open Std (ExtTreeMap)

/-- Sorting elements by a key that is among the given ones takes each of them once. -/
theorem flatMap_fibers_perm {α : Type} (key : α → String) {keys : List String}
    (distinct : keys.Nodup) {l : List α} (covered : ∀ x ∈ l, key x ∈ keys) :
    (keys.flatMap fun k => l.filter fun x => key x = k).Perm l := by
  induction keys generalizing l with
  | nil =>
    have hnone : l = [] := List.eq_nil_iff_forall_not_mem.mpr fun x hx =>
      List.not_mem_nil (covered x hx)
    rw [hnone]
    exact .nil
  | cons k rest ih =>
    obtain ⟨hk, hrest⟩ := List.nodup_cons.mp distinct
    let others := l.filter fun x => !decide (key x = k)
    have hcovered : ∀ x ∈ others, key x ∈ rest := by
      intro x hx
      have hmem := List.mem_filter.mp hx
      exact (List.mem_cons.mp (covered x hmem.1)).resolve_left (by simpa using hmem.2)
    -- the elements with another key are not lost by leaving out those with this one
    have hothers : (rest.flatMap fun j => l.filter fun x => key x = j) =
        rest.flatMap fun j => others.filter fun x => key x = j := by
      refine List.flatMap_congr fun j hj => ?_
      have hne : j ≠ k := fun heq => hk (heq ▸ hj)
      rw [List.filter_filter]
      refine List.filter_congr fun x _ => ?_
      by_cases hx : key x = j
      · simp [hx, hne]
      · simp [hx]
    rw [List.flatMap_cons, hothers]
    exact ((ih hrest hcovered).append_left _).trans (List.filter_append_perm _ l)

/-- The node of a network is the given one, whatever is registered on either. -/
structure Node.TakenOver (given node : Node) : Prop where
  id : node.id = given.id
  voltageLevel : node.voltageLevel = given.voltageLevel
  nominalVoltage : node.nominalVoltage = given.nominalVoltage
  shunts : node.shunts = given.shunts
  loads : node.loads = given.loads
  generators : node.generators = given.generators

theorem Node.TakenOver.of_unregistered {given node : Node}
    (h : given.unregistered = node.unregistered) : given.TakenOver node := by
  obtain ⟨hid, hlevel, hvoltage, hshunts, hloads, hgenerators, -⟩ := Node.mk.inj h
  exact ⟨hid.symm, hlevel.symm, hvoltage.symm, hshunts.symm, hloads.symm, hgenerators.symm⟩

/-- Nodes that differ in their registrations only were taken over one by one. -/
theorem takenOver_of_unregistered {nodes given : List Node}
    (h : given.map Node.unregistered = nodes.map Node.unregistered) :
    List.Forall₂ Node.TakenOver given nodes := by
  have hboth : List.Forall₂ (fun x y => x.unregistered = y.unregistered) given nodes := by
    rw [← List.forall₂_map_right_iff (f := Node.unregistered), ← List.forall₂_map_left_iff, h,
      List.forall₂_same]
    exact fun _ _ => rfl
  exact hboth.imp fun _ _ => Node.TakenOver.of_unregistered

/-- The ids of the nodes that name a voltage level. -/
def idsNaming (nodes : List Node) (level : String) : List String :=
  (nodes.filter fun node => node.voltageLevel = level).map Node.id

theorem idsNaming_cons (node : Node) (rest : List Node) (level : String) :
    idsNaming (node :: rest) level =
      if node.voltageLevel = level then node.id :: idsNaming rest level
      else idsNaming rest level := by
  rw [idsNaming, List.filter_cons]
  split <;> simp_all [idsNaming]

/-- Where ids are distinct, an id tells which level its node names. -/
theorem mem_idsNaming_iff {nodes : List Node} (distinct : (nodes.map Node.id).Nodup) {node : Node}
    (hn : node ∈ nodes) (level : String) :
    node.id ∈ idsNaming nodes level ↔ node.voltageLevel = level := by
  refine ⟨fun h => ?_, fun h => ?_⟩
  · obtain ⟨other, ho, hid⟩ := List.mem_map.mp h
    obtain ⟨hother, hlevel⟩ := List.mem_filter.mp ho
    rw [← List.inj_on_of_nodup_map distinct hother hn hid]
    exact of_decide_eq_true hlevel
  · exact List.mem_map_of_mem (List.mem_filter.mpr ⟨hn, decide_eq_true h⟩)

theorem idsNaming_eq_nil {nodes : List Node} {level : String}
    (h : level ∉ nodes.map Node.voltageLevel) : idsNaming nodes level = [] := by
  rw [idsNaming, List.map_eq_nil_iff, List.filter_eq_nil_iff]
  intro node hn hlevel
  exact h (List.mem_map.mpr ⟨node, hn, of_decide_eq_true hlevel⟩)

namespace Network

/-- What a network derives from its nodes agrees with the nodes it was built from. -/
structure AgreesWith (network : Network) (nodes : List Node) : Prop where
  /-- The nodes are the given ones, in the given order. -/
  taken_over : List.Forall₂ Node.TakenOver nodes network.nodes
  node_iff : ∀ id node, network.node id = .ok node ↔ node ∈ network.nodes ∧ node.id = id
  unknown_node : ∀ id, id ∉ nodes.map Node.id → network.node id = .error (.unknownNode id)
  /-- A voltage level is there if a node names it, and lists the nodes that do. -/
  level : ∀ id, id ∈ nodes.map Node.voltageLevel →
    network.voltageLevel id = .ok { id, nodes := idsNaming nodes id }
  unknown_level : ∀ id, id ∉ nodes.map Node.voltageLevel →
    network.voltageLevel id = .error (.unknownElement .voltageLevel id)
  levels_iff : ∀ level, level ∈ network.voltageLevels ↔ network.voltageLevel level.id = .ok level
  levels_ordered : network.voltageLevels.Pairwise fun level other => level.id < other.id
  /-- The voltage levels together list each node once. -/
  levels_partition : (network.voltageLevels.flatMap VoltageLevel.nodes).Perm (nodes.map Node.id)
  one_level : ∀ node ∈ nodes, ∀ level ∈ network.voltageLevels,
    node.id ∈ level.nodes ↔ node.voltageLevel = level.id
  regulators : ∀ bus, network.regulatorCount bus =
    (nodes.flatMap Node.generators).countP fun generator => generator.regulatedBus = bus
  /-- The nodes together are regulated by as many generators as there are. -/
  regulators_total : (network.nodes.map fun node => network.regulatorCount node.id).sum =
    (nodes.flatMap Node.generators).length

/-! ## Voltage levels -/

theorem addNode_levels (network : Network) (node : Node) (id : String) :
    (network.addNode node).levels[id]? =
      if node.voltageLevel = id then some (network.levels[id]?.getD [] ++ [node.id])
      else network.levels[id]? := by
  rw [addNode, ExtTreeMap.getElem?_alter]
  simp only [Std.LawfulEqCmp.compare_eq_iff_eq]
  split
  · rename_i hlevel
    rw [hlevel]
  · rfl

theorem foldl_addNode_levels (nodes : List Node) (network : Network) (id : String) :
    (nodes.foldl addNode network).levels[id]? =
      if id ∈ nodes.map Node.voltageLevel then
        some (network.levels[id]?.getD [] ++ idsNaming nodes id)
      else network.levels[id]? := by
  induction nodes generalizing network with
  | nil => rfl
  | cons node rest ih =>
    rw [List.foldl_cons, ih, addNode_levels]
    by_cases hnode : node.voltageLevel = id
    · by_cases hrest : id ∈ rest.map Node.voltageLevel
      · simp [hnode, hrest, idsNaming_cons]
      · simp [hnode, hrest, idsNaming_cons, idsNaming_eq_nil hrest]
    · simp [hnode, Ne.symm hnode, idsNaming_cons]

section Assemble

variable (nodes : List Node) (branches : List Branch) (hvdcLines : List HvdcLine)

theorem assemble_levels (id : String) :
    (assemble nodes branches hvdcLines).levels[id]? =
      if id ∈ nodes.map Node.voltageLevel then some (idsNaming nodes id) else none := by
  unfold assemble
  dsimp only
  rw [foldl_countRegulator, foldl_addHvdcLine, foldl_addBranch]
  exact foldl_addNode_levels nodes {} id

end Assemble

theorem voltageLevel_eq_ok_iff {network : Network} {id : String} {level : VoltageLevel} :
    network.voltageLevel id = .ok level ↔
      network.levels[id]? = some level.nodes ∧ level.id = id := by
  rw [voltageLevel, Fault.orFound_eq_ok_iff, Option.map_eq_some_iff]
  refine ⟨fun h => ?_, fun h => ?_⟩
  · obtain ⟨ids, hids, rfl⟩ := h
    exact ⟨hids, rfl⟩
  · obtain ⟨hids, rfl⟩ := h
    exact ⟨level.nodes, hids, rfl⟩

theorem mem_voltageLevels {network : Network} {level : VoltageLevel} :
    level ∈ network.voltageLevels ↔ network.levels[level.id]? = some level.nodes := by
  rw [voltageLevels, List.mem_map]
  refine ⟨fun h => ?_, fun h => ?_⟩
  · obtain ⟨entry, hentry, rfl⟩ := h
    exact ExtTreeMap.mem_toList_iff_getElem?_eq_some.mp hentry
  · exact ⟨(level.id, level.nodes), ExtTreeMap.mem_toList_iff_getElem?_eq_some.mpr h, rfl⟩

theorem voltageLevels_ordered (network : Network) :
    network.voltageLevels.Pairwise fun level other => level.id < other.id := by
  rw [voltageLevels, List.pairwise_map]
  exact toList_ordered network.levels

theorem voltageLevels_ids_nodup (network : Network) :
    (network.voltageLevels.map VoltageLevel.id).Nodup := by
  rw [List.Nodup, List.pairwise_map]
  refine network.voltageLevels_ordered.imp fun hlt heq => ?_
  rw [heq] at hlt
  exact String.lt_irrefl _ hlt

/-- The levels of the nodes are those that are there. -/
theorem assemble_level_iff {nodes : List Node} {branches : List Branch}
    {hvdcLines : List HvdcLine} {level : VoltageLevel} :
    level ∈ (assemble nodes branches hvdcLines).voltageLevels ↔
      level.id ∈ nodes.map Node.voltageLevel ∧ idsNaming nodes level.id = level.nodes := by
  rw [mem_voltageLevels, assemble_levels]
  split <;> simp_all

/-- The levels sort the nodes by the level they name. -/
theorem assemble_levels_perm (nodes : List Node) (branches : List Branch)
    (hvdcLines : List HvdcLine) :
    ((assemble nodes branches hvdcLines).voltageLevels.flatMap VoltageLevel.nodes).Perm
      (nodes.map Node.id) := by
  let levels := (assemble nodes branches hvdcLines).voltageLevels
  have hnodes : levels.flatMap VoltageLevel.nodes =
      ((levels.map VoltageLevel.id).flatMap fun id =>
        nodes.filter fun node => node.voltageLevel = id).map Node.id := by
    rw [List.map_flatMap, List.flatMap_map]
    exact List.flatMap_congr fun level hl => (assemble_level_iff.mp hl).2.symm
  have hcovered : ∀ node ∈ nodes, node.voltageLevel ∈ levels.map VoltageLevel.id := by
    intro node hn
    exact List.mem_map.mpr ⟨{ id := node.voltageLevel, nodes := idsNaming nodes node.voltageLevel },
      assemble_level_iff.mpr ⟨List.mem_map_of_mem hn, rfl⟩, rfl⟩
  rw [hnodes]
  exact (flatMap_fibers_perm Node.voltageLevel (voltageLevels_ids_nodup _) hcovered).map Node.id

/-! ## Regulators -/

/-- Every generator is counted on one node, as the bus it regulates is one. -/
theorem assemble_regulators_total {nodes : List Node} {branches : List Branch}
    {hvdcLines : List HvdcLine} (good : WellFormed nodes branches hvdcLines) :
    ((nodes.map Node.id).map (assemble nodes branches hvdcLines).regulatorCount).sum =
      (nodes.flatMap Node.generators).length := by
  have hcovered : ∀ generator ∈ nodes.flatMap Node.generators,
      generator.regulatedBus ∈ nodes.map Node.id := by
    intro generator hg
    obtain ⟨node, hn, hmem⟩ := List.mem_flatMap.mp hg
    exact good.regulated_present node hn generator hmem
  have hfibers := flatMap_fibers_perm Generator.regulatedBus good.distinct_nodes.ids hcovered
  rw [← hfibers.length_eq, List.length_flatMap]
  refine congrArg List.sum (List.map_congr_left fun id _ => ?_)
  exact assemble_regulatorCount nodes branches hvdcLines id

end Network

open Network in
/-- In a built network all that is derived from the nodes agrees with them: the nodes are
found by their ids as they were given, the voltage levels sort them by the level they
name and come in the order of their ids, and the regulators of a bus are the generators
that name it, wherever these are. Every regulated bus is a node, so the counts of the
nodes add up to the number of generators. -/
theorem derivedIndices_exact {nodes : List Node} {branches : List Branch}
    {hvdcLines : List HvdcLine} {network : Network}
    (h : Network.build nodes branches hvdcLines = .ok network) :
    network.AgreesWith nodes := by
  have halike := build_nodes_unregistered h
  obtain ⟨good, rfl⟩ := build_eq_ok_iff.mp h
  have coherent := assemble_coherent good
  have hids : (assemble nodes branches hvdcLines).nodes.map Node.id = nodes.map Node.id :=
    assemble_ids
  refine {
    taken_over := takenOver_of_unregistered halike.symm
    node_iff := coherent.node_eq_ok_iff
    unknown_node := fun id hid => node_eq_error (hids ▸ hid)
    level := fun id hid => ?_
    unknown_level := fun id hid => ?_
    levels_iff := fun level => ?_
    levels_ordered := voltageLevels_ordered _
    levels_partition := assemble_levels_perm nodes branches hvdcLines
    one_level := fun node hn level hl => ?_
    regulators := fun bus => ?_
    regulators_total := ?_ }
  · rw [voltageLevel, assemble_levels, if_pos hid]
    rfl
  · rw [voltageLevel, assemble_levels, if_neg hid]
    rfl
  · rw [mem_voltageLevels, voltageLevel_eq_ok_iff, and_iff_left rfl]
  · rw [← (assemble_level_iff.mp hl).2, mem_idsNaming_iff good.distinct_nodes.ids hn]
  · rw [assemble_regulatorCount, List.countP_eq_length_filter]
  · have htotal := assemble_regulators_total good
    rw [← hids, List.map_map] at htotal
    exact htotal

/-- The nodes of the mainland and the island are sorted into two levels, which the
island shares with a node of the mainland, and two generators regulate the island from
different components. -/
theorem derivedIndices_exact_mainland :
    Network.build Mainland.nodes Mainland.branches Mainland.hvdcLines = .ok Mainland.network ∧
    Mainland.network.AgreesWith Mainland.nodes ∧
    Mainland.network.voltageLevels =
      [{ id := "V1", nodes := ["N", "S"] }, { id := "V2", nodes := ["I", "E"] }] ∧
    Mainland.network.nodes.map (fun node => (node.id, Mainland.network.regulatorCount node.id)) =
      [("I", 2), ("N", 0), ("S", 1), ("E", 1)] :=
  ⟨Mainland.build_network, derivedIndices_exact Mainland.build_network, by decide +kernel,
    by decide +kernel⟩

end GridSetup
