import GridSetup.Proofs.Generation

/-! # The same parts in another order

Parts that make up a network do so in any order. The networks built from them
have the same nodes but for what these list, the same branches and the same
HVDC lines, so the same nodes are linked and switched together in them and the
same generators regulate each bus. Which component is found to be the main one
may hang on the order, unless one component is larger than every other. -/

namespace GridSetup

/-! ## Well-formed in any order -/

section WellFormed

variable {nodes nodes' : List Node} {branches branches' : List Branch}
  {hvdcLines hvdcLines' : List HvdcLine}

theorem DistinctNodes.perm (h : DistinctNodes nodes) (hnodes : nodes.Perm nodes') :
    DistinctNodes nodes' where
  ids := (hnodes.map Node.id).nodup_iff.mp h.ids
  equipment kind := (hnodes.flatMap_right (Node.equipmentIds kind)).nodup_iff.mp (h.equipment kind)

theorem ProperEnds.perm {ends : List String} (h : ProperEnds nodes ends)
    (hnodes : nodes.Perm nodes') : ProperEnds nodes' ends where
  distinct := h.distinct
  present id hid := (hnodes.map Node.id).mem_iff.mp (h.present id hid)

theorem ProperBranches.perm (h : ProperBranches nodes branches) (hnodes : nodes.Perm nodes')
    (hbranches : branches.Perm branches') : ProperBranches nodes' branches' where
  ids kind := ((hbranches.filter _).map Branch.id).nodup_iff.mp (h.ids kind)
  ends branch hb := (h.ends branch (hbranches.mem_iff.mpr hb)).perm hnodes

theorem ProperConverters.perm {converters converters' : List Converter}
    (h : ProperConverters nodes converters) (hnodes : nodes.Perm nodes')
    (hconverters : converters.Perm converters') : ProperConverters nodes' converters' where
  distinct := (hconverters.map Converter.id).nodup_iff.mp h.distinct
  present converter hc :=
    (hnodes.map Node.id).mem_iff.mp (h.present converter (hconverters.mem_iff.mpr hc))

theorem ProperHvdcLines.perm (h : ProperHvdcLines nodes hvdcLines) (hnodes : nodes.Perm nodes')
    (hlines : hvdcLines.Perm hvdcLines') : ProperHvdcLines nodes' hvdcLines' where
  ids := (hlines.map HvdcLine.id).nodup_iff.mp h.ids
  converters := h.converters.perm hnodes (hlines.flatMap_right HvdcLine.converters)

theorem WellFormed.perm (h : WellFormed nodes branches hvdcLines) (hnodes : nodes.Perm nodes')
    (hbranches : branches.Perm branches') (hlines : hvdcLines.Perm hvdcLines') :
    WellFormed nodes' branches' hvdcLines' where
  distinct_nodes := h.distinct_nodes.perm hnodes
  proper_branches := h.proper_branches.perm hnodes hbranches
  proper_hvdcLines := h.proper_hvdcLines.perm hnodes hlines
  regulated_present node hn generator hg :=
    (hnodes.map Node.id).mem_iff.mp
      (h.regulated_present node (hnodes.mem_iff.mpr hn) generator hg)

end WellFormed

/-! ## Nodes but for what they list -/

/-- A node has the id, the voltage level, the shunts and the generators of
another. -/
structure Node.Alike (node other : Node) : Prop where
  id : node.id = other.id
  voltageLevel : node.voltageLevel = other.voltageLevel
  shunts : node.shunts = other.shunts
  generators : node.generators = other.generators

/-- Nodes are those of another list in some order, but for the registrations,
which other networks may have written. -/
def Rearranged (nodes nodes' : List Node) : Prop :=
  (nodes.map Node.unregistered).Perm (nodes'.map Node.unregistered)

namespace Rearranged

variable {nodes nodes' : List Node}

theorem symm (h : Rearranged nodes nodes') : Rearranged nodes' nodes :=
  List.Perm.symm h

/-- What does not look at registrations is the same for both lists, in some
order. -/
theorem map {α : Type} (h : Rearranged nodes nodes') {f : Node → α}
    (hf : ∀ node, f node.unregistered = f node) : (nodes.map f).Perm (nodes'.map f) := by
  have hunregistered : ∀ nodes : List Node, (nodes.map Node.unregistered).map f = nodes.map f := by
    intro nodes
    rw [List.map_map]
    exact List.map_congr_left fun node _ => hf node
  rw [← hunregistered nodes, ← hunregistered nodes']
  exact List.Perm.map f h

theorem flatMap {α : Type} (h : Rearranged nodes nodes') {f : Node → List α}
    (hf : ∀ node, f node.unregistered = f node) :
    (nodes.flatMap f).Perm (nodes'.flatMap f) := by
  rw [List.flatMap_def, List.flatMap_def]
  exact (h.map hf).flatten

theorem mem_ids (h : Rearranged nodes nodes') (id : String) :
    id ∈ nodes.map Node.id ↔ id ∈ nodes'.map Node.id :=
  (h.map fun _ => rfl).mem_iff

theorem exists_mem (h : Rearranged nodes nodes') {node : Node} (hn : node ∈ nodes) :
    ∃ node' ∈ nodes', node'.Alike node := by
  obtain ⟨node', hn', heq⟩ :=
    List.mem_map.mp ((List.Perm.mem_iff h).mp (List.mem_map_of_mem hn))
  obtain ⟨hid, hlevel, -, hshunts, -, hgenerators, -⟩ := Node.mk.inj heq
  exact ⟨node', hn', hid, hlevel, hshunts, hgenerators⟩

end Rearranged

namespace Network

/-- Two networks have the same parts, in whatever order they were given. -/
structure SameParts (one other : Network) : Prop where
  nodes : Rearranged one.nodes other.nodes
  branches : one.branches.Perm other.branches
  hvdcLines : one.hvdcLines.Perm other.hvdcLines

theorem assemble_sameParts {nodes nodes' : List Node} {branches branches' : List Branch}
    {hvdcLines hvdcLines' : List HvdcLine} (hnodes : nodes.Perm nodes')
    (hbranches : branches.Perm branches') (hlines : hvdcLines.Perm hvdcLines') :
    (assemble nodes branches hvdcLines).SameParts (assemble nodes' branches' hvdcLines') where
  nodes := by
    have hunregistered : ∀ (nodes : List Node) branches hvdcLines,
        (nodes.map (Node.registered branches hvdcLines)).map Node.unregistered =
          nodes.map Node.unregistered := by
      intro nodes branches hvdcLines
      rw [List.map_map]
      rfl
    rw [Rearranged, assemble_eq nodes, assemble_eq nodes', hunregistered, hunregistered]
    exact hnodes.map Node.unregistered
  branches := by
    rw [assemble_branches, assemble_branches]
    exact ((hbranches.filter _).append (hbranches.filter _)).append (hbranches.filter _)
  hvdcLines := by
    rw [assemble_eq nodes, assemble_eq nodes']
    exact hlines

/-- A network is built from parts exactly if one is built from the same parts in
another order. -/
theorem build_isOk_perm {nodes nodes' : List Node} {branches branches' : List Branch}
    {hvdcLines hvdcLines' : List HvdcLine} (hnodes : nodes.Perm nodes')
    (hbranches : branches.Perm branches') (hlines : hvdcLines.Perm hvdcLines') :
    (∃ network, build nodes branches hvdcLines = .ok network) ↔
      ∃ network, build nodes' branches' hvdcLines' = .ok network := by
  simp only [build_eq_ok_iff, exists_and_left]
  refine and_congr ⟨fun h => h.perm hnodes hbranches hlines,
    fun h => h.perm hnodes.symm hbranches.symm hlines.symm⟩ ?_
  exact iff_of_true ⟨_, rfl⟩ ⟨_, rfl⟩

namespace SameParts

variable {one other : Network}

theorem symm (same : one.SameParts other) : other.SameParts one where
  nodes := same.nodes.symm
  branches := same.branches.symm
  hvdcLines := same.hvdcLines.symm

/-! ## Walks and regulators -/

theorem linked_eq (same : one.SameParts other) : one.Linked = other.Linked := by
  have hadjacent : one.Adjacent = other.Adjacent := by
    funext a b
    simp only [Adjacent, same.branches.mem_iff]
  rw [Linked, Linked, hadjacent]

theorem componentSize_eq (same : one.SameParts other) :
    one.componentSize = other.componentSize := by
  funext id
  rw [componentSize, componentSize, same.linked_eq]

theorem mem_switches (same : one.SameParts other) (switch : Switch) :
    switch ∈ one.switches ↔ switch ∈ other.switches := by
  simpa [Network.branches] using same.branches.mem_iff (a := Branch.switch switch)

theorem mem_lines (same : one.SameParts other) (line : Line) :
    line ∈ one.lines ↔ line ∈ other.lines := by
  simpa [Network.branches] using same.branches.mem_iff (a := Branch.line line)

theorem mem_transformers (same : one.SameParts other) (transformer : Transformer) :
    transformer ∈ one.transformers ↔ transformer ∈ other.transformers := by
  simpa [Network.branches] using same.branches.mem_iff (a := Branch.transformer transformer)

theorem coupled (same : one.SameParts other) {a b : Node} (hid : a.id = b.id)
    (h : one.Coupled a) : other.Coupled b := by
  have hswitched : one.SwitchedTogether = other.SwitchedTogether := by
    funext a b
    simp only [SwitchedTogether, same.mem_switches]
  obtain ⟨source, hs, hne, hgenerators, hlink⟩ := h
  obtain ⟨source', hs', alike⟩ := same.nodes.exists_mem hs
  refine ⟨source', hs', ?_, ?_, ?_⟩
  · rwa [alike.id, ← hid]
  · rwa [alike.generators]
  · rwa [alike.id, ← hid, ← hswitched]

theorem findsSource_eq (same : one.SameParts other) (coherent : one.Coherent)
    (coherent' : other.Coherent) {a b : Node} (ha : a ∈ one.nodes) (hb : b ∈ other.nodes)
    (hid : a.id = b.id) : one.findsSource a = other.findsSource b := by
  rw [Bool.eq_iff_iff, coherent.findsSource_iff ha, coherent'.findsSource_iff hb]
  exact ⟨same.coupled hid, same.symm.coupled hid.symm⟩

theorem regulation_eq (same : one.SameParts other) (built : one.IsBuilt)
    (built' : other.IsBuilt) : one.regulation = other.regulation := by
  have hregulators : ∀ bus, one.regulatorCount bus = other.regulatorCount bus := by
    intro bus
    rw [built.regulatorCount_eq, built'.regulatorCount_eq]
    exact ((same.nodes.flatMap fun _ => rfl).filter _).length_eq
  funext generator
  rw [regulation, regulation, hregulators]

end SameParts

/-! ## The nodes of the main component -/

variable {one other : Network}

theorem SameParts.dominates (same : one.SameParts other) {id : String} (h : one.Dominates id) :
    other.Dominates id := by
  rw [Dominates, ← same.linked_eq, ← same.componentSize_eq]
  exact ⟨(same.nodes.mem_ids id).mp h.1, fun b hb => h.2 b ((same.nodes.mem_ids b).mpr hb)⟩

theorem SameParts.mainNodes (same : one.SameParts other) (coherent : one.Coherent)
    (coherent' : other.Coherent) {id : String} (h : one.Dominates id) :
    Rearranged one.mainNodes other.mainNodes := by
  have hnodup : ∀ {network : Network}, network.Coherent →
      (network.mainNodes.map Node.unregistered).Nodup := by
    intro network coherent
    refine List.Nodup.of_map Node.id ?_
    rw [List.map_map]
    exact coherent.mainNodes_ids_nodup
  have hmem : ∀ {network : Network}, network.Coherent → network.Dominates id → ∀ node,
      node ∈ network.mainNodes.map Node.unregistered ↔
        node ∈ network.nodes.map Node.unregistered ∧ network.Linked id node.id := by
    intro network coherent h node
    simp only [List.mem_map, coherent.mem_mainNodes_of_dominates h]
    refine ⟨fun hgiven => ?_, fun hgiven => ?_⟩
    · obtain ⟨given, ⟨hn, hlink⟩, rfl⟩ := hgiven
      exact ⟨⟨given, hn, rfl⟩, hlink⟩
    · obtain ⟨⟨given, hn, rfl⟩, hlink⟩ := hgiven
      exact ⟨given, ⟨hn, hlink⟩, rfl⟩
  refine (List.perm_ext_iff_of_nodup (hnodup coherent) (hnodup coherent')).mpr fun node => ?_
  rw [hmem coherent h, hmem coherent' (same.dominates h), same.linked_eq]
  exact and_congr_left fun _ => List.Perm.mem_iff same.nodes

end Network
end GridSetup
