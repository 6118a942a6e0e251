import GridSetup.Proofs.Inventory
import GridSetup.Proofs.Resolution

/-! # Neighbours share a branch

The links of a built network are those of a simple graph: none leads from a node to
itself, and no two join the same nodes, however many branches do and in whichever
direction they are given. So the neighbours of a node are, each once, the nodes it
shares a line or a transformer with. -/

namespace GridSetup

/-- Two nodes share a branch if they are different ends of one line or of one
transformer. -/
def SharesBranch (branches : List Branch) (a b : String) : Prop :=
  a ≠ b ∧ ∃ branch ∈ branches, branch.kind ≠ .switch ∧ a ∈ branch.ends ∧ b ∈ branch.ends

instance (branches : List Branch) (a b : String) : Decidable (SharesBranch branches a b) :=
  inferInstanceAs (Decidable (_ ∧ _))

theorem SharesBranch.symm {branches : List Branch} {a b : String}
    (h : SharesBranch branches a b) : SharesBranch branches b a := by
  obtain ⟨hne, branch, hb, hkind, ha, hb'⟩ := h
  exact ⟨hne.symm, branch, hb, hkind, hb', ha⟩

namespace Network

/-! ## The links of a built network -/

theorem linkedPairs_ne {branch : Branch} (h : branch.ends.Nodup) :
    ∀ pair ∈ branch.linkedPairs, pair.1 ≠ pair.2 := by
  intro pair hpair
  obtain ⟨-, -, -, hne⟩ := (mem_linkedPairs branch h pair.1 pair.2).mp (.inl hpair)
  exact hne

theorem assemble_simpleLinks {nodes : List Node} {branches : List Branch}
    {hvdcLines : List HvdcLine} (h : ∀ branch ∈ branches, branch.ends.Nodup) :
    SimpleLinks (assemble nodes branches hvdcLines).links := by
  rw [assemble_eq]
  refine edgeLaws.simple_foldl (fun pair hpair => ?_) SimpleLinks.nil
  obtain ⟨branch, hb, hpair⟩ := List.mem_flatMap.mp hpair
  exact linkedPairs_ne (h branch hb) pair hpair

theorem assemble_adjacent_iff {nodes : List Node} {branches : List Branch}
    {hvdcLines : List HvdcLine} {a b : String} :
    (assemble nodes branches hvdcLines).Adjacent a b ↔ SharesBranch branches a b := by
  simp only [Adjacent, mem_assemble_branches, SharesBranch]
  grind

/-- Switches link nothing, so the links are those of the other branches. -/
theorem assemble_links_filter (nodes : List Node) (branches : List Branch)
    (hvdcLines : List HvdcLine) :
    (assemble nodes branches hvdcLines).links =
      ((branches.filter fun branch => branch.kind ≠ .switch).flatMap
        Branch.linkedPairs).foldl link [] := by
  have hpairs : branches.flatMap Branch.linkedPairs =
      (branches.filter fun branch => branch.kind ≠ .switch).flatMap Branch.linkedPairs := by
    induction branches with
    | nil => rfl
    | cons branch rest ih => cases branch <;> simp [Branch.kind, Branch.linkedPairs, ih]
  rw [assemble_eq, hpairs]

/-- What the neighbours of a node are: each once, the nodes it shares a branch with. -/
structure Neighbors (network : Network) (branches : List Branch) (node : Node)
    (others : List Node) : Prop where
  present : others ⊆ network.nodes
  once : (others.map Node.id).Nodup
  mem_iff : ∀ other ∈ network.nodes, other ∈ others ↔ SharesBranch branches node.id other.id
  count : network.neighborCount node.id =
    .ok (network.nodes.countP fun other => SharesBranch branches node.id other.id)

theorem assemble_neighbors {nodes : List Node} {branches : List Branch}
    {hvdcLines : List HvdcLine} (good : WellFormed nodes branches hvdcLines) {node : Node}
    (hn : node ∈ (assemble nodes branches hvdcLines).nodes) :
    ∃ others, (assemble nodes branches hvdcLines).neighbors node.id = .ok others ∧
      (assemble nodes branches hvdcLines).Neighbors branches node others := by
  have coherent := assemble_coherent good
  obtain ⟨others, hothers, hids, hpresent⟩ := coherent.neighbors_exact hn
  have once : (others.map Node.id).Nodup := by
    rw [hids]
    exact edgeLaws.others_nodup
      (assemble_simpleLinks fun branch hb => (good.proper_branches.ends branch hb).distinct) _
  have mem_iff : ∀ other ∈ (assemble nodes branches hvdcLines).nodes,
      other ∈ others ↔ SharesBranch branches node.id other.id := by
    intro other ho
    rw [← coherent.mem_ids_iff hpresent ho, hids, coherent.mem_neighborIds_iff,
      assemble_adjacent_iff]
  have hperm : others.Perm ((assemble nodes branches hvdcLines).nodes.filter
      fun other => SharesBranch branches node.id other.id) := by
    have distinct := coherent.wellFormed.distinct_nodes.ids.of_map Node.id
    rw [List.perm_ext_iff_of_nodup (once.of_map Node.id) (distinct.filter _)]
    intro other
    rw [List.mem_filter, decide_eq_true_eq]
    exact ⟨fun ho => ⟨hpresent other ho, (mem_iff other (hpresent other ho)).mp ho⟩,
      fun ho => (mem_iff other ho.1).mpr ho.2⟩
  refine ⟨others, hothers, hpresent, once, mem_iff, ?_⟩
  rw [neighborCount, hothers, List.countP_eq_length_filter, ← hperm.length_eq]
  rfl

/-- The number of nodes a node shares a line or a transformer with. -/
def degree (network : Network) (node : Node) : Nat :=
  network.nodes.countP fun other => SharesBranch network.branches node.id other.id

theorem IsBuilt.neighborCount_eq {network : Network} (built : network.IsBuilt) {node : Node}
    (hn : node ∈ network.nodes) : network.neighborCount node.id = .ok (network.degree node) := by
  obtain ⟨nodes, branches, hvdcLines, h⟩ := built
  obtain ⟨good, rfl⟩ := build_eq_ok_iff.mp h
  obtain ⟨_, -, hneighbors⟩ := assemble_neighbors good hn
  have hshared : ∀ a b,
      SharesBranch (assemble nodes branches hvdcLines).branches a b ↔
        SharesBranch branches a b := by
    simp only [SharesBranch, mem_assemble_branches, implies_true]
  rw [hneighbors.count]
  simp only [degree, hshared]

end Network

open Network in
/-- In a built network the neighbours of each node are the nodes it shares a branch
with, listed once however many branches they share, so that being neighbours is
mutual. Switches and HVDC lines have no part in it: whatever they are, lines and
transformers alone decide which neighbours are listed and in which order. -/
theorem neighborRelation_exact {nodes : List Node} {branches : List Branch}
    {hvdcLines : List HvdcLine} {network : Network}
    (h : Network.build nodes branches hvdcLines = .ok network) :
    (∀ node ∈ network.nodes, ∃ others, network.neighbors node.id = .ok others ∧
      network.Neighbors branches node others) ∧
    (∀ a ∈ network.nodes, ∀ b ∈ network.nodes, ∀ besideA besideB,
      network.neighbors a.id = .ok besideA → network.neighbors b.id = .ok besideB →
        (b ∈ besideA ↔ a ∈ besideB)) ∧
    ∀ nodes' branches' hvdcLines' network',
      Network.build nodes' branches' hvdcLines' = .ok network' →
      (branches'.filter fun branch => branch.kind ≠ .switch) =
        (branches.filter fun branch => branch.kind ≠ .switch) →
        ∀ id, network'.neighborIds id = network.neighborIds id := by
  obtain ⟨good, rfl⟩ := build_eq_ok_iff.mp h
  refine ⟨fun node => assemble_neighbors good, ?_, ?_⟩
  · intro a ha b hb besideA besideB hA hB
    obtain ⟨_, hfoundA, neighborsA⟩ := assemble_neighbors good ha
    obtain ⟨_, hfoundB, neighborsB⟩ := assemble_neighbors good hb
    cases hA.symm.trans hfoundA
    cases hB.symm.trans hfoundB
    rw [neighborsA.mem_iff b hb, neighborsB.mem_iff a ha]
    exact ⟨SharesBranch.symm, SharesBranch.symm⟩
  · intro nodes' branches' hvdcLines' network' h' hsame id
    obtain ⟨-, rfl⟩ := build_eq_ok_iff.mp h'
    rw [neighborIds, neighborIds, assemble_links_filter, assemble_links_filter, hsame]

/-- Two lines side by side and a transformer with three windings make the nodes of the
mainland neighbours once. The island has none, a switch and an HVDC line apart. -/
theorem neighborRelation_exact_mainland :
    Network.build Mainland.nodes Mainland.branches Mainland.hvdcLines = .ok Mainland.network ∧
    (∀ node ∈ Mainland.network.nodes, ∃ others,
      Mainland.network.neighbors node.id = .ok others ∧
      Mainland.network.Neighbors Mainland.branches node others) ∧
    Mainland.network.nodes.map (fun node => Mainland.network.neighborIds node.id) =
      [[], ["E", "S"], ["E", "N"], ["S", "N"]] ∧
    Mainland.network.nodes.map (fun node => Mainland.network.neighborCount node.id) =
      [.ok 0, .ok 2, .ok 2, .ok 2] :=
  ⟨Mainland.build_network, (neighborRelation_exact Mainland.build_network).1,
    by decide +kernel, by decide +kernel⟩

end GridSetup
