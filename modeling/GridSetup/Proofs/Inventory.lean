import GridSetup.Proofs.Lookup

/-! # What nodes list and what look-ups find

A node of a built network lists the branches that end on it and the converters
that stand on it, each once and in the order in which they were given. What is
listed is found by its id, and nothing else is. -/

namespace GridSetup

namespace Network

/-- The branch of a kind with the given id. -/
def branch (network : Network) (kind : BranchKind) (id : String) : Except Fault Branch :=
  match kind with
  | .line => (network.line id).map .line
  | .transformer => (network.transformer id).map .transformer
  | .switch => (network.switch id).map .switch

/-- What the nodes of a network list and what its look-ups find are the parts
the network was built from. -/
structure ListsParts (network : Network) (nodes : List Node) (branches : List Branch)
    (hvdcLines : List HvdcLine) : Prop where
  node_ids : network.nodes.map Node.id = nodes.map Node.id
  /-- A node lists the branches of each kind that end on it, as they were given. -/
  branch_ids : ∀ node ∈ network.nodes, ∀ kind,
    node.branchIds kind = Branch.idsAt kind branches node.id ∧ (node.branchIds kind).Nodup
  /-- A node lists the converters that stand on it, line by line and side by
  side. -/
  converter_ids : ∀ node ∈ network.nodes,
    node.converters = Converter.idsAt (hvdcLines.flatMap HvdcLine.converters) node.id ∧
      node.converters.Nodup
  /-- A listed branch is found, as it was given. -/
  branch_found : ∀ node ∈ network.nodes, ∀ kind, ∀ id ∈ node.branchIds kind,
    ∃ branch ∈ branches, network.branch kind id = .ok branch ∧
      branch.kind = kind ∧ branch.id = id ∧ node.id ∈ branch.ends
  /-- A listed converter is found on its HVDC line, as that was given, and on the
  side on which it stands. -/
  converter_found : ∀ node ∈ network.nodes, ∀ id ∈ node.converters,
    ∃ line ∈ hvdcLines, ∃ side, network.hvdcLineOfConverter id = .ok (line, side) ∧
      (line.converter side).id = id ∧ (line.converter side).bus = node.id
  branch_listed : ∀ kind id branch, network.branch kind id = .ok branch →
    ∃ node ∈ network.nodes, id ∈ node.branchIds kind
  converter_listed : ∀ id line side, network.hvdcLineOfConverter id = .ok (line, side) →
    ∃ node ∈ network.nodes, id ∈ node.converters

namespace Coherent

variable {network : Network}

theorem branch_eq_ok_iff (coherent : network.Coherent) (kind : BranchKind) (id : String)
    (branch : Branch) :
    network.branch kind id = .ok branch ↔ branch ∈ network.branchesOf kind ∧ branch.id = id := by
  cases kind with
  | line =>
    simp only [Network.branch, map_eq_ok_iff, coherent.line_eq_ok_iff, branchesOf,
      List.mem_map]
    grind [Branch.id]
  | transformer =>
    simp only [Network.branch, map_eq_ok_iff, coherent.transformer_eq_ok_iff, branchesOf,
      List.mem_map]
    grind [Branch.id]
  | switch =>
    simp only [Network.branch, map_eq_ok_iff, coherent.switch_eq_ok_iff, branchesOf,
      List.mem_map]
    grind [Branch.id]

/-- Every branch has a first end, which is a node that lists it. -/
theorem branch_listed (coherent : network.Coherent) {branch : Branch}
    (hb : branch ∈ network.branches) :
    ∃ node ∈ network.nodes, branch.id ∈ node.branchIds branch.kind := by
  have hends := coherent.wellFormed.proper_branches.ends branch hb
  have hfirst : ∃ first, first ∈ branch.ends := by
    rcases branch with line | ⟨id, first, second | ⟨first, second, third⟩⟩ | switch
    all_goals exact ⟨_, List.mem_cons_self⟩
  obtain ⟨first, hfirst⟩ := hfirst
  obtain ⟨node, hn, rfl⟩ := List.mem_map.mp (hends.present first hfirst)
  exact ⟨node, hn, (coherent.registered node hn _ _).mpr ⟨branch, hb, rfl, rfl, hfirst⟩⟩

theorem converter_mem (line : HvdcLine) (side : Side) :
    line.converter side ∈ line.converters := by
  cases side <;> simp [HvdcLine.converters, HvdcLine.converter]

theorem converter_listed (coherent : network.Coherent) {line : HvdcLine} (side : Side)
    (hl : line ∈ network.hvdcLines) :
    ∃ node ∈ network.nodes, (line.converter side).id ∈ node.converters := by
  have hbus := coherent.wellFormed.proper_hvdcLines.converters.present (line.converter side)
    (List.mem_flatMap.mpr ⟨line, hl, converter_mem line side⟩)
  obtain ⟨node, hn, hnode⟩ := List.mem_map.mp hbus
  exact ⟨node, hn, (coherent.stationed node hn _).mpr
    ⟨line, hl, _, converter_mem line side, rfl, hnode.symm⟩⟩

end Coherent

/-! ## Each id once -/

theorem idsAt_nodup {nodes : List Node} {branches : List Branch}
    (proper : ProperBranches nodes branches) (kind : BranchKind) (nodeId : String) :
    (Branch.idsAt kind branches nodeId).Nodup := by
  refine (proper.ids kind).sublist (List.Sublist.map Branch.id ?_)
  refine List.monotone_filter_right branches fun branch hb => ?_
  simp only [decide_eq_true_eq] at hb ⊢
  exact hb.1

theorem converter_idsAt_nodup {nodes : List Node} {converters : List Converter}
    (proper : ProperConverters nodes converters) (nodeId : String) :
    (Converter.idsAt converters nodeId).Nodup :=
  proper.distinct.sublist (List.filter_sublist.map Converter.id)

end Network

open Network in
/-- In a built network the nodes list what ends or stands on them, each id once
and in the order of the given parts, and the look-ups by id find exactly what is
listed, as it was given. -/
theorem inventory_exact {nodes : List Node} {branches : List Branch}
    {hvdcLines : List HvdcLine} {network : Network}
    (h : Network.build nodes branches hvdcLines = .ok network) :
    network.ListsParts nodes branches hvdcLines := by
  obtain ⟨good, rfl⟩ := build_eq_ok_iff.mp h
  have coherent := assemble_coherent good
  have hnodes : ∀ node ∈ (assemble nodes branches hvdcLines).nodes, ∃ given ∈ nodes,
      given.registered branches hvdcLines = node := by
    rw [assemble_eq]
    exact fun node hn => List.mem_map.mp hn
  have hlines : (assemble nodes branches hvdcLines).hvdcLines = hvdcLines := by
    rw [assemble_eq]
  have hdistinct : ∀ branch ∈ branches, branch.ends.Nodup :=
    fun branch hb => (good.proper_branches.ends branch hb).distinct
  refine {
    node_ids := assemble_ids
    branch_ids := fun node hn kind => ?_
    converter_ids := fun node hn => ?_
    branch_found := fun node hn kind id hid => ?_
    converter_found := fun node hn id hid => ?_
    branch_listed := fun kind id branch hfound => ?_
    converter_listed := fun id line side hfound => ?_ }
  · obtain ⟨given, -, rfl⟩ := hnodes node hn
    rw [Node.registered_branchIds, Branch.endsAt_eq_idsAt kind hdistinct]
    exact ⟨rfl, idsAt_nodup good.proper_branches kind given.id⟩
  · obtain ⟨given, -, rfl⟩ := hnodes node hn
    rw [Node.registered_converters]
    exact ⟨rfl, converter_idsAt_nodup good.proper_hvdcLines.converters given.id⟩
  · obtain ⟨branch, hb, hid, hend⟩ := (coherent.mem_branchIds_iff hn kind id).mp hid
    obtain ⟨hmem, hkind⟩ := mem_branchesOf.mp hb
    exact ⟨branch, mem_assemble_branches.mp hmem,
      (coherent.branch_eq_ok_iff kind id branch).mpr ⟨hb, hid⟩, hkind, hid, hend⟩
  · obtain ⟨line, hl, converter, hc, rfl, hbus⟩ := (coherent.stationed node hn id).mp hid
    rw [HvdcLine.converters_eq] at hc
    obtain ⟨side, -, rfl⟩ := List.mem_map.mp hc
    exact ⟨line, hlines ▸ hl, side,
      (coherent.hvdcLineOfConverter_eq_ok_iff _ line side).mpr ⟨hl, rfl⟩, rfl, hbus⟩
  · obtain ⟨hb, rfl⟩ := (coherent.branch_eq_ok_iff kind id branch).mp hfound
    obtain ⟨hmem, rfl⟩ := mem_branchesOf.mp hb
    exact coherent.branch_listed hmem
  · obtain ⟨hl, rfl⟩ := (coherent.hvdcLineOfConverter_eq_ok_iff id line side).mp hfound
    exact coherent.converter_listed side hl

/-! ## A mainland and an island

Two lines side by side and a transformer with three windings hold the mainland
together, which the island is tied to by a closed switch and an HVDC line. Both
converters of another HVDC line stand on one node, one node brings along
registrations from a network it was in before, and a generator of the mainland
shares the regulation of the island with one that is there. -/

namespace Mainland

def nodes : List Node :=
  [{ id := "I", voltageLevel := "V2", nominalVoltage := 20, shunts := [{ id := "S2" }],
     loads := [{ id := "L", nodeId := "I" }],
     generators := [{ id := "G3", regulatedBus := "I", nodeId := "I" }] },
    { id := "N", voltageLevel := "V1", nominalVoltage := 400, shunts := [{ id := "S1" }],
      generators := [{ id := "G1", regulatedBus := "E", nodeId := "N" }],
      lines := ["old"], converters := ["old"] },
    { id := "S", voltageLevel := "V1", nominalVoltage := 400,
      generators := [{ id := "G2", regulatedBus := "S", nodeId := "S", pMax := 10, qMax := 5 }] },
    { id := "E", voltageLevel := "V2", nominalVoltage := 225,
      loads := [{ id := "K", nodeId := "E" }],
      generators := [{ id := "G4", regulatedBus := "I", nodeId := "E" }] }]

def branches : List Branch :=
  [.switch { id := "EI", first := "E", second := "I", isOpen := false },
    .line { id := "NS", first := "N", second := "S" },
    .transformer { id := "NSE", windings := .three "N" "S" "E" },
    .line { id := "SN", first := "S", second := "N" }]

def hvdcLines : List HvdcLine :=
  [{ id := "IN", type := .vsc, first := { id := "IN1", bus := "I" },
     second := { id := "IN2", bus := "N" } },
    { id := "NN", type := .lcc, first := { id := "NN1", bus := "N" },
      second := { id := "NN2", bus := "N" } }]

def network : Network :=
  .assemble nodes branches hvdcLines

theorem build_network : Network.build nodes branches hvdcLines = .ok network :=
  Network.build_eq nodes branches hvdcLines

end Mainland

theorem inventory_exact_mainland :
    Network.build Mainland.nodes Mainland.branches Mainland.hvdcLines = .ok Mainland.network ∧
    Mainland.network.ListsParts Mainland.nodes Mainland.branches Mainland.hvdcLines ∧
    Mainland.network.nodes.map (fun node => (node.lines, node.transformers, node.converters)) =
      [([], [], ["IN1"]), (["NS", "SN"], ["NSE"], ["IN2", "NN1", "NN2"]),
        (["NS", "SN"], ["NSE"], []), ([], ["NSE"], [])] :=
  ⟨Mainland.build_network, inventory_exact Mainland.build_network, by decide +kernel⟩

end GridSetup
