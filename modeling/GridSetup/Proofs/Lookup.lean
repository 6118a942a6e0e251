import GridSetup.Proofs.Coherence

/-! # Look-ups in a coherent network

A look-up finds an element exactly if the network has one of that id, which is
then the only one. So no look-up of an id that the network itself hands out
can fail. -/

namespace GridSetup

theorem Fault.orFound_eq_ok_iff {α : Type} (fault : Fault) (found : Option α) (x : α) :
    fault.orFound found = .ok x ↔ found = some x := by
  cases found <;> simp [Fault.orFound]

theorem map_eq_ok_iff {α β ε : Type} (f : α → β) (found : Except ε α) (y : β) :
    found.map f = .ok y ↔ ∃ x, found = .ok x ∧ f x = y := by
  cases found <;> simp [Except.map]

theorem bind_eq_ok_iff {α β ε : Type} (found : Except ε α) (next : α → Except ε β) (y : β) :
    found >>= next = .ok y ↔ ∃ x, found = .ok x ∧ next x = .ok y := by
  cases found <;> simp [bind, Except.bind]

theorem bind_eq_error_iff {α β ε : Type} (found : Except ε α) (next : α → Except ε β) (e : ε) :
    found >>= next = .error e ↔ found = .error e ∨ ∃ x, found = .ok x ∧ next x = .error e := by
  cases found <;> simp [bind, Except.bind]

/-- The first element with the key of a given one is found by that key. -/
theorem exists_find?_key {α : Type} (key : α → String) {l : List α} {x : α} (hx : x ∈ l) :
    ∃ first, l.find? (fun y => key y == key x) = some first ∧ key first = key x := by
  have hsome : (l.find? fun y => key y == key x).isSome := by
    rw [List.find?_isSome]
    exact ⟨x, hx, by simp⟩
  obtain ⟨first, hfirst⟩ := Option.isSome_iff_exists.mp hsome
  exact ⟨first, hfirst, by simpa using List.find?_some hfirst⟩

/-- Where keys are distinct, an element is found by its key and by no other. -/
theorem find?_key_iff {α : Type} (key : α → String) {l : List α} (h : (l.map key).Nodup)
    (k : String) (x : α) : l.find? (fun y => key y == k) = some x ↔ x ∈ l ∧ key x = k := by
  refine ⟨fun hx => ?_, fun hgiven => ?_⟩
  · exact ⟨List.mem_of_find?_eq_some hx, by simpa using List.find?_some hx⟩
  · obtain ⟨hx, rfl⟩ := hgiven
    obtain ⟨y, hy, hkey⟩ := exists_find?_key key hx
    rw [hy, List.inj_on_of_nodup_map h (List.mem_of_find?_eq_some hy) hx hkey]

/-- A map lists its entries in the order of their keys. -/
theorem toList_ordered {α : Type} (map : Std.ExtTreeMap String α) :
    map.toList.Pairwise fun entry other => entry.1 < other.1 := by
  have hordered : map.toList.Pairwise fun entry other => compare entry.1 other.1 = .lt :=
    Std.ExtTreeMap.ordered_keys_toList
  exact hordered.imp fun h => compareOfLessAndEq_eq_lt.mp h

theorem HvdcLine.converters_eq (line : HvdcLine) :
    line.converters = [Side.first, Side.second].map line.converter := rfl

namespace Network

/-- The branches of one kind. -/
def branchesOf (network : Network) : BranchKind → List Branch
  | .line => network.lines.map .line
  | .transformer => network.transformers.map .transformer
  | .switch => network.switches.map .switch

theorem filter_branches (network : Network) (kind : BranchKind) :
    (network.branches.filter fun branch => branch.kind = kind) = network.branchesOf kind := by
  cases kind <;>
    simp [branches, branchesOf, List.filter_map, Function.comp_def, Branch.kind]

theorem mem_branchesOf {network : Network} {kind : BranchKind} {branch : Branch} :
    branch ∈ network.branchesOf kind ↔ branch ∈ network.branches ∧ branch.kind = kind := by
  rw [← filter_branches]
  simp

theorem node_eq_error {network : Network} {id : String} (h : id ∉ network.nodes.map Node.id) :
    network.node id = .error (.unknownNode id) := by
  have hnone : network.node? id = none := by
    rw [node?, List.find?_eq_none]
    intro node hn hid
    exact h (List.mem_map.mpr ⟨node, hn, by simpa using hid⟩)
  rw [node, hnone]
  rfl

/-- A converter is looked up first, and the line it belongs to then. -/
theorem hvdcLineOfConverter_eq (network : Network) (id : String) :
    network.hvdcLineOfConverter id =
      match network.converters[id]? with
      | none => .error (.unknownElement .converter id)
      | some (lineId, side) => (network.hvdcLine lineId).map fun line => (line, side) := by
  rw [hvdcLineOfConverter]
  cases network.converters[id]? with
  | none => rfl
  | some entry =>
    obtain ⟨lineId, side⟩ := entry
    change (network.hvdcLine lineId >>= fun line => .ok (line, side)) =
      (network.hvdcLine lineId).map fun line => (line, side)
    cases network.hvdcLine lineId <;> rfl

namespace Coherent

variable {network : Network}

theorem branchesOf_nodup (coherent : network.Coherent) (kind : BranchKind) :
    ((network.branchesOf kind).map Branch.id).Nodup := by
  rw [← filter_branches]
  exact coherent.wellFormed.proper_branches.ids kind

theorem node_eq_ok_iff (coherent : network.Coherent) (id : String) (node : Node) :
    network.node id = .ok node ↔ node ∈ network.nodes ∧ node.id = id := by
  rw [Network.node, Fault.orFound_eq_ok_iff, Network.node?,
    find?_key_iff Node.id coherent.wellFormed.distinct_nodes.ids]

theorem node_of_mem (coherent : network.Coherent) {node : Node} (h : node ∈ network.nodes) :
    network.node node.id = .ok node :=
  (coherent.node_eq_ok_iff node.id node).mpr ⟨h, rfl⟩

theorem ids_injective (coherent : network.Coherent) {a b : Node} (ha : a ∈ network.nodes)
    (hb : b ∈ network.nodes) (h : a.id = b.id) : a = b :=
  List.inj_on_of_nodup_map coherent.wellFormed.distinct_nodes.ids ha hb h

/-- Some of the nodes are told from the others by their ids. -/
theorem mem_ids_iff (coherent : network.Coherent) {visits : List Node}
    (hsub : visits ⊆ network.nodes) {node : Node} (hn : node ∈ network.nodes) :
    node.id ∈ visits.map Node.id ↔ node ∈ visits := by
  refine ⟨fun h => ?_, fun h => List.mem_map_of_mem h⟩
  obtain ⟨other, ho, hid⟩ := List.mem_map.mp h
  exact coherent.ids_injective (hsub ho) hn hid ▸ ho

theorem line_eq_ok_iff (coherent : network.Coherent) (id : String) (line : Line) :
    network.line id = .ok line ↔ line ∈ network.lines ∧ line.id = id := by
  have h := coherent.branchesOf_nodup .line
  rw [branchesOf, List.map_map] at h
  rw [Network.line, Fault.orFound_eq_ok_iff, find?_key_iff Line.id h]

theorem transformer_eq_ok_iff (coherent : network.Coherent) (id : String)
    (transformer : Transformer) :
    network.transformer id = .ok transformer ↔
      transformer ∈ network.transformers ∧ transformer.id = id := by
  have h := coherent.branchesOf_nodup .transformer
  rw [branchesOf, List.map_map] at h
  rw [Network.transformer, Fault.orFound_eq_ok_iff, find?_key_iff Transformer.id h]

theorem switch_eq_ok_iff (coherent : network.Coherent) (id : String) (switch : Switch) :
    network.switch id = .ok switch ↔ switch ∈ network.switches ∧ switch.id = id := by
  have h := coherent.branchesOf_nodup .switch
  rw [branchesOf, List.map_map] at h
  rw [Network.switch, Fault.orFound_eq_ok_iff, find?_key_iff Switch.id h]

/-- The branches registered on a node are those that end there. -/
theorem mem_branchIds_iff (coherent : network.Coherent) {node : Node}
    (hn : node ∈ network.nodes) (kind : BranchKind) (id : String) :
    id ∈ node.branchIds kind ↔
      ∃ branch ∈ network.branchesOf kind, branch.id = id ∧ node.id ∈ branch.ends := by
  simp only [coherent.registered node hn kind id, mem_branchesOf, and_assoc]

theorem mem_lines_iff (coherent : network.Coherent) {node : Node} (hn : node ∈ network.nodes)
    (id : String) :
    id ∈ node.lines ↔ ∃ line ∈ network.lines, line.id = id ∧ node.id ∈ line.ends := by
  have h := coherent.mem_branchIds_iff hn .line id
  simp only [branchesOf, List.mem_map, exists_exists_and_eq_and] at h
  exact h

theorem mem_transformers_iff (coherent : network.Coherent) {node : Node}
    (hn : node ∈ network.nodes) (id : String) :
    id ∈ node.transformers ↔
      ∃ transformer ∈ network.transformers, transformer.id = id ∧ node.id ∈ transformer.ends := by
  have h := coherent.mem_branchIds_iff hn .transformer id
  simp only [branchesOf, List.mem_map, exists_exists_and_eq_and] at h
  exact h

theorem mem_switches_iff (coherent : network.Coherent) {node : Node}
    (hn : node ∈ network.nodes) (id : String) :
    id ∈ node.switches ↔ ∃ switch ∈ network.switches, switch.id = id ∧ node.id ∈ switch.ends := by
  have h := coherent.mem_branchIds_iff hn .switch id
  simp only [branchesOf, List.mem_map, exists_exists_and_eq_and] at h
  exact h

/-- The converters of all lines and sides have distinct ids. -/
theorem converter_injective (coherent : network.Coherent) {line line' : HvdcLine}
    {side side' : Side} (hl : line ∈ network.hvdcLines) (hl' : line' ∈ network.hvdcLines)
    (h : (line.converter side).id = (line'.converter side').id) :
    line = line' ∧ side = side' := by
  have hdistinct := coherent.wellFormed.proper_hvdcLines.converters.distinct
  have hpairs : (network.hvdcLines.flatMap HvdcLine.converters).map Converter.id =
      (network.hvdcLines.flatMap fun line => [(line, Side.first), (line, Side.second)]).map
        fun pair => (pair.1.converter pair.2).id := by
    rw [List.map_flatMap, List.map_flatMap]
    rfl
  rw [hpairs] at hdistinct
  have hmem : ∀ (line : HvdcLine) (side : Side), line ∈ network.hvdcLines → (line, side) ∈
      network.hvdcLines.flatMap fun line => [(line, Side.first), (line, Side.second)] := by
    intro line side hline
    refine List.mem_flatMap.mpr ⟨line, hline, ?_⟩
    cases side <;> simp
  exact Prod.mk.inj (List.inj_on_of_nodup_map hdistinct (hmem line side hl)
    (hmem line' side' hl') h)

theorem hvdcLine_eq_ok_iff (coherent : network.Coherent) (id : String) (line : HvdcLine) :
    network.hvdcLine id = .ok line ↔ line ∈ network.hvdcLines ∧ line.id = id := by
  rw [Network.hvdcLine, Fault.orFound_eq_ok_iff,
    find?_key_iff HvdcLine.id coherent.wellFormed.proper_hvdcLines.ids]

/-- Each converter that is indexed is so on a line that is there. -/
theorem hvdcLineOfConverter_eq_ok_iff (coherent : network.Coherent) (id : String)
    (line : HvdcLine) (side : Side) :
    network.hvdcLineOfConverter id = .ok (line, side) ↔
      line ∈ network.hvdcLines ∧ (line.converter side).id = id := by
  rw [Network.hvdcLineOfConverter_eq]
  refine ⟨fun h => ?_, fun h => ?_⟩
  · split at h
    · cases h
    · rename_i lineId own hfound
      obtain ⟨line', hline, heq⟩ := (map_eq_ok_iff _ _ _).mp h
      cases heq
      obtain ⟨hl, rfl⟩ := (coherent.hvdcLine_eq_ok_iff lineId line).mp hline
      obtain ⟨other, ho, hother, hid⟩ := (coherent.converter_entry id line.id side).mp hfound
      have hsame := List.inj_on_of_nodup_map coherent.wellFormed.proper_hvdcLines.ids ho hl hother
      exact ⟨hl, hsame ▸ hid⟩
  · obtain ⟨hl, hid⟩ := h
    rw [(coherent.converter_entry id line.id side).mpr ⟨line, hl, rfl, hid⟩]
    dsimp only
    rw [(coherent.hvdcLine_eq_ok_iff line.id line).mpr ⟨hl, rfl⟩]
    rfl

/-- A look-up of a converter can only fail because no line has it: the line that it is
indexed with is there. -/
theorem hvdcLineOfConverter_eq_error (coherent : network.Coherent) {id : String}
    {fault : Fault} (h : network.hvdcLineOfConverter id = .error fault) :
    fault = .unknownElement .converter id ∧
      ∀ line ∈ network.hvdcLines, ∀ side, (line.converter side).id ≠ id := by
  refine ⟨?_, fun line hl side hid => ?_⟩
  · rw [Network.hvdcLineOfConverter_eq] at h
    split at h
    · cases h
      rfl
    · rename_i lineId side hfound
      obtain ⟨line, hl, rfl, -⟩ := (coherent.converter_entry id lineId side).mp hfound
      rw [(coherent.hvdcLine_eq_ok_iff line.id line).mpr ⟨hl, rfl⟩] at h
      cases h
  · rw [(coherent.hvdcLineOfConverter_eq_ok_iff id line side).mpr ⟨hl, hid⟩] at h
    cases h

end Coherent
end Network
end GridSetup
