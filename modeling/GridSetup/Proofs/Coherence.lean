import GridSetup.Proofs.Building
import GridSetup.Proofs.Links

/-! # The coherence of a built network

In a network that was built the nodes, the branches and the HVDC lines refer
to each other consistently, whatever parts it was built from. This invariant
is all that walks and visitors rely on, and each look-up by id is settled by
it. -/

namespace GridSetup

namespace Network

/-- The network was built from some parts. -/
def IsBuilt (network : Network) : Prop :=
  ∃ nodes branches hvdcLines, build nodes branches hvdcLines = .ok network

/-- Two nodes are adjacent if they are different ends of one line or one
transformer. -/
def Adjacent (network : Network) (a b : String) : Prop :=
  ∃ branch ∈ network.branches, branch.kind ≠ .switch ∧ a ∈ branch.ends ∧ b ∈ branch.ends ∧ a ≠ b

/-- The parts of a network are well-formed and refer to each other
consistently. -/
structure Coherent (network : Network) : Prop where
  wellFormed : WellFormed network.nodes network.branches network.hvdcLines
  registered : ∀ node ∈ network.nodes, ∀ kind id, id ∈ node.branchIds kind ↔
    ∃ branch ∈ network.branches, branch.kind = kind ∧ branch.id = id ∧ node.id ∈ branch.ends
  stationed : ∀ node ∈ network.nodes, ∀ id, id ∈ node.converters ↔
    ∃ line ∈ network.hvdcLines, ∃ converter ∈ line.converters,
      converter.id = id ∧ converter.bus = node.id
  /-- A converter is looked up on the line and the side that it belongs to. -/
  converter_entry : ∀ id lineId side, network.converters[id]? = some (lineId, side) ↔
    ∃ line ∈ network.hvdcLines, line.id = lineId ∧ (line.converter side).id = id
  joined : ∀ a b, (∃ link ∈ network.links, link.joins a b) ↔ network.Adjacent a b

/-! ## Branches kind by kind -/

theorem map_filterMap_of_kind {α : Type} {view : Branch → Option α} {make : α → Branch}
    (kind : BranchKind)
    (h : ∀ branch, (view branch).map make = Option.guard (fun b => b.kind = kind) branch)
    (branches : List Branch) :
    (branches.filterMap view).map make = branches.filter fun branch => branch.kind = kind := by
  rw [List.map_filterMap, ← List.filterMap_eq_filter]
  exact congrArg (fun f => branches.filterMap f) (funext h)

theorem filter_filter_kind (kind other : BranchKind) (branches : List Branch) :
    (branches.filter fun branch => branch.kind = kind).filter (fun branch => branch.kind = other) =
      if kind = other then branches.filter fun branch => branch.kind = other else [] := by
  rw [List.filter_filter]
  split
  · rename_i heq
    simp [heq]
  · rename_i hne
    rw [List.filter_eq_nil_iff]
    intro branch _ h
    simp only [Bool.and_eq_true, decide_eq_true_eq] at h
    exact hne (h.2.symm.trans h.1)

section Assemble

variable {nodes : List Node} {branches : List Branch} {hvdcLines : List HvdcLine}

theorem assemble_branches :
    (assemble nodes branches hvdcLines).branches =
      (branches.filter fun branch => branch.kind = .line) ++
        (branches.filter fun branch => branch.kind = .transformer) ++
          branches.filter fun branch => branch.kind = .switch := by
  rw [Network.branches, assemble_eq]
  dsimp only
  rw [map_filterMap_of_kind .line (by intro branch; cases branch <;> rfl),
    map_filterMap_of_kind .transformer (by intro branch; cases branch <;> rfl),
    map_filterMap_of_kind .switch (by intro branch; cases branch <;> rfl)]

theorem mem_assemble_branches {branch : Branch} :
    branch ∈ (assemble nodes branches hvdcLines).branches ↔ branch ∈ branches := by
  rw [assemble_branches]
  cases hk : branch.kind <;> simp [hk]

theorem filter_assemble_branches (kind : BranchKind) :
    ((assemble nodes branches hvdcLines).branches.filter fun branch => branch.kind = kind) =
      branches.filter fun branch => branch.kind = kind := by
  rw [assemble_branches, List.filter_append, List.filter_append, filter_filter_kind,
    filter_filter_kind, filter_filter_kind]
  cases kind <;> simp

/-! ## Links -/

theorem mem_pairs {l : List String} (h : l.Nodup) {a b : String} :
    ((a, b) ∈ pairs l ∨ (b, a) ∈ pairs l) ↔ a ∈ l ∧ b ∈ l ∧ a ≠ b := by
  induction l with
  | nil => simp [pairs]
  | cons x rest ih =>
    obtain ⟨hx, hrest⟩ := List.nodup_cons.mp h
    have := ih hrest
    simp only [pairs, List.mem_append, List.mem_map, Prod.mk.injEq, List.mem_cons]
    grind

theorem mem_linkedPairs (branch : Branch) (h : branch.ends.Nodup) (a b : String) :
    ((a, b) ∈ branch.linkedPairs ∨ (b, a) ∈ branch.linkedPairs) ↔
      branch.kind ≠ .switch ∧ a ∈ branch.ends ∧ b ∈ branch.ends ∧ a ≠ b := by
  cases branch with
  | line l =>
    simpa [Branch.linkedPairs, Branch.kind, Branch.ends] using mem_pairs (l := l.ends) h
  | transformer t =>
    simpa [Branch.linkedPairs, Branch.kind, Branch.ends] using mem_pairs (l := t.ends) h
  | switch s => simp [Branch.linkedPairs, Branch.kind]

theorem assemble_joined (h : ∀ branch ∈ branches, branch.ends.Nodup) (a b : String) :
    (∃ l ∈ (assemble nodes branches hvdcLines).links, l.joins a b) ↔
      (assemble nodes branches hvdcLines).Adjacent a b := by
  rw [assemble_eq]
  dsimp only
  rw [edgeLaws.joined_foldl]
  simp only [List.not_mem_nil, false_and, exists_false, false_or, List.mem_flatMap, Adjacent]
  rw [← assemble_eq]
  simp only [mem_assemble_branches]
  refine ⟨fun hgiven => ?_, fun hgiven => ?_⟩
  · rcases hgiven with ⟨branch, hb, hp⟩ | ⟨branch, hb, hp⟩
    · exact ⟨branch, hb, (mem_linkedPairs branch (h branch hb) a b).mp (.inl hp)⟩
    · exact ⟨branch, hb, (mem_linkedPairs branch (h branch hb) a b).mp (.inr hp)⟩
  · obtain ⟨branch, hb, hends⟩ := hgiven
    rcases (mem_linkedPairs branch (h branch hb) a b).mpr hends with hp | hp
    · exact .inl ⟨branch, hb, hp⟩
    · exact .inr ⟨branch, hb, hp⟩

/-! ## Converters -/

/-- The converters of the lines, and no others, are indexed: each with its line and
its side. -/
def Indexes (network : Network) (lines : List HvdcLine) : Prop :=
  ∀ id lineId side, network.converters[id]? = some (lineId, side) ↔
    ∃ line ∈ lines, line.id = lineId ∧ (line.converter side).id = id

/-- A line whose converters have ids of their own, also among each other, is indexed
beside those that are. -/
theorem Indexes.addHvdcLine {network : Network} {lines : List HvdcLine} {line : HvdcLine}
    (indexes : network.Indexes lines)
    (distinct : (((lines ++ [line]).flatMap HvdcLine.converters).map Converter.id).Nodup) :
    (network.addHvdcLine line).Indexes (lines ++ [line]) := by
  rw [List.flatMap_append, List.map_append, List.nodup_append] at distinct
  obtain ⟨-, hown, hapart⟩ := distinct
  have hne : line.first.id ≠ line.second.id := by
    simpa [HvdcLine.converters] using hown
  have hfresh : ∀ other ∈ lines, ∀ side, (other.converter side).id ≠ line.first.id ∧
      (other.converter side).id ≠ line.second.id := by
    intro other ho side
    have hmem : (other.converter side).id ∈
        (lines.flatMap HvdcLine.converters).map Converter.id := by
      refine List.mem_map_of_mem (List.mem_flatMap.mpr ⟨other, ho, ?_⟩)
      cases side <;> simp [HvdcLine.converters, HvdcLine.converter]
    exact ⟨hapart _ hmem _ (by simp [HvdcLine.converters]),
      hapart _ hmem _ (by simp [HvdcLine.converters])⟩
  intro id lineId side
  have hold := indexes id lineId side
  simp only [addHvdcLine_eq, Std.ExtTreeMap.getElem?_insert, Std.LawfulEqCmp.compare_eq_iff_eq,
    List.mem_append, List.mem_singleton, or_and_right, exists_or, exists_eq_left]
  split
  · rename_i hid
    subst hid
    have hnone : ¬∃ other ∈ lines, other.id = lineId ∧
        (other.converter side).id = line.second.id := by
      rintro ⟨other, ho, -, heq⟩
      exact (hfresh other ho side).2 heq
    rw [or_iff_right hnone]
    cases side <;> simp [HvdcLine.converter, hne]
  · rename_i hsecond
    split
    · rename_i hid
      subst hid
      have hnone : ¬∃ other ∈ lines, other.id = lineId ∧
          (other.converter side).id = line.first.id := by
        rintro ⟨other, ho, -, heq⟩
        exact (hfresh other ho side).1 heq
      rw [or_iff_right hnone]
      cases side <;> simp [HvdcLine.converter, hsecond]
    · rename_i hfirst
      have hother : (line.converter side).id ≠ id := by
        cases side
        · exact hfirst
        · exact hsecond
      rw [hold, or_iff_left fun h => hother h.2]

theorem foldl_addHvdcLine_indexes (lines : List HvdcLine) :
    ∀ {network : Network} {earlier : List HvdcLine}, network.Indexes earlier →
      (((earlier ++ lines).flatMap HvdcLine.converters).map Converter.id).Nodup →
        (lines.foldl addHvdcLine network).Indexes (earlier ++ lines) := by
  induction lines with
  | nil =>
    intro network earlier indexes _
    rwa [List.append_nil]
  | cons line rest ih =>
    intro network earlier indexes distinct
    rw [List.append_cons] at distinct ⊢
    have hown := distinct
    rw [List.flatMap_append, List.map_append] at hown
    exact ih (indexes.addHvdcLine hown.of_append_left) distinct

theorem assemble_indexes
    (distinct : ((hvdcLines.flatMap HvdcLine.converters).map Converter.id).Nodup) :
    (assemble nodes branches hvdcLines).Indexes hvdcLines := by
  have hstart : (branches.foldl addBranch (nodes.foldl addNode {})).Indexes [] := by
    intro id lineId side
    rw [foldl_addBranch, foldl_addNode]
    simp
  have hindexes := foldl_addHvdcLine_indexes hvdcLines hstart distinct
  unfold assemble
  dsimp only
  rw [Indexes, foldl_countRegulator]
  exact hindexes

/-! ## The invariant -/

theorem assemble_ids :
    (assemble nodes branches hvdcLines).nodes.map Node.id = nodes.map Node.id := by
  rw [assemble_eq, List.map_map]
  rfl

theorem assemble_wellFormed (h : WellFormed nodes branches hvdcLines) :
    WellFormed (assemble nodes branches hvdcLines).nodes
      (assemble nodes branches hvdcLines).branches
      (assemble nodes branches hvdcLines).hvdcLines where
  distinct_nodes := {
    ids := by
      rw [assemble_ids]
      exact h.distinct_nodes.ids
    equipment kind := by
      rw [assemble_eq, List.flatMap_map]
      exact h.distinct_nodes.equipment kind }
  proper_branches := {
    ids kind := by
      rw [filter_assemble_branches]
      exact h.proper_branches.ids kind
    ends branch hb := by
      have := h.proper_branches.ends branch (mem_assemble_branches.mp hb)
      exact ⟨this.distinct, by rw [assemble_ids]; exact this.present⟩ }
  proper_hvdcLines := {
    ids := by
      rw [assemble_eq]
      exact h.proper_hvdcLines.ids
    converters := by
      refine ⟨?_, ?_⟩
      · rw [assemble_eq]
        exact h.proper_hvdcLines.converters.distinct
      · rw [assemble_ids, assemble_eq]
        exact h.proper_hvdcLines.converters.present }
  regulated_present node hn generator hg := by
    rw [assemble_ids]
    rw [assemble_eq] at hn
    obtain ⟨given, hgiven, rfl⟩ := List.mem_map.mp hn
    exact h.regulated_present given hgiven generator hg

theorem assemble_coherent (h : WellFormed nodes branches hvdcLines) :
    (assemble nodes branches hvdcLines).Coherent where
  wellFormed := assemble_wellFormed h
  registered node hn kind id := by
    rw [assemble_eq] at hn
    obtain ⟨given, _, rfl⟩ := List.mem_map.mp hn
    simp only [Node.registered_branchIds, Branch.mem_endsAt, mem_assemble_branches]
    rfl
  stationed node hn id := by
    rw [assemble_eq] at hn ⊢
    obtain ⟨given, _, rfl⟩ := List.mem_map.mp hn
    simp only [Node.registered_converters, Converter.idsAt, List.mem_map, List.mem_filter,
      List.mem_flatMap, decide_eq_true_eq]
    refine ⟨fun hgiven => ?_, fun hgiven => ?_⟩
    · obtain ⟨converter, ⟨⟨line, hl, hc⟩, hbus⟩, hid⟩ := hgiven
      exact ⟨line, hl, converter, hc, hid, hbus.symm⟩
    · obtain ⟨line, hl, converter, hc, hid, hbus⟩ := hgiven
      exact ⟨converter, ⟨⟨line, hl, hc⟩, hbus.symm⟩, hid⟩
  converter_entry := by
    have hindexes : (assemble nodes branches hvdcLines).Indexes hvdcLines :=
      assemble_indexes h.proper_hvdcLines.converters.distinct
    rw [assemble_eq] at hindexes ⊢
    exact hindexes
  joined := assemble_joined fun branch hb => (h.proper_branches.ends branch hb).distinct

end Assemble

theorem build_eq_ok_iff {nodes : List Node} {branches : List Branch}
    {hvdcLines : List HvdcLine} {network : Network} :
    build nodes branches hvdcLines = .ok network ↔
      WellFormed nodes branches hvdcLines ∧ assemble nodes branches hvdcLines = network := by
  rw [← inspect_eq_none_iff, build_eq]
  cases inspect nodes branches hvdcLines <;> simp [unlessFault]

/-- Every built network is coherent. -/
theorem IsBuilt.coherent {network : Network} (built : network.IsBuilt) : network.Coherent := by
  obtain ⟨nodes, branches, hvdcLines, h⟩ := built
  obtain ⟨good, rfl⟩ := build_eq_ok_iff.mp h
  exact assemble_coherent good

end Network

/-! ## Two islands

A line joins the nodes of one island, a transformer those of the other. A closed
switch and an HVDC line lead from island to island, neither of which makes nodes
adjacent. -/

namespace TwoIslands

def nodes : List Node :=
  [{ id := "A", voltageLevel := "V1", nominalVoltage := 400, shunts := [{ id := "S" }]
     generators := [{ id := "G", regulatedBus := "B", nodeId := "A" }] },
    { id := "B", voltageLevel := "V1", nominalVoltage := 400 },
    { id := "C", voltageLevel := "V2", nominalVoltage := 225 },
    { id := "D", voltageLevel := "V2", nominalVoltage := 20,
      loads := [{ id := "L", nodeId := "D" }] }]

def branches : List Branch :=
  [.line { id := "AB", first := "A", second := "B" },
    .transformer { id := "CD", windings := .two "C" "D" },
    .switch { id := "BC", first := "B", second := "C", isOpen := false }]

def hvdcLines : List HvdcLine :=
  [{ id := "AD", type := .vsc, first := { id := "AD1", bus := "A" },
     second := { id := "AD2", bus := "D" } }]

def network : Network :=
  .assemble nodes branches hvdcLines

theorem build_network : Network.build nodes branches hvdcLines = .ok network :=
  Network.build_eq nodes branches hvdcLines

theorem network_isBuilt : network.IsBuilt :=
  ⟨nodes, branches, hvdcLines, build_network⟩

end TwoIslands
end GridSetup
