import GridSetup.Proofs.WellFormed

/-! # What an assembled network holds

The fields of an assembled network, each said of the given parts at once. One
lemma for each field tells what a step of the assembly does to it, the next
what all steps do. -/

namespace GridSetup

/-! ## Registrations on a node -/

/-- The ids of the branches of a kind that end on a node, as they are given. -/
def Branch.idsAt (kind : BranchKind) (branches : List Branch) (nodeId : String) : List String :=
  (branches.filter fun branch => branch.kind = kind ∧ nodeId ∈ branch.ends).map Branch.id

/-- The same ids, each once for every end on the node. -/
def Branch.endsAt (kind : BranchKind) (branches : List Branch) (nodeId : String) : List String :=
  (branches.filter fun branch => branch.kind = kind).flatMap fun branch =>
    List.replicate (branch.ends.count nodeId) branch.id

/-- The ids of the converters that stand on a node, as they are given. -/
def Converter.idsAt (converters : List Converter) (nodeId : String) : List String :=
  (converters.filter fun converter => nodeId = converter.bus).map Converter.id

theorem Branch.mem_endsAt (kind : BranchKind) (branches : List Branch) (nodeId id : String) :
    id ∈ endsAt kind branches nodeId ↔
      ∃ branch ∈ branches, branch.kind = kind ∧ branch.id = id ∧ nodeId ∈ branch.ends := by
  simp only [endsAt, List.mem_flatMap, List.mem_filter, decide_eq_true_eq, List.mem_replicate,
    ne_eq, List.count_eq_zero, not_not]
  grind

/-- A branch with distinct ends is listed once on each of them. -/
theorem Branch.endsAt_eq_idsAt (kind : BranchKind) {branches : List Branch}
    (distinct : ∀ branch ∈ branches, branch.ends.Nodup) (nodeId : String) :
    endsAt kind branches nodeId = idsAt kind branches nodeId := by
  induction branches with
  | nil => rfl
  | cons branch rest ih =>
    obtain ⟨hends, hrest⟩ := List.forall_mem_cons.mp distinct
    have hcount : branch.ends.count nodeId = if nodeId ∈ branch.ends then 1 else 0 :=
      hends.count
    have ih := ih hrest
    simp only [endsAt, idsAt] at ih ⊢
    by_cases hkind : branch.kind = kind
    · by_cases hmem : nodeId ∈ branch.ends
      · simp [hkind, hmem, hcount, ih]
      · simp [hkind, hmem, hcount, ih]
    · simp [hkind, ih]

namespace Node

/-- The ids registered on a node for one kind of branch. -/
def branchIds (kind : BranchKind) (node : Node) : List String :=
  match kind with
  | .line => node.lines
  | .transformer => node.transformers
  | .switch => node.switches

/-- Lists a branch several times on a node. -/
def registerTimes (branch : Branch) (times : Nat) (node : Node) : Node :=
  match branch with
  | .line line => { node with lines := node.lines ++ List.replicate times line.id }
  | .transformer transformer =>
    { node with transformers := node.transformers ++ List.replicate times transformer.id }
  | .switch switch =>
    { node with switches := node.switches ++ List.replicate times switch.id }

/-- Registers branches after those the node has. -/
def addBranches (branches : List Branch) (node : Node) : Node :=
  { node with
    lines := node.lines ++ Branch.endsAt .line branches node.id
    transformers := node.transformers ++ Branch.endsAt .transformer branches node.id
    switches := node.switches ++ Branch.endsAt .switch branches node.id }

/-- Registers converters after those the node has. -/
def addConverters (converters : List Converter) (node : Node) : Node :=
  { node with converters := node.converters ++ Converter.idsAt converters node.id }

/-- A node as it stands in the network with the given branches and HVDC lines. -/
def registered (branches : List Branch) (hvdcLines : List HvdcLine) (node : Node) : Node :=
  (node.unregistered.addBranches branches).addConverters
    (hvdcLines.flatMap HvdcLine.converters)

theorem registerTimes_zero (branch : Branch) (node : Node) :
    node.registerTimes branch 0 = node := by
  cases branch <;> simp [registerTimes]

theorem registerTimes_succ (branch : Branch) (times : Nat) (node : Node) :
    node.registerTimes branch (times + 1) =
      (node.registerBranch branch).registerTimes branch times := by
  cases branch <;> simp [registerTimes, registerBranch, List.replicate_succ]

theorem registerBranch_id (branch : Branch) (node : Node) :
    (node.registerBranch branch).id = node.id := by
  cases branch <;> rfl

/-- A branch registered end by end is listed on each node as often as it ends there. -/
theorem foldl_updateAt_registerBranch (branch : Branch) (ends : List String)
    (nodes : List Node) :
    ends.foldl (fun nodes id => updateAt id (registerBranch branch) nodes) nodes =
      nodes.map fun node => node.registerTimes branch (ends.count node.id) := by
  induction ends generalizing nodes with
  | nil => simp [registerTimes_zero]
  | cons id rest ih =>
    rw [List.foldl_cons, ih, updateAt, List.map_map]
    refine List.map_congr_left fun node _ => ?_
    rw [Function.comp_apply, List.count_cons]
    split
    · rename_i hid
      rw [registerBranch_id, hid, if_pos BEq.rfl, registerTimes_succ]
    · rename_i hid
      rw [if_neg (by simpa using Ne.symm hid), Nat.add_zero]

theorem addBranches_nil (node : Node) : node.addBranches [] = node := by
  simp [addBranches, Branch.endsAt]

theorem addBranches_cons (branch : Branch) (rest : List Branch) (node : Node) :
    node.addBranches (branch :: rest) =
      (node.registerTimes branch (branch.ends.count node.id)).addBranches rest := by
  cases branch <;>
    simp [addBranches, registerTimes, Branch.endsAt, Branch.kind, Branch.id]

theorem addConverters_nil (node : Node) : node.addConverters [] = node := by
  simp [addConverters, Converter.idsAt]

theorem addConverters_cons (converter : Converter) (rest : List Converter) (node : Node) :
    node.addConverters (converter :: rest) =
      (if node.id = converter.bus then node.registerConverter converter
        else node).addConverters rest := by
  split
  · rename_i hbus
    simp [addConverters, registerConverter, Converter.idsAt, hbus]
  · rename_i hbus
    simp [addConverters, Converter.idsAt, hbus]

theorem addConverters_append (converters rest : List Converter) (node : Node) :
    node.addConverters (converters ++ rest) =
      (node.addConverters converters).addConverters rest := by
  have hids : Converter.idsAt (converters ++ rest) node.id =
      Converter.idsAt converters node.id ++ Converter.idsAt rest node.id := by
    simp [Converter.idsAt]
  simp only [addConverters, hids, List.append_assoc]

theorem registered_branchIds (branches : List Branch) (hvdcLines : List HvdcLine)
    (node : Node) (kind : BranchKind) :
    (node.registered branches hvdcLines).branchIds kind =
      Branch.endsAt kind branches node.id := by
  cases kind <;>
    simp [registered, addConverters, addBranches, unregistered, branchIds]

theorem registered_converters (branches : List Branch) (hvdcLines : List HvdcLine)
    (node : Node) :
    (node.registered branches hvdcLines).converters =
      Converter.idsAt (hvdcLines.flatMap HvdcLine.converters) node.id := by
  simp [registered, addConverters, addBranches, unregistered]

end Node

/-! ## The branches of a network -/

namespace Branch

def line? : Branch → Option Line
  | .line l => some l
  | _ => none

def transformer? : Branch → Option Transformer
  | .transformer t => some t
  | _ => none

def switch? : Branch → Option Switch
  | .switch s => some s
  | _ => none

/-- The pairs of nodes that a branch links. -/
def linkedPairs : Branch → List (String × String)
  | .line l => pairs l.ends
  | .transformer t => pairs t.ends
  | .switch _ => []

end Branch

namespace Network

/-- All branches of a network, kind by kind. -/
def branches (network : Network) : List Branch :=
  network.lines.map .line ++ network.transformers.map .transformer ++
    network.switches.map .switch

/-! ## The steps of the assembly -/

theorem foldl_addNode (nodes : List Node) (network : Network) :
    nodes.foldl addNode network =
      { network with
        nodes := network.nodes ++ nodes.map Node.unregistered
        levels := (nodes.foldl addNode network).levels } := by
  induction nodes generalizing network with
  | nil => simp
  | cons node rest ih =>
    rw [List.foldl_cons, ih (network.addNode node)]
    simp [addNode]

theorem addBranch_eq (network : Network) (branch : Branch) :
    network.addBranch branch =
      { network with
        nodes := network.nodes.map fun node =>
          node.registerTimes branch (branch.ends.count node.id)
        lines := network.lines ++ branch.line?.toList
        transformers := network.transformers ++ branch.transformer?.toList
        switches := network.switches ++ branch.switch?.toList
        links := branch.linkedPairs.foldl link network.links } := by
  rw [← Node.foldl_updateAt_registerBranch]
  cases branch <;>
    simp [addBranch, Branch.line?, Branch.transformer?, Branch.switch?, Branch.linkedPairs]

theorem foldl_addBranch (branches : List Branch) (network : Network) :
    branches.foldl addBranch network =
      { network with
        nodes := network.nodes.map (Node.addBranches branches)
        lines := network.lines ++ branches.filterMap Branch.line?
        transformers := network.transformers ++ branches.filterMap Branch.transformer?
        switches := network.switches ++ branches.filterMap Branch.switch?
        links := (branches.flatMap Branch.linkedPairs).foldl link network.links } := by
  induction branches generalizing network with
  | nil => simp [funext Node.addBranches_nil]
  | cons branch rest ih =>
    have hnodes : (network.nodes.map fun node =>
        node.registerTimes branch (branch.ends.count node.id)).map (Node.addBranches rest) =
          network.nodes.map (Node.addBranches (branch :: rest)) := by
      rw [List.map_map]
      exact List.map_congr_left fun node _ => (Node.addBranches_cons branch rest node).symm
    rw [List.foldl_cons, ih, addBranch_eq]
    simp only [hnodes, List.filterMap_eq_flatMap_toList, List.flatMap_cons, List.append_assoc,
      List.foldl_append]

theorem updateAt_registerConverter (converter : Converter) (rest : List Converter)
    (nodes : List Node) :
    (Node.updateAt converter.bus (Node.registerConverter converter) nodes).map
        (Node.addConverters rest) =
      nodes.map (Node.addConverters (converter :: rest)) := by
  rw [Node.updateAt, List.map_map]
  exact List.map_congr_left fun node _ => (Node.addConverters_cons converter rest node).symm

theorem addHvdcLine_eq (network : Network) (line : HvdcLine) :
    network.addHvdcLine line =
      { network with
        hvdcLines := network.hvdcLines ++ [line]
        nodes := network.nodes.map (Node.addConverters line.converters)
        converters := (network.converters.insert line.first.id (line.id, .first)).insert
          line.second.id (line.id, .second) } := by
  rw [HvdcLine.converters, ← updateAt_registerConverter, ← updateAt_registerConverter,
    funext Node.addConverters_nil, List.map_id']
  rfl

theorem foldl_addHvdcLine (lines : List HvdcLine) (network : Network) :
    lines.foldl addHvdcLine network =
      { network with
        hvdcLines := network.hvdcLines ++ lines
        nodes := network.nodes.map
          (Node.addConverters (lines.flatMap HvdcLine.converters))
        converters := (lines.foldl addHvdcLine network).converters } := by
  induction lines generalizing network with
  | nil => simp [funext Node.addConverters_nil]
  | cons line rest ih =>
    have hnodes : (network.nodes.map (Node.addConverters line.converters)).map
        (Node.addConverters (rest.flatMap HvdcLine.converters)) =
          network.nodes.map
            (Node.addConverters ((line :: rest).flatMap HvdcLine.converters)) := by
      rw [List.map_map, List.flatMap_cons]
      exact List.map_congr_left fun node _ => (Node.addConverters_append _ _ node).symm
    rw [List.foldl_cons, ih (network.addHvdcLine line), addHvdcLine_eq]
    simp only [hnodes, List.append_assoc, List.singleton_append]

theorem foldl_countRegulator (generators : List Generator) (network : Network) :
    generators.foldl countRegulator network =
      { network with
        regulators := (generators.foldl countRegulator network).regulators } := by
  induction generators generalizing network with
  | nil => rfl
  | cons generator rest ih =>
    rw [List.foldl_cons, ih (network.countRegulator generator)]
    rfl

/-! ## The fields of an assembled network -/

section Assemble

variable (nodes : List Node) (branches : List Branch) (hvdcLines : List HvdcLine)

/-- An assembled network: the given parts in the given order, the nodes with
their registrations, and the links of all pairs of ends. -/
theorem assemble_eq :
    assemble nodes branches hvdcLines =
      { nodes := nodes.map (Node.registered branches hvdcLines)
        lines := branches.filterMap Branch.line?
        transformers := branches.filterMap Branch.transformer?
        switches := branches.filterMap Branch.switch?
        hvdcLines
        converters := (assemble nodes branches hvdcLines).converters
        links := (branches.flatMap Branch.linkedPairs).foldl link []
        levels := (assemble nodes branches hvdcLines).levels
        regulators := (assemble nodes branches hvdcLines).regulators } := by
  have hnodes : ((nodes.map Node.unregistered).map (Node.addBranches branches)).map
      (Node.addConverters (hvdcLines.flatMap HvdcLine.converters)) =
        nodes.map (Node.registered branches hvdcLines) := by
    rw [List.map_map, List.map_map]
    rfl
  unfold assemble
  dsimp only
  rw [foldl_countRegulator, foldl_addHvdcLine, foldl_addBranch, foldl_addNode]
  simp only [List.nil_append, hnodes]

end Assemble

end Network
end GridSetup
