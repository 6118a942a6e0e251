import GridSetup.Proofs.Registration

/-! # Building comes to inspecting and assembling

A network that is being built knows of the parts before a part exactly what the
inspection knows of them: which nodes there are, and which ids of equipment,
branches, HVDC lines and converters are taken. So each step of the building
gives the verdict of one check, and the building as a whole gives that of the
inspection. -/

namespace GridSetup

/-- A value that is handed out unless there is a fault. -/
def unlessFault {α ε : Type} (fault? : Option ε) (value : α) : Except ε α :=
  match fault? with
  | some fault => .error fault
  | none => .ok value

/-- Two checks in a row report the first fault of both. -/
theorem unlessFault_bind {α β ε : Type} {fault? other? : Option ε} {x : α}
    {next : α → Except ε β} {y : β} (h : next x = unlessFault other? y) :
    (unlessFault fault? x >>= next) = unlessFault (fault?.or other?) y := by
  cases fault? with
  | some fault => rfl
  | none => exact h

/-- Steps that each give the verdict of a check, knowing what it knows, together
give the first fault of a list. -/
theorem foldlM_eq_unlessFault {σ α ε : Type} {P : σ → List α → Prop}
    {step : σ → α → Except ε σ} {check : List α → α → Option ε} {add : σ → α → σ}
    (hstep : ∀ state earlier x, P state earlier →
      step state x = unlessFault (check earlier x) (add state x))
    (hadd : ∀ state earlier x, P state earlier → P (add state x) (earlier ++ [x]))
    (l : List α) : ∀ state earlier, P state earlier →
      l.foldlM step state = unlessFault (firstFault check earlier l) (l.foldl add state) := by
  induction l with
  | nil => exact fun _ _ _ => rfl
  | cons x rest ih =>
    intro state earlier knows
    rw [List.foldlM_cons, hstep state earlier x knows, firstFault, List.foldl_cons]
    exact unlessFault_bind (ih _ _ (hadd state earlier x knows))

/-- Steps that gather what they pass know all that came before. -/
theorem foldlM_gather {α ε : Type} {step : List α → α → Except ε (List α)}
    {check : List α → α → Option ε}
    (hstep : ∀ earlier x, step earlier x = unlessFault (check earlier x) (earlier ++ [x]))
    (l earlier : List α) :
    l.foldlM step earlier = unlessFault (firstFault check earlier l) (earlier ++ l) := by
  have hfold : l.foldl (fun earlier x => earlier ++ [x]) earlier = earlier ++ l := by
    induction l generalizing earlier with
    | nil => simp
    | cons x rest ih => rw [List.foldl_cons, ih, List.append_assoc, List.singleton_append]
  rw [← hfold]
  refine foldlM_eq_unlessFault (P := Eq) (fun state earlier x knows => ?_)
    (fun _ _ _ knows => by rw [knows]) l earlier earlier rfl
  rw [knows]
  exact hstep earlier x

/-! ## Nodes and their equipment -/

theorem hasNode_map {f : Node → Node} (h : ∀ node, (f node).id = node.id) (nodes : List Node) :
    hasNode (nodes.map f) = hasNode nodes := by
  funext id
  simp only [hasNode, List.any_map, Function.comp_def, h]

theorem Node.updateAt_hasNode (id : String) {change : Node → Node}
    (h : ∀ node, (change node).id = node.id) (nodes : List Node) :
    hasNode (updateAt id change nodes) = hasNode nodes := by
  refine hasNode_map (fun node => ?_) nodes
  split
  · exact h node
  · rfl

namespace Intake

/-- The intake knows the nodes before a node, and their equipment. -/
structure Knows (intake : Intake) (earlier : List Node) : Prop where
  nodes : hasNode intake.network.nodes = hasNode earlier
  equipment : intake.equipment = earlier.flatMap Node.equipment

/-- Takes in a node that was checked. -/
def take (intake : Intake) (node : Node) : Intake where
  network := intake.network.addNode node
  equipment := intake.equipment ++ node.equipment

open Inspection in
theorem addNode_eq (intake : Intake) (earlier : List Node) (node : Node)
    (knows : intake.Knows earlier) :
    intake.addNode node = unlessFault (nodeFault? earlier node) (intake.take node) := by
  have hnote : node.equipment.foldlM note intake.equipment =
      unlessFault (firstFault equipmentFault? intake.equipment node.equipment)
        (intake.equipment ++ node.equipment) := by
    refine foldlM_gather (fun earlier item => ?_) _ _
    simp only [note, equipmentFault?, List.contains_iff_mem]
    split <;> rfl
  rw [addNode, nodeFault?, knows.nodes, ← knows.equipment, hnote]
  split
  · rfl
  · cases firstFault equipmentFault? intake.equipment node.equipment <;> rfl

theorem take_knows (intake : Intake) (earlier : List Node) (node : Node)
    (knows : intake.Knows earlier) : (intake.take node).Knows (earlier ++ [node]) where
  nodes := by
    funext id
    have hearlier := congrFun knows.nodes id
    simp only [hasNode] at hearlier
    simp [hasNode, take, Network.addNode, hearlier, Node.unregistered]
  equipment := by simp [take, knows.equipment]

theorem foldl_take (nodes : List Node) (intake : Intake) :
    (nodes.foldl take intake).network = nodes.foldl Network.addNode intake.network := by
  induction nodes generalizing intake with
  | nil => rfl
  | cons node rest ih => exact ih (intake.take node)

end Intake

namespace Network

/-! ## Branches -/

/-- The network has these nodes, and it knows the branches before a branch. -/
structure KnowsBranches (nodes : List Node) (network : Network) (earlier : List Branch) :
    Prop where
  nodes : hasNode network.nodes = hasNode nodes
  branches : ∀ kind id, network.hasBranch kind id =
    earlier.any fun other => other.kind == kind && other.id == id

section Branches

variable {nodes : List Node}

open Inspection in
theorem insertBranch_eq (network : Network) (earlier : List Branch) (branch : Branch)
    (knows : network.KnowsBranches nodes earlier) :
    network.insertBranch branch =
      unlessFault (branchFault? nodes earlier branch) (network.addBranch branch) := by
  have hends : branch.ends.foldlM (network.checkEnd branch) [] =
      unlessFault (firstFault (endFault? nodes branch) [] branch.ends) branch.ends := by
    refine foldlM_gather (fun earlier id => ?_) branch.ends []
    rw [checkEnd, endFault?, knows.nodes]
    split
    · rfl
    · split <;> rfl
  rw [insertBranch, branchFault?, knows.branches, hends]
  split
  · rfl
  · cases firstFault (endFault? nodes branch) [] branch.ends <;> rfl

theorem addBranch_knows (network : Network) (earlier : List Branch) (branch : Branch)
    (knows : network.KnowsBranches nodes earlier) :
    (network.addBranch branch).KnowsBranches nodes (earlier ++ [branch]) where
  nodes := by
    rw [addBranch_eq, ← knows.nodes]
    exact hasNode_map (fun node => by cases branch <;> rfl) network.nodes
  branches kind id := by
    have hearlier := knows.branches kind id
    rw [List.any_append, ← hearlier, addBranch_eq]
    cases branch <;> cases kind <;>
      simp [hasBranch, Branch.line?, Branch.transformer?, Branch.switch?, Branch.kind, Branch.id]

end Branches

/-! ## HVDC lines -/

/-- The network has these nodes, and it knows the converters before a converter. -/
structure KnowsConverters (nodes : List Node) (network : Network)
    (earlier : List Converter) : Prop where
  nodes : hasNode network.nodes = hasNode nodes
  converters : ∀ id, network.converters.contains id = earlier.any fun other => other.id == id

/-- It also knows the HVDC lines before a line. -/
structure KnowsHvdcLines (nodes : List Node) (network : Network) (earlier : List HvdcLine) :
    Prop extends KnowsConverters nodes network (earlier.flatMap HvdcLine.converters) where
  hvdcLines : ∀ id, (network.hvdcLines.any fun other => other.id == id) =
    earlier.any fun other => other.id == id

section HvdcLines

variable {nodes : List Node}

open Inspection in
theorem insertConverter_eq (lineId : String) {network : Network} {earlier : List Converter}
    (knows : network.KnowsConverters nodes earlier) (entry : Side × Converter) :
    insertConverter lineId network entry =
      unlessFault (converterFault? nodes lineId earlier entry.2)
        (addConverter lineId network entry) := by
  rw [insertConverter, converterFault?, knows.converters, knows.nodes]
  split
  · rfl
  · split <;> rfl

theorem addConverter_knows (lineId : String) {network : Network} {earlier : List Converter}
    (knows : network.KnowsConverters nodes earlier) (entry : Side × Converter) :
    (addConverter lineId network entry).KnowsConverters nodes (earlier ++ [entry.2]) where
  nodes := by
    rw [← knows.nodes]
    exact Node.updateAt_hasNode entry.2.bus
      (fun node => show (node.registerConverter entry.2).id = node.id from rfl) network.nodes
  converters id := by
    rw [List.any_append, ← knows.converters, addConverter, Std.ExtTreeMap.contains_insert,
      Bool.or_comm, List.any_cons, List.any_nil, Bool.or_false]
    congr 1
    rw [Bool.eq_iff_iff, beq_iff_eq, beq_iff_eq, Std.LawfulEqCmp.compare_eq_iff_eq]

open Inspection in
theorem insertHvdcLine_eq (network : Network) (earlier : List HvdcLine) (line : HvdcLine)
    (knows : network.KnowsHvdcLines nodes earlier) :
    network.insertHvdcLine line =
      unlessFault (hvdcLineFault? nodes earlier line) (network.addHvdcLine line) := by
  have hfirst := knows.toKnowsConverters
  have hsecond := addConverter_knows line.id hfirst (.first, line.first)
  rw [insertHvdcLine, hvdcLineFault?, knows.hvdcLines]
  split
  · rfl
  · simp only [HvdcLine.sides, HvdcLine.converters, List.foldlM_cons, List.foldlM_nil,
      firstFault, Option.or_none]
    rw [insertConverter_eq line.id hfirst]
    cases converterFault? nodes line.id (earlier.flatMap HvdcLine.converters) line.first with
    | some fault => rfl
    | none =>
      change (insertConverter line.id _ _ >>= _) >>= _ = _
      rw [insertConverter_eq line.id hsecond]
      cases converterFault? nodes line.id
        (earlier.flatMap HvdcLine.converters ++ [line.first]) line.second <;> rfl

theorem addHvdcLine_knows (network : Network) (earlier : List HvdcLine) (line : HvdcLine)
    (knows : network.KnowsHvdcLines nodes earlier) :
    (network.addHvdcLine line).KnowsHvdcLines nodes (earlier ++ [line]) := by
  have hfirst := addConverter_knows line.id knows.toKnowsConverters (.first, line.first)
  have hsecond := addConverter_knows line.id hfirst (.second, line.second)
  refine ⟨?_, fun id => ?_⟩
  · rw [List.flatMap_append, List.flatMap_singleton, HvdcLine.converters,
      ← List.singleton_append, ← List.append_assoc]
    exact ⟨hsecond.nodes, hsecond.converters⟩
  · rw [List.any_append, ← knows.hvdcLines]
    simp [addHvdcLine, HvdcLine.sides, addConverter]

end HvdcLines

/-! ## Regulators -/

theorem firstFault_eq_findSome? {α ε : Type} (check : α → Option ε) (earlier l : List α) :
    firstFault (fun _ => check) earlier l = l.findSome? check := by
  induction l generalizing earlier with
  | nil => rfl
  | cons x rest ih =>
    rw [firstFault, ih, List.findSome?_cons]
    cases check x <;> rfl

open Inspection in
theorem foldlM_insertRegulator {nodes : List Node} (generators : List Generator)
    {network : Network} (knows : hasNode network.nodes = hasNode nodes) :
    generators.foldlM insertRegulator network =
      unlessFault (generators.findSome? (regulationFault? nodes))
        (generators.foldl countRegulator network) := by
  rw [← firstFault_eq_findSome? _ []]
  refine foldlM_eq_unlessFault (P := fun network _ => hasNode network.nodes = hasNode nodes)
    (fun network _ generator knows => ?_) (fun _ _ _ knows => knows) generators network [] knows
  rw [insertRegulator, regulationFault?, knows]
  split <;> rfl

/-! ## All parts -/

section Parts

variable (nodes : List Node) (branches : List Branch) (hvdcLines : List HvdcLine)

theorem addNodes_hasNode : hasNode (nodes.foldl addNode {}).nodes = hasNode nodes := by
  rw [foldl_addNode]
  exact hasNode_map (fun node => show node.unregistered.id = node.id from rfl) nodes

theorem addBranches_hasNode :
    hasNode (branches.foldl addBranch (nodes.foldl addNode {})).nodes = hasNode nodes := by
  rw [foldl_addBranch]
  exact (hasNode_map (fun node => show (node.addBranches branches).id = node.id from rfl) _).trans
    (addNodes_hasNode nodes)

theorem addHvdcLines_hasNode :
    hasNode (hvdcLines.foldl addHvdcLine
      (branches.foldl addBranch (nodes.foldl addNode {}))).nodes = hasNode nodes := by
  rw [foldl_addHvdcLine]
  exact (hasNode_map (fun node => show (node.addConverters _).id = node.id from rfl) _).trans
    (addBranches_hasNode nodes branches)

/-- The generators of the nodes are not changed by what is registered on these. -/
theorem addHvdcLines_generators :
    (hvdcLines.foldl addHvdcLine (branches.foldl addBranch (nodes.foldl addNode {}))).nodes.flatMap
      Node.generators = nodes.flatMap Node.generators := by
  rw [foldl_addHvdcLine, foldl_addBranch, foldl_addNode]
  simp only [List.nil_append, List.flatMap_map]
  rfl

theorem addNodes_knows : (nodes.foldl addNode {}).KnowsBranches nodes [] := by
  refine ⟨addNodes_hasNode nodes, fun kind id => ?_⟩
  rw [foldl_addNode]
  cases kind <;> rfl

theorem addBranches_knows :
    (branches.foldl addBranch (nodes.foldl addNode {})).KnowsHvdcLines nodes [] := by
  refine ⟨⟨addBranches_hasNode nodes branches, fun id => ?_⟩, fun id => ?_⟩
  · rw [foldl_addBranch, foldl_addNode]
    exact Std.ExtTreeMap.contains_empty
  · rw [foldl_addBranch, foldl_addNode]

end Parts

open Inspection in
/-- The network of all parts, if the inspection finds them sound, and otherwise the
first fault that it finds. -/
theorem build_eq (nodes : List Node) (branches : List Branch) (hvdcLines : List HvdcLine) :
    build nodes branches hvdcLines =
      unlessFault (inspect nodes branches hvdcLines) (assemble nodes branches hvdcLines) := by
  have hnodes := foldlM_eq_unlessFault Intake.addNode_eq Intake.take_knows nodes {} [] ⟨rfl, rfl⟩
  have hbranches := foldlM_eq_unlessFault insertBranch_eq addBranch_knows branches _ []
    (addNodes_knows nodes)
  have hlines := foldlM_eq_unlessFault insertHvdcLine_eq addHvdcLine_knows hvdcLines _ []
    (addBranches_knows nodes branches)
  have hregulators := foldlM_insertRegulator (nodes.flatMap Node.generators)
    (addHvdcLines_hasNode nodes branches hvdcLines)
  rw [build, inspect, hnodes]
  refine unlessFault_bind ?_
  rw [Intake.foldl_take, hbranches]
  refine unlessFault_bind ?_
  rw [hlines]
  refine unlessFault_bind ?_
  rw [addHvdcLines_generators, hregulators]
  rfl

end Network
end GridSetup
