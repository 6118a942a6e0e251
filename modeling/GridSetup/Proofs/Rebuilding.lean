import GridSetup.Network.Stage
import GridSetup.Proofs.Coherence

/-! # Rebuilding does not depend on history

Nodes that come out of a network carry the registrations they got there. No
build reads them: it gives what it would give for nodes made anew with the same
equipment. So a series of stages, each of which goes on from the last network
that could be built, comes to the same as if no node had ever been in a network. -/

namespace GridSetup

/-! ## Nodes made anew -/

namespace Node

@[simp] theorem unregistered_id (node : Node) : node.unregistered.id = node.id := rfl

/-- A new node of the same id, voltage level and voltage, with nothing attached. -/
def bare (node : Node) : Node where
  id := node.id
  voltageLevel := node.voltageLevel
  nominalVoltage := node.nominalVoltage

/-- The node made anew, its equipment attached piece by piece to a new node. -/
def anew (node : Node) : Node :=
  node.loads.foldl withLoad <| node.generators.foldl withGenerator <|
    node.bare.withShunts node.shunts

theorem foldl_withGenerator (generators : List Generator) (node : Node) :
    generators.foldl withGenerator node =
      { node with
        generators := node.generators ++
          generators.map fun generator => { generator with nodeId := node.id }
        generators_attached :=
          List.forall_mem_append.mpr ⟨node.generators_attached, by simp⟩ } := by
  induction generators generalizing node with
  | nil => simp
  | cons generator rest ih =>
    rw [List.foldl_cons, ih (node.withGenerator generator)]
    simp [withGenerator]

theorem foldl_withLoad (loads : List Load) (node : Node) :
    loads.foldl withLoad node =
      { node with
        loads := node.loads ++ loads.map fun load => { load with nodeId := node.id }
        loads_attached := List.forall_mem_append.mpr ⟨node.loads_attached, by simp⟩ } := by
  induction loads generalizing node with
  | nil => simp
  | cons load rest ih =>
    rw [List.foldl_cons, ih (node.withLoad load)]
    simp [withLoad]

theorem map_generators_attached (node : Node) :
    (node.generators.map fun generator => { generator with nodeId := node.id }) =
      node.generators := by
  refine (List.map_congr_left fun generator hg => ?_).trans (List.map_id node.generators)
  rw [← node.generators_attached generator hg]
  rfl

theorem map_loads_attached (node : Node) :
    (node.loads.map fun load => { load with nodeId := node.id }) = node.loads := by
  refine (List.map_congr_left fun load hl => ?_).trans (List.map_id node.loads)
  rw [← node.loads_attached load hl]
  rfl

/-- Nothing but the registrations is lost by making a node anew. -/
theorem anew_eq_unregistered (node : Node) : node.anew = node.unregistered := by
  rw [anew, foldl_withGenerator, foldl_withLoad]
  simp [bare, withShunts, unregistered, map_generators_attached, map_loads_attached]

end Node

/-! ## Builds that ignore registrations -/

theorem firstFault_map {α β ε : Type} (f : α → β) (check : List β → β → Option ε)
    (earlier l : List α) :
    firstFault check (earlier.map f) (l.map f) =
      firstFault (fun earlier x => check (earlier.map f) (f x)) earlier l := by
  induction l generalizing earlier with
  | nil => rfl
  | cons x rest ih =>
    have hnext := ih (earlier ++ [x])
    rw [List.map_append, List.map_singleton] at hnext
    rw [List.map_cons, firstFault, firstFault, hnext]

namespace Network

theorem hasNode_unregistered (nodes : List Node) :
    hasNode (nodes.map Node.unregistered) = hasNode nodes := by
  funext id
  rw [hasNode, List.any_map]
  rfl

open Inspection in
theorem inspect_unregistered (nodes : List Node) (branches : List Branch)
    (hvdcLines : List HvdcLine) :
    inspect (nodes.map Node.unregistered) branches hvdcLines =
      inspect nodes branches hvdcLines := by
  have hnode : (fun earlier node => nodeFault? (earlier.map Node.unregistered) node.unregistered) =
      nodeFault? := by
    funext earlier node
    rw [nodeFault?, hasNode_unregistered, List.flatMap_map]
    rfl
  have hnodes := firstFault_map Node.unregistered nodeFault? [] nodes
  rw [List.map_nil, hnode] at hnodes
  have hend : endFault? (nodes.map Node.unregistered) = endFault? nodes := by
    funext branch earlier id
    rw [endFault?, endFault?, hasNode_unregistered]
  have hconverter : converterFault? (nodes.map Node.unregistered) = converterFault? nodes := by
    funext lineId earlier converter
    rw [converterFault?, converterFault?, hasNode_unregistered]
  have hregulation : regulationFault? (nodes.map Node.unregistered) = regulationFault? nodes := by
    funext generator
    rw [regulationFault?, regulationFault?, hasNode_unregistered]
  have hbranch : branchFault? (nodes.map Node.unregistered) = branchFault? nodes := by
    funext earlier branch
    rw [branchFault?, branchFault?, hend]
  have hline : hvdcLineFault? (nodes.map Node.unregistered) = hvdcLineFault? nodes := by
    funext earlier line
    rw [hvdcLineFault?, hvdcLineFault?, hconverter]
  rw [inspect, inspect, hnodes, hbranch, hline, hregulation, List.flatMap_map]
  rfl

theorem assemble_unregistered (nodes : List Node) (branches : List Branch)
    (hvdcLines : List HvdcLine) :
    assemble (nodes.map Node.unregistered) branches hvdcLines =
      assemble nodes branches hvdcLines := by
  rw [assemble, assemble, List.foldl_map, List.flatMap_map]
  rfl

theorem build_unregistered (nodes : List Node) (branches : List Branch)
    (hvdcLines : List HvdcLine) :
    build (nodes.map Node.unregistered) branches hvdcLines = build nodes branches hvdcLines := by
  rw [build_eq, build_eq, inspect_unregistered, assemble_unregistered]

/-- But for their registrations, the nodes of a network are those it was built
from. -/
theorem build_nodes_unregistered {nodes : List Node} {branches : List Branch}
    {hvdcLines : List HvdcLine} {network : Network}
    (h : build nodes branches hvdcLines = .ok network) :
    network.nodes.map Node.unregistered = nodes.map Node.unregistered := by
  obtain ⟨-, rfl⟩ := build_eq_ok_iff.mp h
  rw [assemble_eq, List.map_map]
  rfl

end Network

/-! ## Stages -/

/-- To the equipment of a node is added that of the attachment, which from then on
carries the id of the node. Nothing else is changed. -/
theorem Attachment.attach_eq (attachment : Attachment) (node : Node) :
    attachment.attach node =
      { node with
        shunts := node.shunts ++ attachment.shunts
        generators := node.generators ++
          attachment.generators.map fun generator => { generator with nodeId := node.id }
        loads := node.loads ++ attachment.loads.map fun load => { load with nodeId := node.id }
        generators_attached := List.forall_mem_append.mpr ⟨node.generators_attached, by simp⟩
        loads_attached := List.forall_mem_append.mpr ⟨node.loads_attached, by simp⟩ } := by
  rw [attach, Node.foldl_withGenerator, Node.foldl_withLoad]
  rfl

/-- Only the first node of the named id gets the equipment. -/
theorem Attachment.attachFirst_eq (nodes : List Node) (attachment : Attachment) :
    (attachment.node ∉ nodes.map Node.id ∧ attachFirst nodes attachment = nodes) ∨
      ∃ before node after, nodes = before ++ node :: after ∧ node.id = attachment.node ∧
        attachment.node ∉ before.map Node.id ∧
        attachFirst nodes attachment = before ++ attachment.attach node :: after := by
  induction nodes with
  | nil => exact .inl ⟨List.not_mem_nil, rfl⟩
  | cons node rest ih =>
    rw [attachFirst]
    by_cases hid : node.id = attachment.node
    · rw [if_pos hid]
      exact .inr ⟨[], node, rest, rfl, hid, List.not_mem_nil, rfl⟩
    rw [if_neg hid]
    rcases ih with ⟨hnone, hsame⟩ | ⟨before, first, after, rfl, hfirst, hbefore, hrest⟩
    · exact .inl ⟨List.not_mem_cons_of_ne_of_not_mem (Ne.symm hid) hnone, by rw [hsame]⟩
    · exact .inr ⟨node :: before, first, after, rfl, hfirst,
        List.not_mem_cons_of_ne_of_not_mem (Ne.symm hid) hbefore, by rw [hrest]; rfl⟩

theorem Attachment.attach_unregistered (attachment : Attachment) (node : Node) :
    attachment.attach node.unregistered = (attachment.attach node).unregistered := by
  rw [attach_eq, attach_eq]
  rfl

theorem Attachment.attachFirst_unregistered (nodes : List Node) (attachment : Attachment) :
    attachFirst (nodes.map Node.unregistered) attachment =
      (attachFirst nodes attachment).map Node.unregistered := by
  induction nodes with
  | nil => rfl
  | cons node rest ih =>
    rw [List.map_cons, attachFirst, attachFirst, ih, Node.unregistered_id]
    by_cases hid : node.id = attachment.node
    · rw [if_pos hid, if_pos hid, List.map_cons, attach_unregistered]
    · rw [if_neg hid, if_neg hid, List.map_cons]

namespace Stage

theorem nodesFrom_unregistered (stage : Stage) (previous : List Node) :
    (stage.nodesFrom previous).map Node.unregistered =
      { stage with nodes := stage.nodes.map Node.unregistered }.nodesFrom
        (previous.map Node.unregistered) := by
  have hattach : ∀ nodes : List Node,
      stage.attachments.foldl Attachment.attachFirst (nodes.map Node.unregistered) =
        (stage.attachments.foldl Attachment.attachFirst nodes).map Node.unregistered :=
    fun nodes => List.foldl_hom (List.map Node.unregistered) Attachment.attachFirst_unregistered
  rw [nodesFrom, nodesFrom, ← hattach, List.map_append]
  cases stage.keep with
  | none => rfl
  | some ids =>
    dsimp only
    rw [List.filter_map]
    rfl

/-- The outcomes of stages that never hand on a node of a network: the nodes of a
stage are made anew, and those of the last one that succeeded are handed on as
they were given. -/
def runAnew (given : List Node) : List Stage → List (Except Fault Network)
  | [] => []
  | stage :: rest =>
    let nodes := (stage.nodesFrom given).map Node.anew
    match Network.build nodes stage.branches stage.hvdcLines with
    | .ok network => .ok network :: runAnew nodes rest
    | .error fault => .error fault :: runAnew given rest

/-- Stages that start from the same nodes, but for the registrations, have the same
outcomes. -/
theorem runAll_eq_runAnew (stages : List Stage) : ∀ {previous given : List Node},
    previous.map Node.unregistered = given.map Node.unregistered →
      runAll previous stages = runAnew given stages := by
  induction stages with
  | nil =>
    intro _ _ _
    rfl
  | cons stage rest ih =>
    intro previous given halike
    have hnodes : (stage.nodesFrom given).map Node.anew =
        (stage.nodesFrom previous).map Node.unregistered := by
      rw [funext Node.anew_eq_unregistered, nodesFrom_unregistered, nodesFrom_unregistered, halike]
    rw [runAll, runAnew, hnodes, Network.build_unregistered, ← run]
    cases hrun : stage.run previous with
    | error fault => exact congrArg _ (ih halike)
    | ok network =>
      refine congrArg _ (ih ?_)
      rw [Network.build_nodes_unregistered hrun, List.map_map]
      rfl

end Stage

/-- A build does not depend on what its nodes went through: it comes to the same, be
it a fault or a network, if every node is made anew with the same equipment. So a
network built again from its own nodes is the same network, and stages come to
the same as if no node were ever handed on from one network to the next. A stage
that fails hands on the nodes it started from. -/
theorem rebuilding_history_independent :
    (∀ nodes branches hvdcLines, Network.build nodes branches hvdcLines =
      Network.build (nodes.map Node.anew) branches hvdcLines) ∧
    (∀ nodes branches hvdcLines network, Network.build nodes branches hvdcLines = .ok network →
      network.nodes.map Node.anew = nodes.map Node.anew ∧
      Network.build network.nodes branches hvdcLines = .ok network) ∧
    (∀ previous stages, Stage.runAll previous stages =
      Stage.runAnew (previous.map Node.anew) stages) ∧
    ∀ previous stage fault rest, Stage.run stage previous = .error fault →
      Stage.runAll previous (stage :: rest) = .error fault :: Stage.runAll previous rest := by
  rw [funext Node.anew_eq_unregistered]
  refine ⟨fun nodes branches hvdcLines => ?_, fun nodes branches hvdcLines network h => ?_,
    fun previous stages => ?_, fun previous stage fault rest h => ?_⟩
  · rw [Network.build_unregistered]
  · have halike := Network.build_nodes_unregistered h
    refine ⟨halike, ?_⟩
    rw [← Network.build_unregistered, halike, Network.build_unregistered, h]
  · refine Stage.runAll_eq_runAnew stages ?_
    rw [List.map_map]
    rfl
  · rw [Stage.runAll, h]

namespace TwoIslands

/-- After the two islands a line is given that leads nowhere, then one of the islands
with more equipment and a line to a new node. -/
def stages : List Stage :=
  [{ nodes, branches, hvdcLines },
    { branches := [.line { id := "AX", first := "A", second := "X" }] },
    { keep := some ["A", "B"]
      nodes := [{ id := "E", voltageLevel := "V1", nominalVoltage := 400 }]
      attachments := [{ node := "B", shunts := [{ id := "T" }], loads := [{ id := "M" }] }]
      branches := [.line { id := "BE", first := "B", second := "E" }] }]

end TwoIslands

/-- Nothing is left in the third stage of the branches and converters of the first,
while the equipment is kept and what is attached to `B` is added. -/
theorem rebuilding_history_independent_twoIslands :
    Stage.runAll [] TwoIslands.stages = Stage.runAnew [] TwoIslands.stages ∧
    Network.build TwoIslands.network.nodes TwoIslands.branches TwoIslands.hvdcLines =
      .ok TwoIslands.network ∧
    Stage.runAll TwoIslands.network.nodes TwoIslands.stages.tail =
      .error (.missingEnd .line "AX" "X") ::
        Stage.runAll TwoIslands.network.nodes TwoIslands.stages.tail.tail ∧
    (Stage.runAll [] TwoIslands.stages).map (fun outcome => outcome.map fun network =>
      network.nodes.map fun node => (node.id, node.lines, node.switches, node.converters)) =
        [.ok [("A", ["AB"], [], ["AD1"]), ("B", ["AB"], ["BC"], []), ("C", [], ["BC"], []),
            ("D", [], [], ["AD2"])],
          .error (.missingEnd .line "AX" "X"),
          .ok [("A", [], [], []), ("B", ["BE"], [], []), ("E", ["BE"], [], [])]] ∧
    (Stage.runAll [] TwoIslands.stages).map (fun outcome => outcome.map fun network =>
      network.nodes.map fun node => (node.id, node.equipment, node.loads)) =
        [.ok [("A", [(.shunt, "S"), (.generator, "G")], []), ("B", [], []), ("C", [], []),
            ("D", [(.load, "L")], [{ id := "L", nodeId := "D" }])],
          .error (.missingEnd .line "AX" "X"),
          .ok [("A", [(.shunt, "S"), (.generator, "G")], []),
            ("B", [(.shunt, "T"), (.load, "M")], [{ id := "M", nodeId := "B" }]),
            ("E", [], [])]] := by
  obtain ⟨-, hown, hstages, hfailed⟩ := rebuilding_history_independent
  exact ⟨hstages [] TwoIslands.stages, (hown _ _ _ _ TwoIslands.build_network).2,
    hfailed _ _ _ _ rfl, rfl, rfl⟩

end GridSetup
