import GridSetup.Proofs.Resolution

/-! # Visits that fail

A visitor may be given a node that the network does not hold, such as one of
another network. Most visitors look up what they need before they change anything,
so a visit that fails leaves their state as it was. The positions of HVDC lines are
the exception: the converters of a node are gone through one by one, and those in
front of the first one that belongs to no line have been met when the visit fails. -/

namespace GridSetup

/-- The fault of a node whose id is not known to the network. -/
def Network.strangerFault? (network : Network) (node : Node) : Option Fault :=
  if node.id ∈ network.nodes.map Node.id then none else some (.unknownNode node.id)

/-- Whether a converter belongs to an HVDC line of the network. -/
def Network.knowsConverter (network : Network) (id : String) : Bool :=
  (network.hvdcLines.flatMap HvdcLine.converters).any fun converter => converter.id == id

/-- The visitor fails for the given causes and for no others, and when it fails it
leaves its state as it was. -/
structure Visitor.Refuses {σ : Type} (visitor : Visitor σ) (network : Network)
    (cause : Node → σ → Option Fault) : Prop where
  fault_eq : ∀ node state, (visitor network node state).fault = cause node state
  kept : ∀ node state, (visitor network node state).fault ≠ none →
    (visitor network node state).state = state

theorem Visitor.Refuses.of_never {σ : Type} {visitor : Visitor σ} {network : Network}
    (h : ∀ node state, (visitor network node state).fault = none) :
    visitor.Refuses network fun _ _ => none :=
  ⟨h, fun node state hfault => absurd (h node state) hfault⟩

/-- The node with the converters in front of the first one that belongs to no line
of the network. -/
def Node.upToStranger (network : Network) (node : Node) : Node :=
  { node with converters := node.converters.takeWhile network.knowsConverter }

namespace Network.Coherent

variable {network : Network}

theorem node_eq (coherent : network.Coherent) (node : Node) :
    (∃ own ∈ network.nodes, own.id = node.id ∧ network.node node.id = .ok own ∧
      network.strangerFault? node = none) ∨
    network.node node.id = .error (.unknownNode node.id) ∧
      network.strangerFault? node = some (.unknownNode node.id) := by
  rw [strangerFault?]
  split
  · rename_i hmem
    obtain ⟨own, hown, hid⟩ := List.mem_map.mp hmem
    exact .inl ⟨own, hown, hid, hid ▸ coherent.node_of_mem hown, rfl⟩
  · rename_i hmem
    exact .inr ⟨node_eq_error hmem, rfl⟩

theorem mainComponent_refuses (coherent : network.Coherent) :
    MainComponent.visitor.Refuses network fun node state =>
      if node.id ∈ state.marked then none else network.strangerFault? node where
  fault_eq node state := by
    rw [MainComponent.visitor]
    split
    · rfl
    rcases coherent.node_eq node with ⟨own, hown, hid, -, hnone⟩ | ⟨herror, hsome⟩
    · obtain ⟨component, hcomponent, -⟩ := coherent.reachableNodes_exact hown
      rw [← hid, hcomponent, hnone]
    · rw [reachableNodes, herror, hsome]
      rfl
  kept node state h := by
    revert h
    rw [MainComponent.visitor]
    split
    · exact fun _ => rfl
    split
    · exact fun _ => rfl
    · exact fun h => absurd rfl h

theorem slack_refuses (coherent : network.Coherent) :
    SlackCandidate.visitor.Refuses network fun node _ => network.strangerFault? node where
  fault_eq node state := by
    rw [SlackCandidate.visitor, neighborCount]
    rcases coherent.node_eq node with ⟨own, hown, hid, -, hnone⟩ | ⟨herror, hsome⟩
    · obtain ⟨others, hothers, -⟩ := coherent.neighbors_exact hown
      rw [← hid, hothers, hnone]
      rfl
    · rw [neighbors, herror, hsome]
      rfl
  kept node state h := by
    revert h
    rw [SlackCandidate.visitor]
    split
    · exact fun _ => rfl
    · exact fun h => absurd rfl h

theorem generation_refuses (coherent : network.Coherent) (unlimited : Bool) :
    (Generation.visitor unlimited).Refuses network fun node _ =>
      if Generation.isSource node then network.strangerFault? node else none where
  fault_eq node state := by
    rw [Generation.visitor]
    cases Generation.isSource node with
    | false => rfl
    | true =>
      rcases coherent.node_eq node with ⟨own, hown, hid, -, hnone⟩ | ⟨herror, hsome⟩
      · obtain ⟨search, hsearch⟩ := coherent.findThroughClosedSwitches_isOk hown
          fun _ other => Generation.isSource other
        rw [← hid, hsearch, hnone]
        rfl
      · rw [findThroughClosedSwitches, closedSwitchGroup, herror, hsome]
        rfl
  kept node state h := by
    revert h
    rw [Generation.visitor]
    split
    · exact fun _ => rfl
    split
    · exact fun _ => rfl
    · exact fun h => absurd rfl h

theorem loads_refuses (threshold : Float) :
    (LoadDefinition.visitor threshold).Refuses network fun _ _ => none :=
  .of_never fun node => loads_succeedsOn [node] threshold node (List.mem_singleton_self node)

/-! ## Converters met before the failure -/

/-- A converter that no line has is not found. -/
theorem converter_eq (coherent : network.Coherent) (id : String) :
    (∃ line side, network.hvdcLineOfConverter id = .ok (line, side)) ∧
        network.knowsConverter id = true ∨
      network.hvdcLineOfConverter id = .error (.unknownElement .converter id) ∧
        network.knowsConverter id = false := by
  have hknows : network.knowsConverter id = true ↔
      ∃ line side, network.hvdcLineOfConverter id = .ok (line, side) := by
    simp only [knowsConverter, List.any_flatMap, HvdcLine.converters_eq, List.any_map,
      List.any_eq_true, Function.comp_apply, beq_iff_eq, coherent.hvdcLineOfConverter_eq_ok_iff]
    refine ⟨fun hgiven => ?_, fun hgiven => ?_⟩
    · obtain ⟨line, hl, side, -, hid⟩ := hgiven
      exact ⟨line, side, hl, hid⟩
    · obtain ⟨line, side, hl, hid⟩ := hgiven
      exact ⟨line, hl, side, by cases side <;> simp, hid⟩
  cases hfound : network.hvdcLineOfConverter id with
  | ok found =>
    have hok : ∃ line side, network.hvdcLineOfConverter id = .ok (line, side) :=
      ⟨found.1, found.2, hfound⟩
    rw [← hfound]
    exact .inl ⟨hok, hknows.mpr hok⟩
  | error fault =>
    obtain ⟨rfl, -⟩ := coherent.hvdcLineOfConverter_eq_error hfound
    refine .inr ⟨rfl, Bool.eq_false_iff.mpr fun h => ?_⟩
    obtain ⟨line, side, hok⟩ := hknows.mp h
    rw [hfound] at hok
    cases hok

/-- The converters in front of the first unknown one are met, and it is the one
that a failure names. -/
theorem meetAll_exact (coherent : network.Coherent) (converters : List String)
    (state : Std.ExtTreeMap String HvdcDefinition) :
    (HvdcDefinition.meetAll network converters state).fault =
        (converters.find? fun id => !network.knowsConverter id).map
          (Fault.unknownElement .converter) ∧
      (HvdcDefinition.meetAll network (converters.takeWhile network.knowsConverter) state).fault =
        none ∧
      (HvdcDefinition.meetAll network converters state).state =
        (HvdcDefinition.meetAll network
          (converters.takeWhile network.knowsConverter) state).state := by
  induction converters generalizing state with
  | nil => exact ⟨rfl, rfl, rfl⟩
  | cons id rest ih =>
    rcases coherent.converter_eq id with ⟨⟨line, side, hok⟩, hknown⟩ | ⟨herror, hunknown⟩
    · rw [List.find?_cons_of_neg (by simp [hknown]), List.takeWhile_cons_of_pos hknown]
      simp only [HvdcDefinition.meetAll, hok]
      exact ih _
    · rw [List.find?_cons_of_pos (by simp [hunknown]),
        List.takeWhile_cons_of_neg (by simp [hunknown])]
      simp [HvdcDefinition.meetAll, herror]

end Network.Coherent

/-- Whatever node is shown to a visitor, of the network or not, and in whatever
state: the visitors of the main component and of the slack node, and that of
generators on a node that has some, fail on a node of unknown id only, and those of
loads, dynamic models and shunts never. All of these leave their state as it was when
they fail. A visit of HVDC lines fails at the first converter that belongs to no line,
and has then done what a visit of the node without the converters from there on does. -/
theorem failed_visit_exact {network : Network} (built : network.IsBuilt) :
    (MainComponent.visitor.Refuses network fun node state =>
      if node.id ∈ state.marked then none else network.strangerFault? node) ∧
    (SlackCandidate.visitor.Refuses network fun node _ => network.strangerFault? node) ∧
    (∀ unlimited, (Generation.visitor unlimited).Refuses network fun node _ =>
      if Generation.isSource node then network.strangerFault? node else none) ∧
    (∀ threshold, (LoadDefinition.visitor threshold).Refuses network fun _ _ => none) ∧
    (DynamicModelSurvey.visitor.Refuses network fun _ _ => none) ∧
    (shuntCountVisitor.Refuses network fun _ _ => none) ∧
    ∀ node state,
      (HvdcDefinition.visitor network node state).fault =
        (node.converters.find? fun id => !network.knowsConverter id).map
          (Fault.unknownElement .converter) ∧
      (HvdcDefinition.visitor network (node.upToStranger network) state).fault = none ∧
      (HvdcDefinition.visitor network node state).state =
        (HvdcDefinition.visitor network (node.upToStranger network) state).state := by
  have coherent := built.coherent
  exact ⟨coherent.mainComponent_refuses, coherent.slack_refuses, coherent.generation_refuses,
    Network.Coherent.loads_refuses, .of_never fun _ _ => rfl, .of_never fun _ _ => rfl,
    fun node => coherent.meetAll_exact node.converters⟩

/-! ## A node from abroad

An HVDC line between two converters on one node, of which only the first has the id
of a converter in the network of two islands. -/

namespace Abroad

def nodes : List Node :=
  [{ id := "Z", voltageLevel := "V9", nominalVoltage := 400 }]

def hvdcLines : List HvdcLine :=
  [{ id := "X", type := .lcc, first := { id := "AD1", bus := "Z" },
     second := { id := "X2", bus := "Z" } }]

def network : Network :=
  .assemble nodes [] hvdcLines

theorem build_network : Network.build nodes [] hvdcLines = .ok network :=
  Network.build_eq nodes [] hvdcLines

/-- The one node, as it is registered. -/
def node : Node :=
  { id := "Z", voltageLevel := "V9", nominalVoltage := 400, converters := ["AD1", "X2"] }

end Abroad

/-- The state kept by a failed visit is that after the known converters. -/
theorem failed_visit_exact_abroad :
    TwoIslands.network.IsBuilt ∧
    (HvdcDefinition.visitor TwoIslands.network Abroad.node ∅).state =
      (HvdcDefinition.visitor TwoIslands.network
        { Abroad.node with converters := ["AD1"] } ∅).state :=
  ⟨TwoIslands.network_isBuilt,
    ((failed_visit_exact TwoIslands.network_isBuilt).2.2.2.2.2.2 Abroad.node ∅).2.2⟩

/-- A failed visit of HVDC lines may leave a line behind. -/
theorem failed_visit_leaves_line :
    TwoIslands.network.IsBuilt ∧ Abroad.network.IsBuilt ∧ Abroad.network.nodes = [Abroad.node] ∧
    (HvdcDefinition.visitor TwoIslands.network Abroad.node ∅).fault =
      some (.unknownElement .converter "X2") ∧
    (HvdcDefinition.visitor TwoIslands.network Abroad.node ∅).state ≠ ∅ := by
  refine ⟨TwoIslands.network_isBuilt, ⟨_, _, _, Abroad.build_network⟩, rfl, rfl, fun h => ?_⟩
  exact absurd (congrArg Std.ExtTreeMap.size h) (by decide +kernel)

end GridSetup
