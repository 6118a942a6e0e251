import GridSetup.Proofs.Panel
import GridSetup.Proofs.Reach
import GridSetup.Resolution

/-! # Why resolving may fail

Networks of any shape are considered here, also such as no parts build. If one is
not resolved, a look-up that a walk or a visitor made took its error branch. Each
kind of these look-ups has its own case in `FailedLookup`, so a network in which
all of them succeed is resolved. -/

namespace GridSetup

/-- A look-up of a list fails on its first element that is not found. -/
theorem mapM_eq_error {α β ε : Type} {f : α → Except ε β} {l : List α} {e : ε}
    (h : l.mapM f = .error e) :
    ∃ before x after, l = before ++ x :: after ∧ (∀ y ∈ before, ∃ z, f y = .ok z) ∧
      f x = .error e := by
  induction l with
  | nil => cases h
  | cons x rest ih =>
    rw [List.mapM_cons, bind_eq_error_iff] at h
    rcases h with hx | ⟨z, hz, h⟩
    · exact ⟨[], x, rest, rfl, nofun, hx⟩
    rcases (bind_eq_error_iff _ _ _).mp h with hrest | ⟨zs, -, hpure⟩
    · obtain ⟨before, y, after, rfl, hbefore, hy⟩ := ih hrest
      exact ⟨x :: before, y, after, rfl, List.forall_mem_cons.mpr ⟨⟨z, hz⟩, hbefore⟩, hy⟩
    · cases hpure

/-- A walk fails on an element that was on its stack or follows one that did not fail. -/
theorem walk_eq_error {α ε : Type} [BEq α] [LawfulBEq α] {next : α → Except ε (List α)}
    {P : α → Prop} (closed : ∀ x y, P x → Follows next x y → P y) {unseen stack : List α}
    (hstack : ∀ x ∈ stack, P x) {e : ε} (h : walk next unseen stack = .error e) :
    ∃ x, P x ∧ next x = .error e := by
  fun_induction walk next unseen stack with
  | case1 => cases h
  | case2 unseen x rest e' hx =>
    cases h
    exact ⟨x, hstack x List.mem_cons_self, hx⟩
  | case3 unseen x rest candidates hx sifted ih =>
    refine ih (fun y hy => ?_) ?_
    · rcases List.mem_append.mp hy with hy | hy
      · have hfollows := ((mem_pushed_iff hx).mp (List.mem_reverse.mp hy)).1
        exact closed x y (hstack x List.mem_cons_self) hfollows
      · exact hstack y (List.mem_cons_of_mem x hy)
    · cases htail : walk next sifted.2 (sifted.1.reverse ++ rest) with
      | error e' =>
        rw [htail] at h
        cases h
        rfl
      | ok tail =>
        rw [htail] at h
        cases h

namespace Network

/-- A look-up by id that is made of a network on the way took its error branch: that
of a node or of a neighbour, of a switch on a node, of the node at its other end, of
a converter on a node, or of the HVDC line that it is indexed with. -/
inductive FailedLookup (network : Network) : Fault → Prop where
  | node {node : Node} {fault : Fault} (hn : node ∈ network.nodes)
      (failed : network.node node.id = .error fault) : network.FailedLookup fault
  | neighbor {node : Node} {id : String} {fault : Fault} (hn : node ∈ network.nodes)
      (hid : id ∈ network.neighborIds node.id)
      (failed : network.node id = .error fault) : network.FailedLookup fault
  | switch {node : Node} {id : String} {fault : Fault} (hn : node ∈ network.nodes)
      (hid : id ∈ node.switches)
      (failed : network.switch id = .error fault) : network.FailedLookup fault
  | misplacedSwitch {node : Node} {id : String} {switch : Switch} (hn : node ∈ network.nodes)
      (hid : id ∈ node.switches) (found : network.switch id = .ok switch)
      (astray : switch.otherEnd? node.id = none) :
      network.FailedLookup (.misplacedSwitch id node.id)
  | otherEnd {node : Node} {id other : String} {switch : Switch} {fault : Fault}
      (hn : node ∈ network.nodes) (hid : id ∈ node.switches)
      (found : network.switch id = .ok switch) (hother : switch.otherEnd? node.id = some other)
      (failed : network.node other = .error fault) : network.FailedLookup fault
  | converter {node : Node} {id : String} (hn : node ∈ network.nodes)
      (hid : id ∈ node.converters) (missing : network.converters[id]? = none) :
      network.FailedLookup (.unknownElement .converter id)
  | hvdcLine {node : Node} {id lineId : String} {side : Side} {fault : Fault}
      (hn : node ∈ network.nodes) (hid : id ∈ node.converters)
      (found : network.converters[id]? = some (lineId, side))
      (failed : network.hvdcLine lineId = .error fault) : network.FailedLookup fault

/-- The look-ups by id that are made of a network on the way all find something. -/
structure LookupsSucceed (network : Network) : Prop where
  node : ∀ node ∈ network.nodes, network.node node.id = .ok node
  neighbor : ∀ node ∈ network.nodes, ∀ id ∈ network.neighborIds node.id, ∃ other,
    network.node id = .ok other
  switch : ∀ node ∈ network.nodes, ∀ id ∈ node.switches, ∃ switch other far,
    network.switch id = .ok switch ∧ switch.otherEnd? node.id = some other ∧
      network.node other = .ok far
  converter : ∀ node ∈ network.nodes, ∀ id ∈ node.converters, ∃ lineId side line,
    network.converters[id]? = some (lineId, side) ∧ network.hvdcLine lineId = .ok line

variable {network : Network}

theorem LookupsSucceed.not_failedLookup (lookups : network.LookupsSucceed) (fault : Fault) :
    ¬network.FailedLookup fault := by
  intro h
  cases h with
  | node hn failed =>
    rw [lookups.node _ hn] at failed
    cases failed
  | neighbor hn hid failed =>
    obtain ⟨other, hother⟩ := lookups.neighbor _ hn _ hid
    rw [hother] at failed
    cases failed
  | switch hn hid failed =>
    obtain ⟨switch, -, -, hswitch, -⟩ := lookups.switch _ hn _ hid
    rw [hswitch] at failed
    cases failed
  | misplacedSwitch hn hid found astray =>
    obtain ⟨switch, other, -, hswitch, hother, -⟩ := lookups.switch _ hn _ hid
    rw [found] at hswitch
    cases hswitch
    rw [hother] at astray
    cases astray
  | otherEnd hn hid found hother failed =>
    obtain ⟨switch, other, far, hswitch, hother', hfar⟩ := lookups.switch _ hn _ hid
    rw [found] at hswitch
    cases hswitch
    rw [hother] at hother'
    cases hother'
    rw [hfar] at failed
    cases failed
  | converter hn hid missing =>
    obtain ⟨lineId, side, line, hindexed, -⟩ := lookups.converter _ hn _ hid
    rw [hindexed] at missing
    cases missing
  | hvdcLine hn hid found failed =>
    obtain ⟨lineId, side, line, hindexed, hline⟩ := lookups.converter _ hn _ hid
    rw [found] at hindexed
    cases hindexed
    rw [hline] at failed
    cases failed

/-! ## Look-ups -/

theorem mem_of_node_eq_ok {id : String} {node : Node} (h : network.node id = .ok node) :
    node ∈ network.nodes ∧ node.id = id := by
  have hfound := (Fault.orFound_eq_ok_iff _ _ _).mp h
  exact ⟨List.mem_of_find?_eq_some hfound, by simpa using List.find?_some hfound⟩

/-- Nodes found by id are nodes of the network. -/
theorem subset_of_mapM_node {ids : List String} {nodes : List Node}
    (h : ids.mapM network.node = .ok nodes) : nodes ⊆ network.nodes := by
  have hall := forall₂_of_mapM_eq_ok h
  clear h
  induction hall with
  | nil => exact List.nil_subset _
  | cons hnode _ ih => exact List.cons_subset.mpr ⟨(mem_of_node_eq_ok hnode).1, ih⟩

theorem neighborCount_failed {node : Node} (hn : node ∈ network.nodes) {fault : Fault}
    (h : network.neighborCount node.id = .error fault) : network.FailedLookup fault := by
  cases hothers : network.neighbors node.id with
  | ok others =>
    rw [neighborCount, hothers] at h
    cases h
  | error fault' =>
    rw [neighborCount, hothers] at h
    cases h
    rw [neighbors, bind_eq_error_iff] at hothers
    rcases hothers with hnode | ⟨_, -, hrest⟩
    · exact .node hn hnode
    · obtain ⟨before, id, after, hsplit, -, hid⟩ := mapM_eq_error hrest
      exact .neighbor hn (hsplit ▸ List.mem_append_right before List.mem_cons_self) hid

theorem hvdcLineOfConverter_failed {node : Node} (hn : node ∈ network.nodes) {id : String}
    (hid : id ∈ node.converters) {fault : Fault}
    (h : network.hvdcLineOfConverter id = .error fault) : network.FailedLookup fault := by
  rw [hvdcLineOfConverter_eq] at h
  split at h
  · rename_i hmissing
    cases h
    exact .converter hn hid hmissing
  · rename_i lineId side hfound
    cases hline : network.hvdcLine lineId with
    | ok line =>
      rw [hline] at h
      cases h
    | error fault' =>
      rw [hline] at h
      cases h
      exact .hvdcLine hn hid hfound hline

/-! ## Walks -/

/-- The nodes that are found on a walk are nodes of the network, and if one is not
found it is a neighbour of one that is. -/
theorem reachableNodes_failed {start : Node} (hstart : start ∈ network.nodes) {fault : Fault}
    (h : network.reachableNodes start.id = .error fault) : network.FailedLookup fault := by
  rw [reachableNodes, bind_eq_error_iff] at h
  rcases h with hnode | ⟨first, hfirst, h⟩
  · exact .node hstart hnode
  rcases (bind_eq_error_iff _ _ _).mp h with hwalk | ⟨order, horder, h⟩
  · -- the neighbours of an id are read off the links, which cannot fail
    obtain ⟨id, -, hid⟩ := walk_eq_error (P := fun _ => True) (fun _ _ _ _ => trivial)
      (fun _ _ => trivial) hwalk
    cases hid
  obtain ⟨before, id, after, rfl, hbefore, hid⟩ := mapM_eq_error h
  rcases walk_discovered horder rfl with hmem | ⟨source, hsource, hfollows⟩
  · rw [List.mem_singleton.mp hmem, (mem_of_node_eq_ok hfirst).2, hfirst] at hid
    cases hid
  · obtain ⟨node, hnode⟩ := hbefore source hsource
    obtain ⟨hn, rfl⟩ := mem_of_node_eq_ok hnode
    obtain ⟨ids, hids, hmem⟩ := hfollows
    cases hids
    exact .neighbor hn hmem hid

theorem reachableNodes_subset {start : String} {component : List Node}
    (h : network.reachableNodes start = .ok component) : component ⊆ network.nodes := by
  obtain ⟨first, -, h⟩ := (bind_eq_ok_iff _ _ _).mp h
  obtain ⟨order, -, hnodes⟩ := (bind_eq_ok_iff _ _ _).mp h
  exact subset_of_mapM_node hnodes

theorem acrossClosedSwitch_failed {node : Node} (hn : node ∈ network.nodes) {id : String}
    (hid : id ∈ node.switches) {fault : Fault}
    (h : network.acrossClosedSwitch node.id id = .error fault) : network.FailedLookup fault := by
  rw [acrossClosedSwitch, bind_eq_error_iff] at h
  rcases h with hswitch | ⟨switch, hswitch, h⟩
  · exact .switch hn hid hswitch
  split at h
  · cases h
  split at h
  · rename_i other hother
    rcases (bind_eq_error_iff _ _ _).mp h with hfar | ⟨far, -, hpure⟩
    · exact .otherEnd hn hid hswitch hother hfar
    · cases hpure
  · rename_i hnone
    cases h
    exact .misplacedSwitch hn hid hswitch hnone

/-- A closed switch leads to a node that is found. -/
theorem acrossClosedSwitch_found {nodeId id : String} {ids : List String}
    (h : network.acrossClosedSwitch nodeId id = .ok ids) :
    ∀ other ∈ ids, ∃ node, network.node other = .ok node := by
  obtain ⟨switch, -, h⟩ := (bind_eq_ok_iff _ _ _).mp h
  split at h
  · cases h
    exact nofun
  split at h
  · obtain ⟨far, hfar, hpure⟩ := (bind_eq_ok_iff _ _ _).mp h
    cases hpure
    intro other ho
    rw [List.mem_singleton.mp ho]
    exact ⟨far, (mem_of_node_eq_ok hfar).2 ▸ hfar⟩
  · cases h

theorem follows_closedNeighborIds_found {id other : String}
    (h : Follows network.closedNeighborIds id other) : ∃ node, network.node other = .ok node := by
  obtain ⟨ids, hids, hmem⟩ := h
  obtain ⟨node, -, hids⟩ := (bind_eq_ok_iff _ _ _).mp hids
  obtain ⟨lists, hlists, hpure⟩ := (bind_eq_ok_iff _ _ _).mp hids
  cases hpure
  obtain ⟨switchId, -, far, hfar, hother⟩ :=
    (mem_flatten_iff_follows (forall₂_of_mapM_eq_ok hlists) other).mp hmem
  exact acrossClosedSwitch_found hfar other hother

theorem closedNeighborIds_failed {node : Node} {id : String} (hnode : network.node id = .ok node)
    {fault : Fault} (h : network.closedNeighborIds id = .error fault) :
    network.FailedLookup fault := by
  obtain ⟨hn, rfl⟩ := mem_of_node_eq_ok hnode
  rw [closedNeighborIds, hnode] at h
  rcases (bind_eq_error_iff _ _ _).mp h with herror | ⟨_, heq, h⟩
  · cases herror
  cases heq
  rcases (bind_eq_error_iff _ _ _).mp h with hacross | ⟨_, -, hpure⟩
  · obtain ⟨before, id, after, hsplit, -, hid⟩ := mapM_eq_error hacross
    exact acrossClosedSwitch_failed hn
      (hsplit ▸ List.mem_append_right before List.mem_cons_self) hid
  · cases hpure

/-- A search through closed switches only comes by nodes that are found, so it fails
at its start or at a switch on one of them. -/
theorem findThroughClosedSwitches_failed {start : Node} (hstart : start ∈ network.nodes)
    {accepts : List Node → Node → Bool} {fault : Fault}
    (h : network.findThroughClosedSwitches start.id accepts = .error fault) :
    network.FailedLookup fault := by
  rcases (bind_eq_error_iff _ _ _).mp h with hgroup | ⟨_, -, hpure⟩
  swap
  · cases hpure
  rcases (bind_eq_error_iff _ _ _).mp hgroup with hnode | ⟨first, hfirst, hgroup⟩
  · exact .node hstart hnode
  have hfound : ∃ node, network.node first.id = .ok node :=
    ⟨first, (mem_of_node_eq_ok hfirst).2 ▸ hfirst⟩
  rcases (bind_eq_error_iff _ _ _).mp hgroup with hwalk | ⟨order, horder, hnodes⟩
  · obtain ⟨id, ⟨node, hnode⟩, hid⟩ := walk_eq_error
      (P := fun id => ∃ node, network.node id = .ok node)
      (fun _ _ _ => follows_closedNeighborIds_found) (by simpa using hfound) hwalk
    exact closedNeighborIds_failed hnode hid
  · obtain ⟨before, id, after, rfl, -, hid⟩ := mapM_eq_error hnodes
    obtain ⟨node, hnode⟩ : ∃ node, network.node id = .ok node := by
      rcases walk_discovered horder rfl with hmem | ⟨_, -, hfollows⟩
      · rw [List.mem_singleton.mp hmem]
        exact hfound
      · exact follows_closedNeighborIds_found hfollows
    rw [hnode] at hid
    cases hid

end Network

/-! ## Visitors -/

/-- On nodes of the network the visitor only fails because a look-up does. -/
def Visitor.FailsByLookup {σ : Type} (visitor : Visitor σ) (network : Network) : Prop :=
  ∀ node ∈ network.nodes, ∀ state fault,
    (visitor network node state).fault = some fault → network.FailedLookup fault

/-- No member of the panel fails on nodes of the network but because a look-up does. -/
def Panel.FailsByLookup {types : List Type} : Panel types → Network → Prop
  | .nil, _ => True
  | .cons first rest, network => Visitor.FailsByLookup first network ∧ rest.FailsByLookup network

variable {network : Network}

theorem Panel.visitor_failsByLookup {types : List Type} (panel : Panel types)
    (h : panel.FailsByLookup network) : Visitor.FailsByLookup panel.visitor network := by
  induction panel with
  | nil => exact fun _ _ _ _ hfault => nomatch hfault
  | cons first rest ih =>
    obtain ⟨hfirst, hrest⟩ := h
    intro node hn state fault hfault
    rw [Panel.visitor] at hfault
    dsimp only at hfault
    split at hfault
    · rename_i own hown
      cases hfault
      exact hfirst node hn state.1 _ hown
    · exact ih hrest node hn state.2 fault hfault

namespace Visitor.FailsByLookup

variable {σ : Type} {visitor : Visitor σ}

theorem of_never (h : ∀ node state, (visitor network node state).fault = none) :
    visitor.FailsByLookup network :=
  fun node _ state fault hfault => absurd hfault (by simp [h node state])

theorem traverse (h : visitor.FailsByLookup network) {visits : List Node}
    (hsub : visits ⊆ network.nodes) {state : σ} {fault : Fault}
    (hfault : (traverse visitor network visits state).fault = some fault) :
    network.FailedLookup fault := by
  obtain ⟨before, node, after, rfl, -, hnode⟩ := exists_of_traverse_fault hfault
  exact h node (hsub (List.mem_append_right before List.mem_cons_self)) _ fault hnode

/-- Where all look-ups succeed the visitor does too. -/
theorem succeedsOn (h : visitor.FailsByLookup network) (lookups : network.LookupsSucceed) :
    visitor.SucceedsOn network network.nodes :=
  fun node hn state => Option.eq_none_iff_forall_ne_some.mpr fun fault hfault =>
    lookups.not_failedLookup fault (h node hn state fault hfault)

end Visitor.FailsByLookup

theorem MainComponent.visitor_failsByLookup : MainComponent.visitor.FailsByLookup network := by
  intro node hn state fault h
  rw [MainComponent.visitor] at h
  split at h
  · cases h
  split at h
  · rename_i hnodes
    cases h
    exact Network.reachableNodes_failed hn hnodes
  · cases h

theorem SlackCandidate.visitor_failsByLookup : SlackCandidate.visitor.FailsByLookup network := by
  intro node hn state fault h
  rw [SlackCandidate.visitor] at h
  split at h
  · rename_i hcount
    cases h
    exact Network.neighborCount_failed hn hcount
  · cases h

theorem Generation.visitor_failsByLookup (unlimited : Bool) :
    (Generation.visitor unlimited).FailsByLookup network := by
  intro node hn state fault h
  rw [Generation.visitor] at h
  split at h
  · cases h
  split at h
  · rename_i hsearch
    cases h
    exact Network.findThroughClosedSwitches_failed hn hsearch
  · cases h

theorem LoadDefinition.visitor_fault (threshold : Float) (node : Node)
    (state : List LoadDefinition) :
    (LoadDefinition.visitor threshold network node state).fault = none := by
  rw [LoadDefinition.visitor]
  split <;> rfl

theorem HvdcDefinition.meetAll_failed {node : Node} (hn : node ∈ network.nodes)
    {converters : List String} (hsub : converters ⊆ node.converters)
    {state : Std.ExtTreeMap String HvdcDefinition} {fault : Fault}
    (h : (meetAll network converters state).fault = some fault) :
    network.FailedLookup fault := by
  induction converters generalizing state with
  | nil => cases h
  | cons id rest ih =>
    obtain ⟨hid, hrest⟩ := List.cons_subset.mp hsub
    rw [meetAll] at h
    split at h
    · rename_i hline
      cases h
      exact Network.hvdcLineOfConverter_failed hn hid hline
    · exact ih hrest h

theorem HvdcDefinition.visitor_failsByLookup : HvdcDefinition.visitor.FailsByLookup network :=
  fun _ hn _ _ => meetAll_failed hn (List.Subset.refl _)

theorem Resolution.panel_failsByLookup (options : Options) :
    (Resolution.panel options).FailsByLookup network :=
  ⟨SlackCandidate.visitor_failsByLookup, Generation.visitor_failsByLookup _,
    .of_never (LoadDefinition.visitor_fault _), HvdcDefinition.visitor_failsByLookup,
    .of_never fun _ _ => rfl, .of_never fun _ _ => rfl, trivial⟩

/-- A converter that is indexed with a line that is missing is a fault of its own. -/
example (node : Node) (h : node.converters = ["X"]) :
    (HvdcDefinition.visitor { nodes := [node] } node ∅).fault =
        some (.unknownElement .converter "X") ∧
      (HvdcDefinition.visitor
        { nodes := [node], converters := .ofList [("X", ("L", Side.first))] }
        node ∅).fault = some (.unknownElement .hvdcLine "L") := by
  simp only [HvdcDefinition.visitor, h]
  exact ⟨rfl, rfl⟩

/-! ## The resolution -/

/-- The main component is made up of nodes of the network. -/
theorem MainComponent.traverse_nodes_subset (visits : List Node) {state : MainComponent}
    (hstate : state.nodes ⊆ network.nodes) :
    (traverse MainComponent.visitor network visits state).state.nodes ⊆ network.nodes := by
  induction visits generalizing state with
  | nil => exact hstate
  | cons node rest ih =>
    have hvisit : (MainComponent.visitor network node state).state.nodes ⊆ network.nodes := by
      rw [MainComponent.visitor]
      split
      · exact hstate
      split
      · exact hstate
      · rename_i component hcomponent
        dsimp only [consider]
        split
        · exact Network.reachableNodes_subset hcomponent
        · exact hstate
    rw [traverse, Outcome.andThen]
    split
    · exact hvisit
    · exact ih hvisit

/-- Whatever network it is, resolving fails by a failed look-up only. -/
theorem resolve_failed {config : AutomatonConfig} {locator : Locator} {options : Options}
    {fault : Fault} (h : (resolve network config locator options).value = .error fault) :
    network.FailedLookup fault := by
  rw [resolve] at h
  dsimp only at h
  split at h
  · rename_i hsearch
    cases h
    exact MainComponent.visitor_failsByLookup.traverse (List.Subset.refl _) hsearch
  split at h
  · rename_i houtcome
    cases h
    exact (Panel.visitor_failsByLookup _ (Resolution.panel_failsByLookup options)).traverse
      (MainComponent.traverse_nodes_subset _ (List.nil_subset _)) houtcome
  · cases h

end GridSetup
