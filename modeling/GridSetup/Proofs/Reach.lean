import GridSetup.Network.Reach
import GridSetup.Proofs.DepthFirst
import GridSetup.Proofs.Lookup

/-! # What walks reach in a coherent network

The walk along links finds the connected component of a node, the walk through
closed switches the nodes joined to it by these. Neither can fail, because the
ids that a node leads to are ids of nodes, and the switches registered on a
node end there. -/

namespace GridSetup

/-- A look-up that succeeds on each element of a list succeeds on the list. -/
theorem mapM_eq_ok_of_forall {α β ε : Type} {f : α → Except ε β} {l : List α}
    (h : ∀ x ∈ l, ∃ y, f x = .ok y) :
    ∃ ys, l.mapM f = .ok ys ∧ List.Forall₂ (fun x y => f x = .ok y) l ys := by
  induction l with
  | nil => exact ⟨[], rfl, .nil⟩
  | cons x rest ih =>
    obtain ⟨y, hy⟩ := h x List.mem_cons_self
    obtain ⟨ys, hys, hall⟩ := ih fun z hz => h z (List.mem_cons_of_mem x hz)
    refine ⟨y :: ys, ?_, .cons hy hall⟩
    rw [List.mapM_cons, hy, hys]
    rfl

/-- A list is looked up one element after the other. -/
theorem mapM_eq_ok_cons {α β ε : Type} {f : α → Except ε β} {x : α} {rest : List α}
    {ys : List β} (h : (x :: rest).mapM f = .ok ys) :
    ∃ y others, ys = y :: others ∧ f x = .ok y ∧ rest.mapM f = .ok others := by
  rw [List.mapM_cons] at h
  obtain ⟨y, hy, h⟩ := (bind_eq_ok_iff _ _ _).mp h
  obtain ⟨others, hothers, hpure⟩ := (bind_eq_ok_iff _ _ _).mp h
  cases hpure
  exact ⟨y, others, rfl, hy, hothers⟩

theorem forall₂_of_mapM_eq_ok {α β ε : Type} {f : α → Except ε β} {l : List α} {ys : List β}
    (h : l.mapM f = .ok ys) : List.Forall₂ (fun x y => f x = .ok y) l ys := by
  induction l generalizing ys with
  | nil =>
    cases h
    exact .nil
  | cons x rest ih =>
    obtain ⟨y, others, rfl, hy, hothers⟩ := mapM_eq_ok_cons h
    exact .cons hy (ih hothers)

theorem mem_flatten_iff_follows {α ε : Type} {next : α → Except ε (List α)} {l : List α}
    {lists : List (List α)} (h : List.Forall₂ (fun x y => next x = .ok y) l lists) (b : α) :
    b ∈ lists.flatten ↔ ∃ x ∈ l, Follows next x b := by
  induction h with
  | nil => simp
  | @cons x candidates l lists hx _ ih =>
    have hfollows : Follows next x b ↔ b ∈ candidates := by
      constructor
      · intro hgiven
        obtain ⟨other, ho, hb⟩ := hgiven
        rw [hx] at ho
        cases ho
        exact hb
      · exact fun hb => ⟨candidates, hx, hb⟩
    rw [List.flatten_cons, List.mem_append, ih, List.exists_mem_cons_iff, hfollows]

/-- The end opposite to another is the one other end of the switch. -/
theorem Switch.otherEnd?_eq_some_iff (switch : Switch) (h : switch.ends.Nodup) (a b : String) :
    switch.otherEnd? a = some b ↔ a ∈ switch.ends ∧ b ∈ switch.ends ∧ a ≠ b := by
  simp only [ends, List.nodup_cons, List.mem_singleton, List.not_mem_nil, not_false_eq_true,
    List.nodup_nil, and_true] at h
  unfold otherEnd? ends
  grind

theorem Switch.otherEnd?_isSome (switch : Switch) {a : String} (h : a ∈ switch.ends) :
    ∃ b, switch.otherEnd? a = some b := by
  unfold otherEnd?
  split
  · exact ⟨_, rfl⟩
  · rename_i hfirst
    have hsecond : switch.second = a := by
      simpa [ends, Ne.symm hfirst, eq_comm] using h
    exact ⟨_, if_pos hsecond⟩

namespace Network

/-- Nodes are linked if a chain of adjacent nodes leads from one to the other. -/
def Linked (network : Network) : String → String → Prop :=
  Relation.ReflTransGen network.Adjacent

/-- Two nodes are switched together if they are the ends of one closed switch. -/
def SwitchedTogether (network : Network) (a b : String) : Prop :=
  ∃ switch ∈ network.switches, switch.isOpen = false ∧
    a ∈ switch.ends ∧ b ∈ switch.ends ∧ a ≠ b

theorem Adjacent.symm {network : Network} {a b : String} (h : network.Adjacent a b) :
    network.Adjacent b a := by
  obtain ⟨branch, hb, hk, ha, hb', hne⟩ := h
  exact ⟨branch, hb, hk, hb', ha, hne.symm⟩

theorem Linked.symm {network : Network} {a b : String} (h : network.Linked a b) :
    network.Linked b a := by
  induction h with
  | refl => exact .refl
  | tail _ step ih => exact .head step.symm ih

theorem mem_neighborIds (network : Network) (a b : String) :
    b ∈ network.neighborIds a ↔ ∃ link ∈ network.links, link.joins a b :=
  edgeLaws.mem_others network.links a b

namespace Coherent

variable {network : Network}

theorem mem_neighborIds_iff (coherent : network.Coherent) (a b : String) :
    b ∈ network.neighborIds a ↔ network.Adjacent a b := by
  rw [Network.mem_neighborIds, coherent.joined]

theorem adjacent_present (coherent : network.Coherent) {a b : String}
    (h : network.Adjacent a b) : b ∈ network.nodes.map Node.id := by
  obtain ⟨branch, hb, -, -, hend, -⟩ := h
  exact (coherent.wellFormed.proper_branches.ends branch hb).present b hend

/-- Nodes found by id have these ids. -/
theorem mapM_node_ids (coherent : network.Coherent) {ids : List String} {nodes : List Node}
    (h : ids.mapM network.node = .ok nodes) :
    nodes.map Node.id = ids ∧ ∀ node ∈ nodes, node ∈ network.nodes := by
  have hall := forall₂_of_mapM_eq_ok h
  clear h
  induction hall with
  | nil => simp
  | @cons id node ids nodes hfound _ ih =>
    obtain ⟨hn, rfl⟩ := (coherent.node_eq_ok_iff id node).mp hfound
    exact ⟨by rw [List.map_cons, ih.1], List.forall_mem_cons.mpr ⟨hn, ih.2⟩⟩

/-- The nodes of known ids are found, in order. -/
theorem mapM_node (coherent : network.Coherent) (ids : List String)
    (h : ∀ id ∈ ids, id ∈ network.nodes.map Node.id) :
    ∃ nodes, ids.mapM network.node = .ok nodes ∧ nodes.map Node.id = ids ∧
      ∀ node ∈ nodes, node ∈ network.nodes := by
  obtain ⟨nodes, hok, -⟩ := mapM_eq_ok_of_forall (f := network.node) (l := ids) fun id hid => by
    obtain ⟨node, hn, rfl⟩ := List.mem_map.mp (h id hid)
    exact ⟨node, coherent.node_of_mem hn⟩
  exact ⟨nodes, hok, coherent.mapM_node_ids hok⟩

/-- A depth-first order of ids, as nodes: what both walks come down to. -/
theorem depthFirst_nodes (coherent : network.Coherent)
    {next : String → Except Fault (List String)} {related : String → String → Prop}
    (hok : ∀ id ∈ network.nodes.map Node.id, ∃ ids, next id = .ok ids)
    (hnext : ∀ a b, Follows next a b ↔ related a b)
    (hinside : ∀ a b, related a b → b ∈ network.nodes.map Node.id)
    {start : Node} (hstart : start ∈ network.nodes) :
    ∃ order nodes, depthFirst next (network.nodes.map Node.id) start.id = .ok order ∧
      order.mapM network.node = .ok nodes ∧ (nodes.map Node.id).Nodup ∧
      (nodes.map Node.id).head? = some start.id ∧ (∀ node ∈ nodes, node ∈ network.nodes) ∧
      ∀ b, b ∈ nodes.map Node.id ↔ Relation.ReflTransGen related start.id b := by
  have closed : ∀ id ∈ network.nodes.map Node.id, ∃ ids, next id = .ok ids ∧
      ∀ b ∈ ids, b ∈ network.nodes.map Node.id := by
    intro id hid
    obtain ⟨ids, hids⟩ := hok id hid
    exact ⟨ids, hids, fun b hb => hinside id b ((hnext id b).mp ⟨ids, hids, hb⟩)⟩
  obtain ⟨order, horder, hnodup, hhead, hall, hreach⟩ := depthFirst_exact
    coherent.wellFormed.distinct_nodes.ids (List.mem_map_of_mem hstart) closed
  obtain ⟨nodes, hnodes, rfl, hmem⟩ := coherent.mapM_node order hall
  have hrelated : Follows next = related := funext₂ fun a b => propext (hnext a b)
  rw [hrelated] at hreach
  exact ⟨_, nodes, horder, hnodes, hnodup, hhead, hmem, hreach⟩

theorem follows_neighborIds_iff (coherent : network.Coherent) (a b : String) :
    Follows (ε := Fault) (fun id => .ok (network.neighborIds id)) a b ↔ network.Adjacent a b := by
  rw [← coherent.mem_neighborIds_iff]
  constructor
  · intro h
    obtain ⟨ids, hids, hb⟩ := h
    cases hids
    exact hb
  · exact fun hb => ⟨_, rfl, hb⟩

/-- The nodes reachable from a node are, once each, those linked to it. -/
theorem reachableNodes_exact (coherent : network.Coherent) {start : Node}
    (hstart : start ∈ network.nodes) :
    ∃ component, network.reachableNodes start.id = .ok component ∧
      (component.map Node.id).Nodup ∧ (component.map Node.id).head? = some start.id ∧
      (∀ node ∈ component, node ∈ network.nodes) ∧
      ∀ b, b ∈ component.map Node.id ↔ network.Linked start.id b := by
  obtain ⟨order, nodes, horder, hnodes, hrest⟩ := coherent.depthFirst_nodes
    (fun id _ => ⟨_, rfl⟩) coherent.follows_neighborIds_iff
    (fun _ _ => coherent.adjacent_present) hstart
  refine ⟨nodes, ?_, hrest⟩
  rw [reachableNodes]
  exact (bind_eq_ok_iff _ _ _).mpr ⟨start, coherent.node_of_mem hstart,
    (bind_eq_ok_iff _ _ _).mpr ⟨order, horder, hnodes⟩⟩

/-- The ids of the reachable nodes are the depth-first order of the walk. -/
theorem depthFirst_of_reachableNodes (coherent : network.Coherent) {start : Node}
    (hstart : start ∈ network.nodes) {component : List Node}
    (h : network.reachableNodes start.id = .ok component) :
    depthFirst (ε := Fault) (fun id => .ok (network.neighborIds id))
      (network.nodes.map Node.id) start.id = .ok (component.map Node.id) := by
  rw [reachableNodes, coherent.node_of_mem hstart] at h
  obtain ⟨_, heq, h⟩ := (bind_eq_ok_iff _ _ _).mp h
  cases heq
  obtain ⟨ids, hids, hnodes⟩ := (bind_eq_ok_iff _ _ _).mp h
  rw [(coherent.mapM_node_ids hnodes).1]
  exact hids

/-! ## Closed switches -/

theorem switch_ends (coherent : network.Coherent) {switch : Switch}
    (hs : switch ∈ network.switches) : ProperEnds network.nodes switch.ends :=
  coherent.wellFormed.proper_branches.ends (.switch switch) (by simp [branches, hs])

theorem switchedTogether_present (coherent : network.Coherent) {a b : String}
    (h : network.SwitchedTogether a b) :
    a ∈ network.nodes.map Node.id ∧ b ∈ network.nodes.map Node.id := by
  obtain ⟨switch, hs, -, ha, hb, -⟩ := h
  have hends := coherent.switch_ends hs
  exact ⟨hends.present a ha, hends.present b hb⟩

/-- A switch that ends on a node leads to its other end, unless it is open. -/
theorem acrossClosedSwitch_eq (coherent : network.Coherent) {switch : Switch}
    (hs : switch ∈ network.switches) {a : String} (ha : a ∈ switch.ends) :
    ∃ ids, network.acrossClosedSwitch a switch.id = .ok ids ∧
      ∀ b, b ∈ ids ↔ switch.isOpen = false ∧ b ∈ switch.ends ∧ a ≠ b := by
  have hfound := (coherent.switch_eq_ok_iff switch.id switch).mpr ⟨hs, rfl⟩
  have hends := coherent.switch_ends hs
  obtain ⟨other, hother⟩ := switch.otherEnd?_isSome ha
  have hunique := switch.otherEnd?_eq_some_iff hends.distinct a
  obtain ⟨far, hfar, rfl⟩ := List.mem_map.mp (hends.present other ((hunique other).mp hother).2.1)
  have hacross : network.acrossClosedSwitch a switch.id =
      .ok (if switch.isOpen then [] else [far.id]) := by
    rw [acrossClosedSwitch, hfound]
    change (if switch.isOpen then _ else _) = _
    split
    · rfl
    · rw [hother]
      change (network.node far.id >>= fun node => .ok [node.id]) = _
      rw [coherent.node_of_mem hfar]
      rfl
  refine ⟨_, hacross, fun b => ?_⟩
  cases hopen : switch.isOpen with
  | true => simp
  | false =>
    have hb : b = far.id ↔ switch.otherEnd? a = some b := by
      rw [hother, Option.some.injEq, eq_comm]
    simp [hb, hunique, ha]

/-- The closed neighbours of a node are the nodes it is switched together with. -/
theorem closedNeighborIds_exact (coherent : network.Coherent) {node : Node}
    (hn : node ∈ network.nodes) :
    ∃ ids, network.closedNeighborIds node.id = .ok ids ∧
      ∀ b, b ∈ ids ↔ network.SwitchedTogether node.id b := by
  obtain ⟨lists, hlists, hall⟩ := mapM_eq_ok_of_forall
    (f := network.acrossClosedSwitch node.id) (l := node.switches) fun id hid => by
      obtain ⟨switch, hs, rfl, hend⟩ := (coherent.mem_switches_iff hn id).mp hid
      obtain ⟨ids, hids, -⟩ := coherent.acrossClosedSwitch_eq hs hend
      exact ⟨ids, hids⟩
  refine ⟨lists.flatten, ?_, fun b => ?_⟩
  · rw [closedNeighborIds, coherent.node_of_mem hn]
    change (node.switches.mapM (network.acrossClosedSwitch node.id) >>= fun across =>
      Except.ok across.flatten) = _
    rw [hlists]
    rfl
  rw [mem_flatten_iff_follows hall]
  refine ⟨fun h => ?_, fun h => ?_⟩
  · obtain ⟨id, hid, ids, hids, hb⟩ := h
    obtain ⟨switch, hs, rfl, hend⟩ := (coherent.mem_switches_iff hn id).mp hid
    obtain ⟨ids', hids', hmem⟩ := coherent.acrossClosedSwitch_eq hs hend
    rw [hids] at hids'
    cases hids'
    obtain ⟨hopen, hother, hne⟩ := (hmem b).mp hb
    exact ⟨switch, hs, hopen, hend, hother, hne⟩
  · obtain ⟨switch, hs, hopen, hend, hother, hne⟩ := h
    obtain ⟨ids, hids, hmem⟩ := coherent.acrossClosedSwitch_eq hs hend
    exact ⟨switch.id, (coherent.mem_switches_iff hn _).mpr ⟨switch, hs, rfl, hend⟩, ids, hids,
      (hmem b).mpr ⟨hopen, hother, hne⟩⟩

/-- The closed-switch group of a node holds, once each, the nodes that chains
of closed switches join to it. -/
theorem closedSwitchGroup_exact (coherent : network.Coherent) {start : Node}
    (hstart : start ∈ network.nodes) :
    ∃ group, network.closedSwitchGroup start.id = .ok group ∧
      (group.map Node.id).Nodup ∧ (group.map Node.id).head? = some start.id ∧
      (∀ node ∈ group, node ∈ network.nodes) ∧
      ∀ b, b ∈ group.map Node.id ↔
        Relation.ReflTransGen network.SwitchedTogether start.id b := by
  have hok : ∀ id ∈ network.nodes.map Node.id, ∃ ids, network.closedNeighborIds id = .ok ids := by
    intro id hid
    obtain ⟨node, hn, rfl⟩ := List.mem_map.mp hid
    obtain ⟨ids, hids, -⟩ := coherent.closedNeighborIds_exact hn
    exact ⟨ids, hids⟩
  have hnext : ∀ a b, Follows network.closedNeighborIds a b ↔ network.SwitchedTogether a b := by
    intro a b
    refine ⟨fun hgiven => ?_, fun h => ?_⟩
    · obtain ⟨ids, hids, hb⟩ := hgiven
      cases hnode : network.node a with
      | error fault =>
        rw [closedNeighborIds, hnode] at hids
        cases hids
      | ok node =>
        obtain ⟨hn, rfl⟩ := (coherent.node_eq_ok_iff a node).mp hnode
        obtain ⟨ids', hids', hmem⟩ := coherent.closedNeighborIds_exact hn
        rw [hids] at hids'
        cases hids'
        exact (hmem b).mp hb
    · obtain ⟨node, hn, rfl⟩ := List.mem_map.mp (coherent.switchedTogether_present h).1
      obtain ⟨ids, hids, hmem⟩ := coherent.closedNeighborIds_exact hn
      exact ⟨ids, hids, (hmem b).mpr h⟩
  obtain ⟨order, nodes, horder, hnodes, hrest⟩ := coherent.depthFirst_nodes hok hnext
    (fun _ _ h => (coherent.switchedTogether_present h).2) hstart
  refine ⟨nodes, ?_, hrest⟩
  rw [closedSwitchGroup]
  exact (bind_eq_ok_iff _ _ _).mpr ⟨start, coherent.node_of_mem hstart,
    (bind_eq_ok_iff _ _ _).mpr ⟨order, horder, hnodes⟩⟩

/-- The group of a node is the node itself and the others that it is joined to, and
a search from it tries these. -/
theorem closedSwitchGroup_others (coherent : network.Coherent) {start : Node}
    (hstart : start ∈ network.nodes) :
    ∃ others, network.closedSwitchGroup start.id = .ok (start :: others) ∧
      (∀ accepts, network.findThroughClosedSwitches start.id accepts =
        .ok (Search.run accepts [] others)) ∧
      (others.map Node.id).Nodup ∧
      ∀ node, node ∈ others ↔ node ∈ network.nodes ∧ node.id ≠ start.id ∧
        Relation.ReflTransGen network.SwitchedTogether start.id node.id := by
  obtain ⟨group, hgroup, hnodup, hhead, hpresent, hjoined⟩ :=
    coherent.closedSwitchGroup_exact hstart
  cases group with
  | nil => cases hhead
  | cons first others =>
    have hfirst : first.id = start.id := by simpa using hhead
    obtain rfl := coherent.ids_injective (hpresent first List.mem_cons_self) hstart hfirst
    obtain ⟨hnotin, hothers⟩ := List.nodup_cons.mp hnodup
    refine ⟨others, hgroup, fun accepts => ?_, hothers, fun node => ⟨fun hn => ?_, fun h => ?_⟩⟩
    · rw [findThroughClosedSwitches, hgroup]
      rfl
    · refine ⟨hpresent node (List.mem_cons_of_mem first hn), fun hid => hnotin ?_, ?_⟩
      · exact hid ▸ List.mem_map_of_mem hn
      · exact (hjoined node.id).mp (List.mem_cons_of_mem _ (List.mem_map_of_mem hn))
    · obtain ⟨hn, hne, hlink⟩ := h
      have hmem := (coherent.mem_ids_iff hpresent hn).mp ((hjoined node.id).mpr hlink)
      exact (List.mem_cons.mp hmem).resolve_left fun heq => hne (congrArg Node.id heq)

/-- A search through closed switches from a node comes to an end, whatever the
test says. -/
theorem findThroughClosedSwitches_isOk (coherent : network.Coherent) {start : Node}
    (hstart : start ∈ network.nodes) (accepts : List Node → Node → Bool) :
    ∃ search, network.findThroughClosedSwitches start.id accepts = .ok search := by
  obtain ⟨others, -, hsearch, -⟩ := coherent.closedSwitchGroup_others hstart
  exact ⟨_, hsearch accepts⟩

end Coherent
end Network
end GridSetup
