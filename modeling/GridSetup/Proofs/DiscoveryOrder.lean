import GridSetup.Proofs.Discovery
import Mathlib.Combinatorics.SimpleGraph.Acyclic

/-! # In which order a component is discovered

The walk puts a node on its stack as soon as it meets the first neighbour of it. So a
node is listed with all that is met on from there before the walk comes back to what was
put on the stack earlier. Where no cycle leads through the component this makes the order
depth-first: a node with a neighbour that is not listed yet is never left behind. On a
cycle it can be, as its neighbour may wait deeper in the stack already. -/

namespace GridSetup
namespace Network

instance (network : Network) (a b : String) : Decidable (network.Adjacent a b) :=
  inferInstanceAs (Decidable (∃ branch ∈ network.branches, _))

/-- The order is depth-first: a node is followed by neighbours of it, or of nodes listed
since, as long as a neighbour of it is not listed yet. -/
def DepthFirstOrder (network : Network) (order : List Node) : Prop :=
  ∀ before a between b after, order = before ++ a :: (between ++ b :: after) →
    ∀ c ∈ after, network.Adjacent a.id c.id → ¬network.Adjacent a.id b.id →
      ∃ d ∈ between, network.Adjacent d.id b.id

/-- The order is nested: as long as a node is not listed yet, all that is listed after its
first neighbour has its own first neighbour there or since. -/
def NestedOrder (network : Network) (order : List Node) : Prop :=
  ∀ before a between b after, order = before ++ a :: (between ++ b :: after) →
    ∀ c ∈ after, network.Adjacent a.id c.id → (∀ d ∈ before, ¬network.Adjacent d.id c.id) →
      (∀ d ∈ before, ¬network.Adjacent d.id b.id) ∧
        ∃ d ∈ a :: between, network.Adjacent d.id b.id

/-- The graph of the neighbours. -/
def graph (network : Network) : SimpleGraph String where
  Adj := network.Adjacent
  symm := ⟨fun _ _ => Adjacent.symm⟩
  loopless := ⟨fun a h => by
    obtain ⟨_, _, _, _, _, hne⟩ := h
    exact hne rfl⟩

/-- No cycle leads through what is linked to a node. -/
def Radial (network : Network) (start : String) : Prop :=
  ∀ id, network.Linked start id → ∀ cycle : network.graph.Walk id id, ¬cycle.IsCycle

variable {network : Network} {start : Node} {component : List Node}

/-- The nodes listed first are linked to each other within themselves. -/
theorem Discovers.linked_initial (h : network.Discovers start component)
    {related : String → String → Prop} {initial rest : List Node}
    (hsplit : component = initial ++ rest)
    (hrelated : ∀ x ∈ initial, ∀ y ∈ initial, network.Adjacent x.id y.id → related x.id y.id) :
    ∀ x ∈ initial, Relation.ReflTransGen related start.id x.id := by
  induction initial using List.reverseRecOn generalizing rest with
  | nil => exact nofun
  | append_singleton initial last ih =>
    have hlast : component = initial ++ last :: rest := by simpa using hsplit
    have hinitial := ih hlast fun x hx y hy =>
      hrelated x (List.mem_append_left _ hx) y (List.mem_append_left _ hy)
    refine List.forall_mem_append.mpr ⟨hinitial, List.forall_mem_singleton.mpr ?_⟩
    by_cases hempty : initial = []
    · have hfirst := h.first
      rw [hlast, hempty] at hfirst
      rw [Option.some.inj hfirst]
    · obtain ⟨earlier, he, hadjacent⟩ := h.discovered initial last rest hlast hempty
      exact (hinitial earlier he).tail (hrelated earlier (List.mem_append_left _ he) last
        (List.mem_append_right _ List.mem_cons_self) hadjacent)

/-- Without cycles a node has one neighbour among those listed before it. -/
theorem Discovers.earlier_unique (h : network.Discovers start component)
    (radial : network.Radial start.id) {before after : List Node} {x a b : Node}
    (hsplit : component = before ++ x :: after) (ha : a ∈ before) (hb : b ∈ before)
    (hax : network.Adjacent a.id x.id) (hbx : network.Adjacent b.id x.id) : a = b := by
  have hids := h.distinct
  rw [hsplit, List.map_append, List.map_cons, List.nodup_append] at hids
  have hx : ∀ y ∈ before, y.id ≠ x.id := fun y hy =>
    hids.2.2 _ (List.mem_map_of_mem hy) _ List.mem_cons_self
  by_contra hne
  have hne' : a.id ≠ b.id := fun heq => hne (List.inj_on_of_nodup_map hids.1 ha hb heq)
  -- the two neighbours are linked without `x`, so the edge from one to `x` closes a cycle
  let cut := network.graph.deleteEdges {s(a.id, x.id)}
  have hkept : ∀ y ∈ before, ∀ z ∈ before, network.Adjacent y.id z.id → cut.Adj y.id z.id := by
    intro y hy z hz hadjacent
    refine SimpleGraph.deleteEdges_adj.mpr ⟨hadjacent, fun hedge => ?_⟩
    rcases Sym2.eq_iff.mp hedge with ⟨-, heq⟩ | ⟨heq, -⟩
    · exact hx z hz heq
    · exact hx y hy heq
  have hlinked : ∀ y ∈ before, cut.Reachable start.id y.id := fun y hy =>
    (SimpleGraph.reachable_iff_reflTransGen _ _).mpr (h.linked_initial hsplit hkept y hy)
  have hlast : cut.Adj b.id x.id := by
    refine SimpleGraph.deleteEdges_adj.mpr ⟨hbx, fun hedge => ?_⟩
    rcases Sym2.eq_iff.mp hedge with ⟨heq, -⟩ | ⟨heq, -⟩
    · exact hne' heq.symm
    · exact hx b hb heq
  have haround : cut.Reachable a.id x.id :=
    ((hlinked a ha).symm.trans (hlinked b hb)).trans hlast.reachable
  obtain ⟨id, cycle, hcycle, hedge⟩ :=
    SimpleGraph.adj_and_reachable_delete_edges_iff_exists_cycle.mp ⟨hax, haround⟩
  have hmem : a ∈ component := hsplit ▸ List.mem_append_left _ ha
  have hreach : network.graph.Reachable id a.id :=
    (cycle.takeUntil a.id (cycle.fst_mem_support_of_mem_edges hedge)).reachable
  have hback : network.Linked id a.id := (SimpleGraph.reachable_iff_reflTransGen _ _).mp hreach
  exact radial id (((h.linked a).mp hmem).2.trans hback.symm) cycle hcycle

/-- Where each node has one neighbour before it, a nested order is depth-first. -/
theorem NestedOrder.depthFirst (nested : network.NestedOrder component)
    (h : network.Discovers start component) (radial : network.Radial start.id) :
    network.DepthFirstOrder component := by
  intro before a between b after hsplit c hc hac hab
  have hfirst : ∀ d ∈ before, ¬network.Adjacent d.id c.id := by
    intro d hd hdc
    obtain ⟨early, late, rfl⟩ := List.append_of_mem hc
    have hsplit' : component = (before ++ a :: (between ++ b :: early)) ++ c :: late := by
      simp [hsplit]
    have heq := h.earlier_unique radial hsplit' (by simp [hd]) (by simp) hdc hac
    have hnodup := h.nodup
    rw [hsplit, List.nodup_append] at hnodup
    exact hnodup.2.2 d hd a List.mem_cons_self heq
  obtain ⟨-, d, hd, hdb⟩ := nested before a between b after hsplit c hc hac hfirst
  rcases List.mem_cons.mp hd with rfl | hd
  · exact absurd hdb hab
  · exact ⟨d, hd, hdb⟩

theorem Coherent.reachableNodes_nested (coherent : network.Coherent)
    (hstart : start ∈ network.nodes)
    (h : network.reachableNodes start.id = .ok component) : network.NestedOrder component := by
  intro before a between b after hsplit c hc hac hfirst
  have horder := coherent.depthFirst_of_reachableNodes hstart h
  rw [hsplit] at horder
  simp only [List.map_append, List.map_cons] at horder
  simp only [← coherent.follows_neighborIds_iff] at hac hfirst ⊢
  have hnested := depthFirst_nested coherent.wellFormed.distinct_nodes.ids
    (List.mem_map_of_mem hstart) horder (List.mem_map_of_mem hc) hac
    (by simpa using hfirst)
  simpa using hnested

end Network

/-- What can be reached from a node of a built network comes in a nested order: once a
node is listed, all that is listed before some node it is the first neighbour of is met
on from it, and has no neighbour listed earlier. If no cycle leads through the component
the order is depth-first. -/
theorem discoveryOrder_exact {network : Network} (built : network.IsBuilt) {start : Node}
    (hstart : start ∈ network.nodes) :
    ∃ component, network.reachableNodes start.id = .ok component ∧
      network.NestedOrder component ∧
      (network.Radial start.id → network.DepthFirstOrder component) := by
  have coherent := built.coherent
  obtain ⟨component, hok, hdiscovers⟩ := coherent.reachableNodes_discovers hstart
  have hnested := coherent.reachableNodes_nested hstart hok
  exact ⟨component, hok, hnested, hnested.depthFirst hdiscovers⟩

/-! ## A loop and a feeder

Three nodes of one component make a loop, from one of which a spur leads off. The nodes of
the other one are in a row. -/

namespace LoopAndFeeder

def nodes : List Node :=
  [("S", "V1"), ("A", "V1"), ("J", "V1"), ("K", "V1"),
    ("P", "V2"), ("Q", "V2"), ("R", "V2"), ("T", "V2")].map fun entry =>
      { id := entry.1, voltageLevel := entry.2, nominalVoltage := 63 }

def branches : List Branch :=
  [("S", "A"), ("S", "J"), ("S", "K"), ("A", "K"), ("P", "Q"), ("P", "R"), ("Q", "T")].map
    fun ends => .line { id := ends.1 ++ ends.2, first := ends.1, second := ends.2 }

def network : Network :=
  .assemble nodes branches []

theorem network_isBuilt : network.IsBuilt :=
  ⟨nodes, branches, [], rfl⟩

end LoopAndFeeder

/-- A cycle leads through two neighbours of each of its nodes. -/
theorem not_mem_support_of_isCycle {graph : SimpleGraph String} {id node neighbor : String}
    {cycle : graph.Walk id id} (hcycle : cycle.IsCycle)
    (h : ∀ other ∈ cycle.support, graph.Adj node other → other = neighbor) :
    node ∉ cycle.support := by
  intro hmem
  have hrotated := hcycle.rotate hmem
  have hsupport : ∀ {other}, other ∈ (cycle.rotate node hmem).support → other ∈ cycle.support :=
    (cycle.mem_support_rotate_iff node hmem).mp
  have hnext : (cycle.rotate node hmem).snd = neighbor :=
    h _ (hsupport (SimpleGraph.Walk.getVert_mem_support ..))
      (SimpleGraph.Walk.adj_snd hrotated.not_nil)
  have hlast : (cycle.rotate node hmem).penultimate = neighbor :=
    h _ (hsupport (SimpleGraph.Walk.getVert_mem_support ..))
      (SimpleGraph.Walk.adj_penultimate hrotated.not_nil).symm
  exact hrotated.snd_ne_penultimate (hnext.trans hlast.symm)

namespace LoopAndFeeder

/-- Two nodes of the feeder have one neighbour, and the others one besides these. -/
theorem network_radial : network.Radial "P" := by
  have hadjacent : ∀ id other, network.graph.Adj id other ↔ other ∈ network.neighborIds id :=
    fun id other => (network_isBuilt.coherent.mem_neighborIds_iff id other).symm
  have hP : network.neighborIds "P" = ["R", "Q"] := by decide +kernel
  have hQ : network.neighborIds "Q" = ["T", "P"] := by decide +kernel
  have hR : network.neighborIds "R" = ["P"] := by decide +kernel
  have hT : network.neighborIds "T" = ["Q"] := by decide +kernel
  have hclosed : ∀ a ∈ ["P", "Q", "R", "T"], ∀ b ∈ network.neighborIds a,
      b ∈ ["P", "Q", "R", "T"] := by decide +kernel
  have hfeeder : ∀ id, network.Linked "P" id → id ∈ ["P", "Q", "R", "T"] := by
    intro id hlinked
    induction hlinked with
    | refl => exact List.mem_cons_self
    | tail _ hnext ih => exact hclosed _ ih _ ((hadjacent _ _).mp hnext)
  intro id hlinked cycle hcycle
  have offR : "R" ∉ cycle.support :=
    not_mem_support_of_isCycle hcycle fun other _ h => show other = "P" by
      simpa [hadjacent, hR] using h
  have offT : "T" ∉ cycle.support :=
    not_mem_support_of_isCycle hcycle fun other _ h => show other = "Q" by
      simpa [hadjacent, hT] using h
  have offP : "P" ∉ cycle.support := by
    refine not_mem_support_of_isCycle hcycle fun other ho h => show other = "Q" from ?_
    have hother : other = "R" ∨ other = "Q" := by simpa [hadjacent, hP] using h
    exact hother.resolve_left fun heq => offR (heq ▸ ho)
  have offQ : "Q" ∉ cycle.support := by
    refine not_mem_support_of_isCycle hcycle fun other ho h => show other = "P" from ?_
    have hother : other = "T" ∨ other = "P" := by simpa [hadjacent, hQ] using h
    exact hother.resolve_left fun heq => offT (heq ▸ ho)
  have hoff : ∀ node ∈ ["P", "Q", "R", "T"], node ∉ cycle.support := by
    simp [offP, offQ, offR, offT]
  exact hoff id (hfeeder id hlinked) cycle.start_mem_support

end LoopAndFeeder

/-- From `P` the walk follows `Q` to its end before it comes back to `R`. -/
theorem discoveryOrder_exact_feeder :
    LoopAndFeeder.network.IsBuilt ∧ LoopAndFeeder.network.Radial "P" ∧
    ∃ start ∈ LoopAndFeeder.network.nodes, start.id = "P" ∧
      ∃ component, LoopAndFeeder.network.reachableNodes "P" = .ok component ∧
        component.map Node.id = ["P", "Q", "T", "R"] ∧
        LoopAndFeeder.network.NestedOrder component ∧
        LoopAndFeeder.network.DepthFirstOrder component := by
  have hids : (LoopAndFeeder.network.reachableNodes "P").map (List.map Node.id) =
      .ok ["P", "Q", "T", "R"] := by decide +kernel
  have hpresent : "P" ∈ LoopAndFeeder.network.nodes.map Node.id := by decide +kernel
  obtain ⟨start, hstart, hid⟩ := List.mem_map.mp hpresent
  obtain ⟨component, hok, hnested, hdepthFirst⟩ :=
    discoveryOrder_exact LoopAndFeeder.network_isBuilt hstart
  rw [hid] at hok hdepthFirst
  rw [hok] at hids
  exact ⟨LoopAndFeeder.network_isBuilt, LoopAndFeeder.network_radial, start, hstart, hid,
    component, hok, Except.ok.inj hids, hnested, hdepthFirst LoopAndFeeder.network_radial⟩

/-- From `S` the walk goes on to `A` and then to the spur, while `K`, which is beside `A`,
still waits. -/
theorem discoveryOrder_leaves_neighbor :
    LoopAndFeeder.network.IsBuilt ∧
    ∃ component, LoopAndFeeder.network.reachableNodes "S" = .ok component ∧
      component.map Node.id = ["S", "A", "J", "K"] ∧
      ¬LoopAndFeeder.network.DepthFirstOrder component := by
  have hids : (LoopAndFeeder.network.reachableNodes "S").map (List.map Node.id) =
      .ok ["S", "A", "J", "K"] := by decide +kernel
  obtain ⟨component, hok, hcomponent⟩ := (map_eq_ok_iff _ _ _).mp hids
  refine ⟨LoopAndFeeder.network_isBuilt, component, hok, hcomponent, fun hdepthFirst => ?_⟩
  obtain ⟨s, rest, rfl, -, hrest⟩ := List.map_eq_cons_iff.mp hcomponent
  obtain ⟨a, rest, rfl, ha, hrest⟩ := List.map_eq_cons_iff.mp hrest
  obtain ⟨j, rest, rfl, hj, hrest⟩ := List.map_eq_cons_iff.mp hrest
  obtain ⟨k, rest, rfl, hk, -⟩ := List.map_eq_cons_iff.mp hrest
  obtain ⟨d, hd, -⟩ := hdepthFirst [s] a [] j (k :: rest) rfl k List.mem_cons_self
    (by rw [ha, hk]; decide +kernel) (by rw [ha, hj]; decide +kernel)
  cases hd

end GridSetup
