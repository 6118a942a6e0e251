import GridSetup.Proofs.FirstGreatest
import GridSetup.Proofs.Reach
import GridSetup.Proofs.Traversal
import GridSetup.Survey.MainComponent
import Mathlib.Data.Set.Card

/-! # The main component is the earliest largest one

The marks only spare work. The marked ids always make up whole components,
those of the nodes visited so far, so a node that is passed over lies in a
component that was considered before and cannot be larger than the one kept. -/

namespace GridSetup

namespace Network

variable {network : Network} {visits : List Node}

/-- The number of nodes linked to a node, itself included. -/
noncomputable def componentSize (network : Network) (id : String) : Nat :=
  {b | network.Linked id b}.ncard

/-- Of the visited nodes this is the first whose component is largest. -/
def IsFirstLargest (network : Network) (visits : List Node) (node : Node) : Prop :=
  ∃ before after, visits = before ++ node :: after ∧
    (∀ other ∈ before, network.componentSize other.id < network.componentSize node.id) ∧
    ∀ other ∈ after, network.componentSize other.id ≤ network.componentSize node.id

/-- These are the nodes reachable from the first visited node whose component
is largest, or none if no node was visited. -/
def IsMain (network : Network) (visits component : List Node) : Prop :=
  (visits = [] ∧ component = []) ∨
    ∃ node, network.IsFirstLargest visits node ∧
      network.reachableNodes node.id = .ok component

/-! ## Sizes -/

theorem Linked.componentSize_eq {a b : String} (h : network.Linked a b) :
    network.componentSize a = network.componentSize b := by
  have same : {c | network.Linked a c} = {c | network.Linked b c} :=
    Set.ext fun c => ⟨fun hc => h.symm.trans hc, fun hc => h.trans hc⟩
  rw [componentSize, componentSize, same]

/-- What is reachable is as long as the component is large, and never empty. -/
theorem Coherent.reachableNodes_length (coherent : network.Coherent) {start : Node}
    (hstart : start ∈ network.nodes) {component : List Node}
    (h : network.reachableNodes start.id = .ok component) :
    component.length = network.componentSize start.id ∧ 0 < component.length := by
  obtain ⟨nodes, hnodes, hnodup, hhead, -, hmem⟩ := coherent.reachableNodes_exact hstart
  rw [hnodes] at h
  cases h
  have set_eq : {b | network.Linked start.id b} = ↑(component.map Node.id).toFinset := by
    ext b
    simp only [Set.mem_ofPred_eq, List.coe_toFinset]
    exact (hmem b).symm
  constructor
  · rw [componentSize, set_eq, Set.ncard_coe_finset, List.toFinset_card_of_nodup hnodup,
      List.length_map]
  · cases component with
    | nil => cases hhead
    | cons => exact Nat.succ_pos _

/-! ## The first of the largest -/

theorem isFirstLargest_iff {node : Node} : network.IsFirstLargest visits node ↔
    FirstGreatest (fun node => network.componentSize node.id) visits node :=
  Iff.rfl

theorem IsFirstLargest.mem {node : Node} (h : network.IsFirstLargest visits node) :
    node ∈ visits :=
  (isFirstLargest_iff.mp h).mem

theorem IsFirstLargest.componentSize_le {node : Node} (h : network.IsFirstLargest visits node) :
    ∀ other ∈ visits, network.componentSize other.id ≤ network.componentSize node.id :=
  (isFirstLargest_iff.mp h).le

theorem IsFirstLargest.unique {a b : Node} (ha : network.IsFirstLargest visits a)
    (hb : network.IsFirstLargest visits b) : a = b :=
  (isFirstLargest_iff.mp ha).unique (isFirstLargest_iff.mp hb)

theorem IsFirstLargest.append_larger {node : Node}
    (h : ∀ other ∈ visits, network.componentSize other.id < network.componentSize node.id) :
    network.IsFirstLargest (visits ++ [node]) node :=
  isFirstLargest_iff.mpr (.concat_greater h)

theorem IsFirstLargest.append_smaller {node other : Node}
    (h : network.IsFirstLargest visits node)
    (hle : network.componentSize other.id ≤ network.componentSize node.id) :
    network.IsFirstLargest (visits ++ [other]) node :=
  isFirstLargest_iff.mpr ((isFirstLargest_iff.mp h).concat_le hle)

theorem IsMain.unique {component component' : List Node}
    (h : network.IsMain visits component) (h' : network.IsMain visits component') :
    component = component' := by
  rcases h with ⟨rfl, rfl⟩ | ⟨node, hnode, hok⟩
  · rcases h' with ⟨-, rfl⟩ | ⟨node, hnode, -⟩
    · rfl
    · cases hnode.mem
  · rcases h' with ⟨rfl, -⟩ | ⟨node', hnode', hok'⟩
    · cases hnode.mem
    · rw [hnode.unique hnode', hok'] at hok
      cases hok
      rfl

end Network

/-- The longer of two components, the first one if they are equally long. -/
def longer (kept component : List Node) : List Node :=
  if kept.length < component.length then component else kept

namespace Network

variable {network : Network} {visits : List Node}

/-- Keeping the longer one keeps the main component. -/
theorem Coherent.isMain_longer (coherent : network.Coherent)
    (hsub : visits ⊆ network.nodes) {kept component : List Node} {node : Node}
    (hkept : network.IsMain visits kept) (hn : node ∈ network.nodes)
    (hok : network.reachableNodes node.id = .ok component) :
    network.IsMain (visits ++ [node]) (longer kept component) := by
  obtain ⟨hlength, hpos⟩ := coherent.reachableNodes_length hn hok
  rcases hkept with ⟨rfl, rfl⟩ | ⟨best, hbest, hbestOk⟩
  · rw [longer, if_pos (by simpa using hpos)]
    exact .inr ⟨node, .append_larger (by simp), hok⟩
  · obtain ⟨hbestLength, -⟩ := coherent.reachableNodes_length (hsub hbest.mem) hbestOk
    rw [longer]
    split
    · rename_i hlt
      refine .inr ⟨node, .append_larger fun other ho => ?_, hok⟩
      have := hbest.componentSize_le other ho
      omega
    · rename_i hle
      exact .inr ⟨best, hbest.append_smaller (by omega), hbestOk⟩

end Network

/-! ## Marks -/

namespace MainComponent

variable {network : Network} {visits : List Node}

/-- The visitor without marks, which looks at the component of every node. -/
def naiveVisitor : Visitor (List Node) := fun network node kept =>
  match network.reachableNodes node.id with
  | .error fault => { state := kept, fault }
  | .ok component => { state := longer kept component }

/-- The state agrees with the nodes visited so far: marked are the ids of all
nodes linked to one of them. -/
structure Tracks (network : Network) (visits : List Node) (state : MainComponent) : Prop where
  marked : ∀ id, id ∈ state.marked ↔ ∃ node ∈ visits, network.Linked node.id id
  main : network.IsMain visits state.nodes

theorem visitor_succeedsOn (coherent : network.Coherent) :
    visitor.SucceedsOn network network.nodes := by
  intro node hn state
  obtain ⟨component, hcomponent, -⟩ := coherent.reachableNodes_exact hn
  rw [visitor, hcomponent]
  split <;> rfl

theorem naiveVisitor_succeedsOn (coherent : network.Coherent) :
    naiveVisitor.SucceedsOn network network.nodes := by
  intro node hn kept
  obtain ⟨component, hcomponent, -⟩ := coherent.reachableNodes_exact hn
  rw [naiveVisitor, hcomponent]

/-- A marked node lies in a component no larger than the one kept, so it makes
no difference. -/
theorem Tracks.pass_over {state : MainComponent} (h : Tracks network visits state) {node : Node}
    (hmarked : node.id ∈ state.marked) : Tracks network (visits ++ [node]) state where
  marked id := by
    simp only [h.marked, List.mem_append, List.mem_singleton, or_and_right, exists_or,
      exists_eq_left]
    constructor
    · exact .inl
    · intro hgiven
      rcases hgiven with hid | hid
      · exact hid
      · obtain ⟨seen, hseen, hlink⟩ := (h.marked node.id).mp hmarked
        exact ⟨seen, hseen, hlink.trans hid⟩
  main := by
    obtain ⟨seen, hseen, hlink⟩ := (h.marked node.id).mp hmarked
    rcases h.main with ⟨rfl, -⟩ | ⟨best, hbest, hok⟩
    · cases hseen
    · refine .inr ⟨best, hbest.append_smaller ?_, hok⟩
      rw [← hlink.componentSize_eq]
      exact hbest.componentSize_le seen hseen

theorem Tracks.consider {state : MainComponent} (h : Tracks network visits state)
    (coherent : network.Coherent) (hsub : visits ⊆ network.nodes)
    {node : Node} (hn : node ∈ network.nodes) {component : List Node}
    (hok : network.reachableNodes node.id = .ok component) :
    Tracks network (visits ++ [node]) (state.consider component) where
  marked id := by
    obtain ⟨nodes, hnodes, -, -, -, hmem⟩ := coherent.reachableNodes_exact hn
    rw [hnodes] at hok
    cases hok
    simp only [MainComponent.consider, List.mem_append, hmem, h.marked, List.mem_singleton,
      or_and_right, exists_or, exists_eq_left]
    exact or_comm
  main := coherent.isMain_longer hsub h.main hn hok

theorem Tracks.visit {state : MainComponent} (h : Tracks network visits state)
    (coherent : network.Coherent) (hsub : visits ⊆ network.nodes)
    {node : Node} (hn : node ∈ network.nodes) :
    Tracks network (visits ++ [node]) (visitor network node state).state := by
  obtain ⟨component, hok, -⟩ := coherent.reachableNodes_exact hn
  rw [visitor, hok]
  split
  · rename_i hmarked
    exact h.pass_over hmarked
  · exact h.consider coherent hsub hn hok

/-- After any visits the main component is the earliest largest one. -/
theorem traverse_tracks (coherent : network.Coherent) (hsub : visits ⊆ network.nodes) :
    Tracks network visits (traverse visitor network visits {}).state := by
  have start : Tracks network [] {} := ⟨by simp, .inl ⟨rfl, rfl⟩⟩
  exact traverse_invariant ((visitor_succeedsOn coherent).mono hsub)
    (fun before hbefore node hn state h =>
      h.visit coherent (List.Subset.trans hbefore hsub) (hsub hn)) start

theorem traverse_naive_isMain (coherent : network.Coherent) (hsub : visits ⊆ network.nodes) :
    network.IsMain visits (traverse naiveVisitor network visits []).state := by
  refine traverse_invariant ((naiveVisitor_succeedsOn coherent).mono hsub) ?_ (.inl ⟨rfl, rfl⟩)
  intro before hbefore node hn kept hkept
  obtain ⟨component, hok, -⟩ := coherent.reachableNodes_exact (hsub hn)
  rw [naiveVisitor, hok]
  exact coherent.isMain_longer (List.Subset.trans hbefore hsub) hkept (hsub hn) hok

end MainComponent
end GridSetup
