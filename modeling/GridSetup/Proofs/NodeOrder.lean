import GridSetup.Node
import Mathlib.Data.List.Nodup
import Mathlib.Data.String.Basic
import Mathlib.Order.Compare

/-! # Nodes in order

Nodes are sorted by id and nothing else, and sorting is stable. In a sorted list
the nodes of one id stand next to each other, so that to keep the last of each run
is to keep the last one that was given for each id. -/

namespace GridSetup.Node

theorem order_isLE_iff (a b : Node) : (order a b).isLE = true ↔ a.id ≤ b.id :=
  Ordering.isLE_iff_ne_gt.trans compare_le_iff_le

theorem same_iff (a b : Node) : same a b = true ↔ a.id = b.id :=
  beq_iff_eq

/-- Two nodes count as the same exactly if neither comes before the other. -/
theorem order_eq_eq_iff (a b : Node) : order a b = .eq ↔ same a b = true :=
  compare_eq_iff_eq.trans (same_iff a b).symm

/-- The nodes of one id, in the order in which they are given. -/
def withId (id : String) (nodes : List Node) : List Node :=
  nodes.filter fun node => node.id == id

theorem withId_cons (id : String) (node : Node) (rest : List Node) :
    withId id (node :: rest) = if node.id = id then node :: withId id rest else withId id rest := by
  simp [withId, List.filter_cons]

/-! ## Sorting -/

theorem order_trans (a b c : Node) (hab : (order a b).isLE = true)
    (hbc : (order b c).isLE = true) : (order a c).isLE = true := by
  rw [order_isLE_iff] at hab hbc ⊢
  exact le_trans hab hbc

theorem order_total (a b : Node) : ((order a b).isLE || (order b a).isLE) = true := by
  rw [Bool.or_eq_true, order_isLE_iff, order_isLE_iff]
  exact le_total a.id b.id

theorem sort_perm (nodes : List Node) : (sort nodes).Perm nodes :=
  List.mergeSort_perm nodes _

theorem sort_ordered (nodes : List Node) : (sort nodes).Pairwise fun a b => a.id ≤ b.id :=
  (List.pairwise_mergeSort order_trans order_total nodes).imp fun h => (order_isLE_iff _ _).mp h

/-- Sorting does not change the order among the nodes of one id. -/
theorem sort_stable (id : String) (nodes : List Node) :
    withId id (sort nodes) = withId id nodes := by
  have halike : (withId id nodes).Pairwise fun a b => (order a b).isLE = true := by
    refine List.pairwise_iff_forall_sublist.mpr fun {a b} hab => ?_
    have ha := (List.mem_filter.mp (hab.subset List.mem_cons_self)).2
    have hb := (List.mem_filter.mp (hab.subset (List.mem_cons_of_mem a List.mem_cons_self))).2
    rw [order_isLE_iff, beq_iff_eq.mp ha, beq_iff_eq.mp hb]
  have hkept : (withId id nodes).Sublist (sort nodes) :=
    List.sublist_mergeSort order_trans order_total halike List.filter_sublist
  have hsub : (withId id nodes).Sublist (withId id (sort nodes)) := by
    have := hkept.filter fun node => node.id == id
    rwa [withId, List.filter_filter, funext fun node : Node => Bool.and_self _] at this
  exact (hsub.eq_of_length ((sort_perm nodes).filter _).length_eq.symm).symm

/-! ## Last nodes -/

theorem dropShadowed_sublist (nodes : List Node) : (dropShadowed nodes).Sublist nodes := by
  fun_induction dropShadowed nodes with
  | case1 => exact .slnil
  | case2 => exact .refl _
  | case3 node next rest _ ih => exact ih.cons node
  | case4 node next rest _ ih => exact ih.cons_cons node

/-- Of a list in order one node is left for each id, the last one. -/
theorem dropShadowed_exact {nodes : List Node}
    (ordered : nodes.Pairwise fun a b => a.id ≤ b.id) :
    (dropShadowed nodes).Pairwise (fun a b => a.id < b.id) ∧
      ∀ id, withId id (dropShadowed nodes) = (withId id nodes).getLast?.toList := by
  fun_induction dropShadowed nodes with
  | case1 => exact ⟨.nil, fun _ => rfl⟩
  | case2 node =>
    refine ⟨List.pairwise_singleton _ _, fun id => ?_⟩
    rw [withId_cons]
    split <;> rfl
  | case3 node next rest hsame ih =>
    obtain ⟨hascending, hlast⟩ := ih (List.pairwise_cons.mp ordered).2
    refine ⟨hascending, fun id => ?_⟩
    rw [hlast, withId_cons id node, (same_iff node next).mp hsame]
    split
    · -- `node` is followed by another node of its id
      rename_i hid
      rw [withId_cons, if_pos hid, List.getLast?_cons_cons]
    · rfl
  | case4 node next rest hdiffer ih =>
    obtain ⟨hnode, hrest⟩ := List.pairwise_cons.mp ordered
    obtain ⟨hascending, hlast⟩ := ih hrest
    have hfirst : node.id < next.id :=
      lt_of_le_of_ne (hnode next List.mem_cons_self) fun heq => hdiffer ((same_iff _ _).mpr heq)
    have hbelow : ∀ other ∈ next :: rest, node.id < other.id := by
      intro other ho
      rcases List.mem_cons.mp ho with rfl | ho
      · exact hfirst
      · exact lt_of_lt_of_le hfirst ((List.pairwise_cons.mp hrest).1 other ho)
    refine ⟨List.pairwise_cons.mpr ⟨fun other ho => ?_, hascending⟩, fun id => ?_⟩
    · exact hbelow other ((dropShadowed_sublist _).subset ho)
    rw [withId_cons, withId_cons id node, hlast]
    split
    · rename_i hid
      have hnone : withId id (next :: rest) = [] :=
        List.filter_eq_nil_iff.mpr fun other ho heq =>
          (hbelow other ho).ne (hid.trans (beq_iff_eq.mp heq).symm)
      rw [hnone]
      rfl
    · rfl

/-- The ordered set of nodes holds the ids in ascending order, and for each id the
node of that id that was given last. -/
theorem orderedSet_exact (nodes : List Node) :
    (orderedSet nodes).Pairwise (fun a b => a.id < b.id) ∧
      ∀ id, withId id (orderedSet nodes) = (withId id nodes).getLast?.toList := by
  obtain ⟨hascending, hlast⟩ := dropShadowed_exact (sort_ordered nodes)
  exact ⟨hascending, fun id => (hlast id).trans (by rw [sort_stable])⟩

end GridSetup.Node
