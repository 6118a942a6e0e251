import GridSetup.Proofs.MainNodes

/-! # Loads and shunts of the visited nodes

The loads of the visited nodes are taken over node by node, and the shunts are
added up by voltage level. Neither depends on anything but the nodes visited. -/

namespace GridSetup

open Std (ExtTreeMap)

variable {network : Network}

namespace LoadDefinition

/-- The definitions of the loads of a node, of which there are none if these are
ignored. -/
def definitionsAt (threshold : Float) (node : Node) : List LoadDefinition :=
  if isIgnored threshold node then [] else node.loads.map of

theorem mem_definitionsAt {threshold : Float} {node : Node} {definition : LoadDefinition}
    (h : definition ∈ definitionsAt threshold node) :
    ∃ load ∈ node.loads, of load = definition := by
  rw [definitionsAt] at h
  split at h
  · cases h
  · exact List.mem_map.mp h

theorem traverse_state (threshold : Float) (visits : List Node) :
    (traverse (visitor threshold) network visits []).state =
      visits.flatMap (definitionsAt threshold) := by
  refine traverse_invariant
    (P := fun visits state => state = visits.flatMap (definitionsAt threshold))
    (Network.Coherent.loads_succeedsOn visits threshold) ?_ rfl
  intro before _ node _ state hstate
  rw [hstate, visitor, List.flatMap_append, List.flatMap_singleton, definitionsAt]
  split <;> simp

end LoadDefinition

/-- The number of shunts on the nodes of a voltage level, if there are such
nodes. -/
def shuntsOfLevel (visits : List Node) (level : String) : Option Nat :=
  if level ∈ visits.map Node.voltageLevel then
    some ((visits.filter fun node => node.voltageLevel = level).map
      fun node => node.shunts.length).sum
  else none

/-- A level without nodes is counted as if it had nodes without shunts. -/
theorem shuntsOfLevel_getD (visits : List Node) (level : String) :
    (shuntsOfLevel visits level).getD 0 =
      ((visits.filter fun node => node.voltageLevel = level).map
        fun node => node.shunts.length).sum := by
  rw [shuntsOfLevel]
  split
  · rfl
  · rename_i hnone
    have hempty : (visits.filter fun node => node.voltageLevel = level) = [] := by
      rw [List.filter_eq_nil_iff]
      intro other ho hown
      exact hnone (List.mem_map.mpr ⟨other, ho, of_decide_eq_true hown⟩)
    rw [hempty]
    rfl

theorem shuntsOfLevel_concat (visits : List Node) (node : Node) (level : String) :
    shuntsOfLevel (visits ++ [node]) level =
      if node.voltageLevel = level then
        some ((shuntsOfLevel visits level).getD 0 + node.shunts.length)
      else shuntsOfLevel visits level := by
  by_cases hlevel : node.voltageLevel = level
  · rw [if_pos hlevel, shuntsOfLevel_getD]
    simp [shuntsOfLevel, hlevel]
  · simp [shuntsOfLevel, hlevel, eq_comm (a := level)]

theorem shuntsOfLevel_perm {visits visits' : List Node} (h : visits.Perm visits') (level : String) :
    shuntsOfLevel visits level = shuntsOfLevel visits' level := by
  have hsum := (((h.filter fun node => decide (node.voltageLevel = level)).map
    fun node => node.shunts.length).sum_eq)
  simp only [shuntsOfLevel, (h.map Node.voltageLevel).mem_iff, hsum]

theorem shuntsOfLevel_unregistered (visits : List Node) (level : String) :
    shuntsOfLevel (visits.map Node.unregistered) level = shuntsOfLevel visits level := by
  rw [shuntsOfLevel, List.map_map, List.filter_map, List.map_map]
  rfl

theorem shuntCount_exact (visits : List Node) : ∀ level : String,
    (traverse shuntCountVisitor network visits ∅).state[level]? = shuntsOfLevel visits level := by
  have succeeds : shuntCountVisitor.SucceedsOn network visits := fun _ _ _ => rfl
  have start : ∀ level : String,
      (∅ : ExtTreeMap String Nat)[level]? = shuntsOfLevel [] level := fun _ => rfl
  refine traverse_invariant
    (P := fun visits (counts : ExtTreeMap String Nat) =>
      ∀ level : String, counts[level]? = shuntsOfLevel visits level) succeeds ?_ start
  intro before _ node _ counts hcounts level
  rw [shuntsOfLevel_concat, shuntCountVisitor, ExtTreeMap.getElem?_alter]
  simp only [Std.LawfulEqCmp.compare_eq_iff_eq]
  split
  · rename_i hlevel
    rw [hlevel, hcounts]
  · exact hcounts level

end GridSetup
