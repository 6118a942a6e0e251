import GridSetup.Proofs.Traversal

/-! # A panel does what its members do alone

A panel shows each node to all of its members before it goes on to the next
one. As long as no member fails this is the same as letting each member go
through all nodes on its own. A failure leaves three sorts of members behind:
those that were shown the node on which it came about, the one that failed on
it, and those that were not shown it any more. -/

namespace GridSetup

variable {σ : Type} {network : Network}

/-! ## Traversals in parts -/

theorem Outcome.andThen_of_fault {outcome : Outcome σ} {fault : Fault}
    (h : outcome.fault = some fault) (next : σ → Outcome σ) : outcome.andThen next = outcome := by
  rw [Outcome.andThen, h]

theorem Outcome.andThen_assoc (outcome : Outcome σ) (next last : σ → Outcome σ) :
    (outcome.andThen next).andThen last =
      outcome.andThen fun state => (next state).andThen last := by
  cases hown : outcome.fault with
  | some fault => simp only [Outcome.andThen_of_fault hown]
  | none =>
    cases hnext : (next outcome.state).fault with
    | some fault => simp [Outcome.andThen, hown, hnext]
    | none => simp [Outcome.andThen, hown, hnext]

theorem traverse_append (visitor : Visitor σ) (before after : List Node) (state : σ) :
    traverse visitor network (before ++ after) state =
      (traverse visitor network before state).andThen (traverse visitor network after) := by
  induction before generalizing state with
  | nil => simp [traverse, Outcome.andThen]
  | cons node rest ih =>
    rw [List.cons_append, traverse, traverse, Outcome.andThen_assoc]
    exact congrArg _ (funext ih)

/-- A traversal that fails does so on some node, after all nodes before it went
well. -/
theorem exists_of_traverse_fault {visitor : Visitor σ} {visits : List Node} {state : σ}
    {fault : Fault} (h : (traverse visitor network visits state).fault = some fault) :
    ∃ before node after, visits = before ++ node :: after ∧
      (traverse visitor network before state).fault = none ∧
      (visitor network node (traverse visitor network before state).state).fault = some fault := by
  induction visits generalizing state with
  | nil => cases h
  | cons node rest ih =>
    cases hnode : (visitor network node state).fault with
    | some other =>
      rw [traverse, Outcome.andThen_of_fault hnode, hnode] at h
      exact ⟨[], node, rest, rfl, rfl, hnode.trans h⟩
    | none =>
      obtain ⟨-, hrest⟩ := Outcome.andThen_of_ok hnode (traverse visitor network rest)
      rw [traverse, hrest] at h
      obtain ⟨before, last, after, rfl, hbefore, hlast⟩ := ih h
      obtain ⟨hs, hf⟩ := Outcome.andThen_of_ok hnode (traverse visitor network before)
      refine ⟨node :: before, last, after, rfl, ?_, ?_⟩
      · rw [traverse, hf, hbefore]
      · rw [traverse, hs, hlast]

theorem traverse_singleton (visitor : Visitor σ) (node : Node) (state : σ) :
    traverse visitor network [node] state = visitor network node state := by
  rw [traverse]
  generalize visitor network node state = outcome
  obtain ⟨after, events, fault⟩ := outcome
  cases fault <;> simp [traverse, Outcome.andThen]

/-- Once a node is reached, what the visitor does on it is what the traversal
comes to. -/
theorem traverse_concat {visitor : Visitor σ} {before : List Node} {state : σ}
    (h : (traverse visitor network before state).fault = none) (node : Node) :
    (traverse visitor network (before ++ [node]) state).state =
        (visitor network node (traverse visitor network before state).state).state ∧
      (traverse visitor network (before ++ [node]) state).fault =
        (visitor network node (traverse visitor network before state).state).fault := by
  rw [traverse_append, ← traverse_singleton visitor node]
  exact Outcome.andThen_of_ok h _

/-- Nodes after the one that a traversal fails on make no difference. -/
theorem traverse_of_fault {visitor : Visitor σ} {before : List Node} {node : Node} {state : σ}
    {fault : Fault}
    (h : (traverse visitor network (before ++ [node]) state).fault = some fault)
    (after : List Node) :
    traverse visitor network (before ++ node :: after) state =
      traverse visitor network (before ++ [node]) state := by
  rw [List.append_cons, traverse_append, Outcome.andThen_of_fault h]

/-! ## Members by position -/

/-- The member of a panel at a position. -/
def Panel.member : {types : List Type} → Panel types → (i : Fin types.length) →
    Visitor (types.get i)
  | _, .cons first _, ⟨0, _⟩ => first
  | _, .cons _ rest, ⟨i + 1, h⟩ => rest.member ⟨i, Nat.lt_of_succ_lt_succ h⟩

/-- The state of the member at a position. -/
def States.get : {types : List Type} → States types → (i : Fin types.length) → types.get i
  | _ :: _, states, ⟨0, _⟩ => states.1
  | _ :: types, states, ⟨i + 1, h⟩ =>
    @States.get types states.2 ⟨i, Nat.lt_of_succ_lt_succ h⟩

namespace Panel

variable {types : List Type}

/-- What a member of the panel does if it goes through the nodes alone. -/
def alone (panel : Panel types) (network : Network) (visits : List Node)
    (states : States types) (i : Fin types.length) : Outcome (types.get i) :=
  traverse (panel.member i) network visits (states.get i)

/-- On a node that no member fails on each of them does its own visit. -/
theorem visit_of_ok (panel : Panel types) {node : Node} {states : States types}
    (h : (panel.visitor network node states).fault = none) (i : Fin types.length) :
    (panel.member i network node (states.get i)).fault = none ∧
      (panel.visitor network node states).state.get i =
        (panel.member i network node (states.get i)).state := by
  induction panel with
  | nil => exact i.elim0
  | cons first rest ih =>
    cases hfirst : (first network node states.1).fault with
    | some fault => simp [Panel.visitor, hfirst] at h
    | none =>
      simp only [Panel.visitor, hfirst] at h ⊢
      obtain ⟨i, hi⟩ := i
      cases i with
      | zero => exact ⟨hfirst, rfl⟩
      | succ i => exact ih h ⟨i, Nat.lt_of_succ_lt_succ hi⟩

/-- What a panel leaves behind on a node that a member failed on: the members
before it did their visits, those after it did not. -/
theorem visit_of_fault (panel : Panel types) {node : Node} {states : States types} {fault : Fault}
    (h : (panel.visitor network node states).fault = some fault) :
    ∃ j : Fin types.length,
      (panel.member j network node (states.get j)).fault = some fault ∧
      (panel.visitor network node states).state.get j =
        (panel.member j network node (states.get j)).state ∧
      (∀ i < j, (panel.member i network node (states.get i)).fault = none ∧
        (panel.visitor network node states).state.get i =
          (panel.member i network node (states.get i)).state) ∧
      ∀ i, j < i → (panel.visitor network node states).state.get i = states.get i := by
  induction panel with
  | nil => cases h
  | cons first rest ih =>
    cases hfirst : (first network node states.1).fault with
    | some other =>
      simp only [Panel.visitor, hfirst] at h ⊢
      refine ⟨⟨0, Nat.succ_pos _⟩, hfirst.trans h, rfl, fun i hi => ?_, fun i hi => ?_⟩
      · exact absurd hi (Nat.not_lt_zero i)
      · obtain ⟨i, hlt⟩ := i
        cases i with
        | zero => exact absurd hi (Nat.lt_irrefl 0)
        | succ i => rfl
    | none =>
      simp only [Panel.visitor, hfirst] at h ⊢
      obtain ⟨j, hj, hown, hearlier, hlater⟩ := ih h
      refine ⟨j.succ, hj, hown, fun i hi => ?_, fun i hi => ?_⟩
      · obtain ⟨i, hlt⟩ := i
        cases i with
        | zero => exact ⟨hfirst, rfl⟩
        | succ i => exact hearlier ⟨i, Nat.lt_of_succ_lt_succ hlt⟩ (Nat.lt_of_succ_lt_succ hi)
      · obtain ⟨i, hlt⟩ := i
        cases i with
        | zero => exact absurd hi (Nat.not_lt_zero _)
        | succ i => exact hlater ⟨i, Nat.lt_of_succ_lt_succ hlt⟩ (Nat.lt_of_succ_lt_succ hi)

/-! ## Whole traversals -/

/-- Where no member fails each of them ends as if it had been alone. -/
theorem traverse_of_ok (panel : Panel types) {visits : List Node} {states : States types}
    (h : (traverse panel.visitor network visits states).fault = none) (i : Fin types.length) :
    (panel.alone network visits states i).fault = none ∧
      (traverse panel.visitor network visits states).state.get i =
        (panel.alone network visits states i).state := by
  induction visits generalizing states with
  | nil => exact ⟨rfl, rfl⟩
  | cons node rest ih =>
    cases hnode : (panel.visitor network node states).fault with
    | some fault =>
      rw [traverse, Outcome.andThen_of_fault hnode, hnode] at h
      cases h
    | none =>
      obtain ⟨hs, hf⟩ := Outcome.andThen_of_ok hnode (traverse panel.visitor network rest)
      obtain ⟨hown, hstate⟩ := panel.visit_of_ok hnode i
      obtain ⟨hs', hf'⟩ := Outcome.andThen_of_ok hown (traverse (panel.member i) network rest)
      rw [traverse, hf] at h
      obtain ⟨hrest, heq⟩ := ih h
      rw [alone, hstate] at hrest heq
      rw [alone, traverse, traverse, hs, hs', hf']
      exact ⟨hrest, heq⟩

/-- The traversal of a panel stopped on a node because the member at position
`j` failed on it. The members before it were shown the nodes up to this one, the
members after it only those before, and the nodes behind were shown to none. -/
structure StopsAt (panel : Panel types) (network : Network) (states : States types)
    (before : List Node) (node : Node) (j : Fin types.length) (fault : Fault)
    (outcome : Outcome (States types)) : Prop where
  reached : (panel.alone network before states j).fault = none
  failed : (panel.member j network node (panel.alone network before states j).state).fault =
    some fault
  own : outcome.state.get j =
    (panel.member j network node (panel.alone network before states j).state).state
  earlier : ∀ i < j, (panel.alone network (before ++ [node]) states i).fault = none ∧
    outcome.state.get i = (panel.alone network (before ++ [node]) states i).state
  later : ∀ i, j < i → (panel.alone network before states i).fault = none ∧
    outcome.state.get i = (panel.alone network before states i).state
  unseen : ∀ after, traverse panel.visitor network (before ++ node :: after) states = outcome

theorem traverse_of_fault (panel : Panel types) {visits : List Node} {states : States types}
    {fault : Fault} (h : (traverse panel.visitor network visits states).fault = some fault) :
    ∃ before node after j, visits = before ++ node :: after ∧
      panel.StopsAt network states before node j fault
        (traverse panel.visitor network visits states) := by
  obtain ⟨before, node, after, rfl, hbefore, hnode⟩ := exists_of_traverse_fault h
  obtain ⟨j, hfailed, hown, hearlier, hlater⟩ := panel.visit_of_fault hnode
  have halone := panel.traverse_of_ok hbefore
  obtain ⟨hstate, hfault⟩ := traverse_concat hbefore node
  have hstop : ∀ rest, traverse panel.visitor network (before ++ node :: rest) states =
      traverse panel.visitor network (before ++ [node]) states :=
    GridSetup.traverse_of_fault (hfault.trans hnode)
  refine ⟨before, node, after, j, rfl, ?_⟩
  rw [hstop after]
  rw [← hstate] at hown hearlier hlater
  refine {
    reached := (halone j).1
    failed := by rw [← (halone j).2]; exact hfailed
    own := by rw [← (halone j).2]; exact hown
    earlier := fun i hi => ?_
    later := fun i hi => ⟨(halone i).1, (hlater i hi).trans (halone i).2⟩
    unseen := hstop }
  obtain ⟨hok, hs⟩ := hearlier i hi
  obtain ⟨hs', hf'⟩ := GridSetup.traverse_concat (halone i).1 node
  rw [(halone i).2] at hok hs
  exact ⟨hf'.trans hok, hs.trans hs'.symm⟩

end Panel
end GridSetup
