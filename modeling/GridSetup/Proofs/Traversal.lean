import GridSetup.Survey.Visitor
import Mathlib.Data.List.Basic

/-! # Traversals that cannot fail

A visitor that fails on none of the nodes is folded over all of them, so what
one visit does carries over to the whole traversal. A panel fails on a node
only if one of its members does. -/

namespace GridSetup

/-- A fold brings about what some step adds, if no step undoes it. -/
theorem foldl_iff {α σ : Type} {P : σ → Prop} {step : σ → α → σ} {adds : α → Prop}
    (h : ∀ state x, P (step state x) ↔ P state ∨ adds x) (l : List α) (state : σ) :
    P (l.foldl step state) ↔ P state ∨ ∃ x ∈ l, adds x := by
  induction l generalizing state with
  | nil => simp
  | cons x rest ih => rw [List.foldl_cons, ih, h, or_assoc, List.exists_mem_cons_iff]

variable {σ : Type} {network : Network}

/-- The visitor fails on none of the nodes, whatever state it is in. -/
def Visitor.SucceedsOn (visitor : Visitor σ) (network : Network) (nodes : List Node) : Prop :=
  ∀ node ∈ nodes, ∀ state, (visitor network node state).fault = none

theorem Visitor.SucceedsOn.mono {visitor : Visitor σ} {nodes visits : List Node}
    (h : visitor.SucceedsOn network nodes) (hsub : visits ⊆ nodes) :
    visitor.SucceedsOn network visits :=
  fun node hn => h node (hsub hn)

theorem Outcome.andThen_of_ok {outcome : Outcome σ} (h : outcome.fault = none)
    (next : σ → Outcome σ) :
    (outcome.andThen next).state = (next outcome.state).state ∧
      (outcome.andThen next).fault = (next outcome.state).fault := by
  rw [Outcome.andThen, h]
  exact ⟨rfl, rfl⟩

theorem traverse_of_succeedsOn {visitor : Visitor σ} {visits : List Node}
    (h : visitor.SucceedsOn network visits) (state : σ) :
    (traverse visitor network visits state).fault = none ∧
      (traverse visitor network visits state).state =
        visits.foldl (fun state node => (visitor network node state).state) state := by
  induction visits generalizing state with
  | nil => exact ⟨rfl, rfl⟩
  | cons node rest ih =>
    have hrest := h.mono (List.subset_cons_self node rest)
    obtain ⟨hfault, hstate⟩ := ih hrest (visitor network node state).state
    obtain ⟨hs, hf⟩ := Outcome.andThen_of_ok (h node List.mem_cons_self state)
      (traverse visitor network rest)
    exact ⟨hf.trans hfault, hs.trans hstate⟩

/-- What holds of the start and is carried by each visit from the nodes before
it to those up to it holds of all visits and the final state. -/
theorem traverse_invariant {visitor : Visitor σ} {visits : List Node}
    {P : List Node → σ → Prop} (h : visitor.SucceedsOn network visits)
    (step : ∀ before, before ⊆ visits → ∀ node ∈ visits, ∀ state, P before state →
      P (before ++ [node]) (visitor network node state).state)
    {state : σ} (start : P [] state) : P visits (traverse visitor network visits state).state := by
  rw [(traverse_of_succeedsOn h state).2]
  -- the nodes before are arbitrary, those still to visit are what the induction is on
  suffices run : ∀ rest before state, before ++ rest ⊆ visits → P before state →
      P (before ++ rest)
        (rest.foldl (fun state node => (visitor network node state).state) state) by
    exact run visits [] state (List.Subset.refl visits) start
  intro rest
  induction rest with
  | nil =>
    intro before state _ hstate
    rwa [List.append_nil]
  | cons node rest ih =>
    intro before state hsub hstate
    obtain ⟨hbefore, hrest⟩ := List.append_subset.mp hsub
    have hnode := step before hbefore node (hrest List.mem_cons_self) state hstate
    have := ih (before ++ [node]) _ (by rwa [List.append_assoc]) hnode
    rwa [List.append_assoc] at this

/-- No member of the panel fails on any of the nodes. -/
def Panel.SucceedsOn {types : List Type} : Panel types → Network → List Node → Prop
  | .nil, _, _ => True
  | .cons first rest, network, nodes =>
    Visitor.SucceedsOn first network nodes ∧ rest.SucceedsOn network nodes

theorem Panel.visitor_succeedsOn {nodes : List Node} {types : List Type} (panel : Panel types)
    (h : panel.SucceedsOn network nodes) : Visitor.SucceedsOn panel.visitor network nodes := by
  induction panel with
  | nil => exact fun _ _ _ => rfl
  | cons first rest ih =>
    obtain ⟨hfirst, hrest⟩ := h
    intro node hn state
    rw [Panel.visitor]
    dsimp only
    rw [hfirst node hn state.1]
    exact ih hrest node hn state.2

end GridSetup
