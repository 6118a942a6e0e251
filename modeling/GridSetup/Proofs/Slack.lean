import GridSetup.Proofs.MainNodes

/-! # The slack node

A candidate is given up only for the node that is visited next. So the one kept in
the end is a visited node, and there is one as soon as a node was visited. -/

namespace GridSetup
namespace SlackCandidate

variable {network : Network} {visits : List Node}

theorem better_cases (best : Option SlackCandidate) (other : SlackCandidate) :
    better best other = other ∨ best = some (better best other) := by
  cases best with
  | none => exact .inl rfl
  | some best =>
    rw [better]
    split
    · exact .inl rfl
    · exact .inr rfl

/-- The candidate agrees with the nodes visited so far: it is one of them with the
number of its neighbours, and is missing only as long as there are none. -/
def Tracks (network : Network) (visits : List Node) : Option SlackCandidate → Prop
  | none => visits = []
  | some candidate => candidate.node ∈ visits ∧
      network.neighborCount candidate.node.id = .ok candidate.neighbors

theorem Tracks.eq_none_iff {best : Option SlackCandidate} (h : Tracks network visits best) :
    best = none ↔ visits = [] := by
  cases best with
  | none => exact iff_of_true rfl h
  | some candidate => exact iff_of_false nofun (List.ne_nil_of_mem h.1)

/-- A visit weighs the node against the best one so far. -/
theorem visit_eq (coherent : network.Coherent) {node : Node} (hn : node ∈ network.nodes)
    (best : Option SlackCandidate) : ∃ neighbors,
      network.neighborCount node.id = .ok neighbors ∧
        (visitor network node best).state = some (better best { node, neighbors }) := by
  obtain ⟨others, hothers, -⟩ := coherent.neighbors_exact hn
  have hcount : network.neighborCount node.id = .ok others.length := by
    rw [Network.neighborCount, hothers]
    rfl
  exact ⟨others.length, hcount, by rw [visitor, hcount]⟩

/-- What holds of the first candidate and of the better one after each further visit
holds of the one that is kept, and there is one as soon as a node was visited. -/
theorem traverse_best {Q : List Node → SlackCandidate → Prop} (coherent : network.Coherent)
    (hsub : visits ⊆ network.nodes)
    (start : ∀ node ∈ visits, ∀ neighbors, network.neighborCount node.id = .ok neighbors →
      Q [node] { node, neighbors })
    (step : ∀ before, before ⊆ visits → ∀ node ∈ visits, ∀ neighbors,
      network.neighborCount node.id = .ok neighbors → ∀ best, Q before best →
        Q (before ++ [node]) (better (some best) { node, neighbors })) :
    ((traverse visitor network visits none).state = none → visits = []) ∧
      ∀ slack ∈ (traverse visitor network visits none).state, Q visits slack := by
  refine traverse_invariant
    (P := fun visits best => (best = none → visits = []) ∧ ∀ slack ∈ best, Q visits slack)
    (coherent.slack_succeedsOn.mono hsub) ?_ ⟨fun _ => rfl, fun _ h => absurd h (by simp)⟩
  intro before hbefore node hn best hbest
  obtain ⟨neighbors, hcount, hvisit⟩ := visit_eq coherent (hsub hn) best
  rw [hvisit]
  refine ⟨fun h => absurd h (Option.some_ne_none _), fun slack hslack => ?_⟩
  obtain rfl := Option.some.inj hslack
  cases best with
  | none =>
    rw [hbest.1 rfl]
    exact start node hn neighbors hcount
  | some best => exact step before hbefore node hn neighbors hcount best (hbest.2 best rfl)

theorem traverse_tracks (coherent : network.Coherent) (hsub : visits ⊆ network.nodes) :
    Tracks network visits (traverse visitor network visits none).state := by
  have run := traverse_best
    (Q := fun visits best => best.node ∈ visits ∧
      network.neighborCount best.node.id = .ok best.neighbors) coherent hsub
    (fun node _ neighbors hcount => ⟨List.mem_cons_self, hcount⟩) ?_
  · cases hbest : (traverse visitor network visits none).state with
    | none => exact run.1 hbest
    | some best => exact run.2 best hbest
  · intro before _ node _ neighbors hcount best hbest
    rcases better_cases (some best) { node, neighbors } with hother | hkept
    · rw [hother]
      exact ⟨List.mem_append_right before List.mem_cons_self, hcount⟩
    · rw [← Option.some.inj hkept]
      exact ⟨List.mem_append_left [node] hbest.1, hbest.2⟩

/-- As soon as a node was visited there is a slack node. -/
theorem exists_slack (coherent : network.Coherent) (hsub : visits ⊆ network.nodes)
    (hne : visits ≠ []) :
    ∃ slack, (traverse visitor network visits none).state = some slack := by
  rw [← Option.ne_none_iff_exists']
  exact fun hnone => hne ((traverse_tracks coherent hsub).eq_none_iff.mp hnone)

end SlackCandidate
end GridSetup
