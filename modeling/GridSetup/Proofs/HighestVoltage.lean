import GridSetup.Proofs.Slack
import GridSetup.Proofs.Tolerance

/-! # How high the slack node is

The best candidate is compared with the next node only, and may give way to a node of
a slightly lower voltage with more neighbours. Such steps add up, since being alike is
not transitive: a visited node may exceed the one that is kept in the end. But it does
so only if the tolerance leads down to that one, from visited node to visited node. -/

namespace GridSetup

namespace Node

/-- The voltages of the nodes count as equal. -/
def VoltageAlike (a b : Node) : Prop := Voltage.alike a.nominalVoltage b.nominalVoltage = true

/-- The voltage of a node is higher than that of another by more than the tolerance. -/
def Exceeds (a b : Node) : Prop := Voltage.exceeds a.nominalVoltage b.nominalVoltage

instance (a b : Node) : Decidable (a.Exceeds b) :=
  inferInstanceAs (Decidable (Voltage.exceeds a.nominalVoltage b.nominalVoltage))

end Node

/-- Among the visited nodes a chain leads from one to the other, on which each node is
alike to the next. -/
def AlikeChain (visits : List Node) : Node → Node → Prop :=
  Relation.ReflTransGen fun a b => a ∈ visits ∧ b ∈ visits ∧ a.VoltageAlike b

/-- Among the visited nodes, being alike carries over from one to the next. -/
def AlikeClasses (visits : List Node) : Prop :=
  ∀ a ∈ visits, ∀ b ∈ visits, ∀ c ∈ visits, a.VoltageAlike b → b.VoltageAlike c → a.VoltageAlike c

namespace AlikeChain

variable {visits visits' : List Node} {a b c : Node}

theorem mono (hsub : visits ⊆ visits') (h : AlikeChain visits a b) : AlikeChain visits' a b := by
  induction h with
  | refl => exact .refl
  | tail _ step ih => exact ih.tail ⟨hsub step.1, hsub step.2.1, step.2.2⟩

/-- A node between the ends of a chain is itself the end of one: no step of the chain
passes it by. -/
theorem reaches (h : AlikeChain visits a b) (hc : c ∈ visits) (hac : a.Exceeds c)
    (hcb : c.Exceeds b) : AlikeChain visits a c := by
  induction h using Relation.ReflTransGen.head_induction_on with
  | refl => exact absurd (hac.trans hcb) (Voltage.exceeds.irrefl _)
  | @head a next step _ ih =>
    obtain ⟨ha, hnext, halike⟩ := step
    have hback : next.VoltageAlike a := (Voltage.alike_comm _ _).mp halike
    refine .head ⟨ha, hnext, halike⟩ ?_
    rcases Voltage.alike_or_exceeds (.inr hac) hback with hcn | hcn | hnc
    · exact .single ⟨hnext, hc, (Voltage.alike_comm _ _).mp hcn⟩
    · exact absurd halike ((Voltage.exceeds_iff_higher _ _).mp (hac.trans hcn)).1
    · exact ih hnc

/-- Where being alike carries over, a chain comes down to one step. -/
theorem eq_or_alike (hclasses : AlikeClasses visits) (ha : a ∈ visits)
    (h : AlikeChain visits a b) : a = b ∨ a.VoltageAlike b := by
  induction h with
  | refl => exact .inl rfl
  | @tail b c _ step ih =>
    obtain ⟨hb, hc, halike⟩ := step
    rcases ih with rfl | hab
    · exact .inr halike
    · exact .inr (hclasses a ha b hb c hc hab halike)

end AlikeChain

namespace SlackCandidate

variable {network : Network} {visits : List Node}

/-- The candidate is one of the visited nodes. None that was visited since exceeds it,
and none that was visited before does without a chain that leads from there to it. -/
structure Leads (visits : List Node) (best : SlackCandidate) : Prop where
  latest : ∃ before after, visits = before ++ best.node :: after ∧
    ∀ node ∈ after, ¬node.Exceeds best.node
  chain : ∀ node ∈ visits, node.Exceeds best.node → AlikeChain visits node best.node

theorem Leads.mem {best : SlackCandidate} (h : Leads visits best) : best.node ∈ visits := by
  obtain ⟨before, after, rfl, -⟩ := h.latest
  exact List.mem_append_right before List.mem_cons_self

/-- A candidate just visited leads, if a chain leads to it from all that exceed it. -/
theorem Leads.of_chain {node : Node} {neighbors : Nat}
    (h : ∀ other ∈ visits, other.Exceeds node → AlikeChain (visits ++ [node]) other node) :
    Leads (visits ++ [node]) { node, neighbors } where
  latest := ⟨visits, [], rfl, nofun⟩
  chain other ho hexceeds := by
    rcases List.mem_append.mp ho with ho | ho
    · exact h other ho hexceeds
    · obtain rfl := List.mem_singleton.mp ho
      exact .refl

theorem Leads.keep {best : SlackCandidate} (h : Leads visits best) {node : Node}
    (hnode : ¬node.Exceeds best.node) : Leads (visits ++ [node]) best := by
  obtain ⟨before, after, hvisits, hafter⟩ := h.latest
  refine ⟨⟨before, after ++ [node], by simp [hvisits], ?_⟩, ?_⟩
  · exact List.forall_mem_append.mpr ⟨hafter, List.forall_mem_singleton.mpr hnode⟩
  · intro other ho hexceeds
    rcases List.mem_append.mp ho with ho | ho
    · exact (h.chain other ho hexceeds).mono (List.subset_append_left visits [node])
    · exact absurd (List.mem_singleton.mp ho ▸ hexceeds) hnode

theorem Leads.tie {best : SlackCandidate} (h : Leads visits best) {node : Node}
    (halike : node.VoltageAlike best.node) (neighbors : Nat) :
    Leads (visits ++ [node]) { node, neighbors } := by
  refine .of_chain fun other ho hexceeds => ?_
  have hsub := List.subset_append_left visits [node]
  have hback : best.node.VoltageAlike node := (Voltage.alike_comm _ _).mp halike
  have hstep : AlikeChain (visits ++ [node]) best.node node :=
    .single ⟨hsub h.mem, List.mem_append_right visits List.mem_cons_self, hback⟩
  rcases Voltage.alike_or_exceeds (.inl hexceeds) hback with hother | hother | hother
  · exact .head ⟨hsub ho, hsub h.mem, hother⟩ hstep
  · exact ((h.chain other ho hother).mono hsub).trans hstep
  · exact absurd hback ((Voltage.exceeds_iff_higher _ _).mp (hother.trans hexceeds)).1

theorem Leads.rise {best : SlackCandidate} (h : Leads visits best) {node : Node}
    (hrise : node.Exceeds best.node) (neighbors : Nat) :
    Leads (visits ++ [node]) { node, neighbors } := by
  refine .of_chain fun other ho hexceeds => ?_
  have hchain := (h.chain other ho (hexceeds.trans hrise)).mono
    (List.subset_append_left visits [node])
  exact hchain.reaches (List.mem_append_right visits List.mem_cons_self) hexceeds hrise

theorem beatenBy_cases {best other : SlackCandidate} (h : best.beatenBy other = true) :
    other.node.VoltageAlike best.node ∨ other.node.Exceeds best.node := by
  rw [beatenBy] at h
  split at h
  · exact .inl ‹_›
  · exact .inr ((Voltage.exceeds_iff_higher _ _).mpr ⟨‹_›, h⟩)

theorem not_exceeds_of_not_beatenBy {best other : SlackCandidate}
    (h : ¬best.beatenBy other = true) : ¬other.node.Exceeds best.node := by
  intro hexceeds
  obtain ⟨hapart, hhigher⟩ := (Voltage.exceeds_iff_higher _ _).mp hexceeds
  rw [beatenBy, if_neg hapart] at h
  exact h hhigher

/-- Whichever of the two is kept, it leads once the other one is visited. -/
theorem Leads.better {best : SlackCandidate} (h : Leads visits best) (other : SlackCandidate) :
    Leads (visits ++ [other.node]) (better (some best) other) := by
  rw [SlackCandidate.better]
  split
  · rename_i hbeaten
    rcases beatenBy_cases hbeaten with htie | hrise
    · exact h.tie htie other.neighbors
    · exact h.rise hrise other.neighbors
  · rename_i hkept
    exact h.keep (not_exceeds_of_not_beatenBy hkept)

theorem traverse_leads (coherent : network.Coherent) (hsub : visits ⊆ network.nodes) :
    ∀ slack ∈ (traverse visitor network visits none).state, Leads visits slack := by
  refine (traverse_best coherent hsub ?_ ?_).2
  · intro node _ neighbors _
    exact .of_chain fun _ h => absurd h List.not_mem_nil
  · intro before _ node _ neighbors _ best hbest
    exact hbest.better { node, neighbors }

end SlackCandidate

/-- In any non-empty list of nodes of a built network, visited in any order, a slack
node is found, and it is one of them. No node visited after it exceeds it by more than
the tolerance. Any visited node that does is joined to it by a chain of visited nodes,
each alike to the next; so none does if being alike is transitive among them. -/
theorem slackNode_highest {network : Network} (built : network.IsBuilt) {visits : List Node}
    (hsub : visits ⊆ network.nodes) (hne : visits ≠ []) :
    (traverse SlackCandidate.visitor network visits none).fault = none ∧
    ∃ slack, (traverse SlackCandidate.visitor network visits none).state = some slack ∧
      (∃ before after, visits = before ++ slack.node :: after ∧
        ∀ node ∈ after, ¬node.Exceeds slack.node) ∧
      (∀ node ∈ visits, node.Exceeds slack.node → AlikeChain visits node slack.node) ∧
      (AlikeClasses visits → ∀ node ∈ visits, ¬node.Exceeds slack.node) := by
  have coherent := built.coherent
  refine ⟨(traverse_of_succeedsOn (coherent.slack_succeedsOn.mono hsub) none).1, ?_⟩
  cases hslack : (traverse SlackCandidate.visitor network visits none).state with
  | none =>
    have htracks := SlackCandidate.traverse_tracks coherent hsub
    exact absurd (htracks.eq_none_iff.mp hslack) hne
  | some slack =>
    have hleads := SlackCandidate.traverse_leads coherent hsub slack hslack
    refine ⟨slack, rfl, hleads.latest, hleads.chain, fun hclasses node hn hexceeds => ?_⟩
    rcases (hleads.chain node hn hexceeds).eq_or_alike hclasses hn with rfl | halike
    · exact Voltage.exceeds.irrefl _ hexceeds
    · exact ((Voltage.exceeds_iff_higher _ _).mp hexceeds).1 halike

/-! ## A staircase

The voltages of three nodes go down in steps within the tolerance, and each of them has
more neighbours than the one above it. -/

namespace Staircase

def nodes : List Node :=
  [{ id := "H1", voltageLevel := "V1", nominalVoltage := 400 },
    { id := "H2", voltageLevel := "V1", nominalVoltage := 399.9999992 },
    { id := "H3", voltageLevel := "V1", nominalVoltage := 399.9999984 },
    { id := "L1", voltageLevel := "V2", nominalVoltage := 20 },
    { id := "L2", voltageLevel := "V2", nominalVoltage := 20 }]

def branches : List Branch :=
  [.line { id := "H1H2", first := "H1", second := "H2" },
    .line { id := "H2H3", first := "H2", second := "H3" },
    .transformer { id := "H3L1", windings := .two "H3" "L1" },
    .transformer { id := "H3L2", windings := .two "H3" "L2" }]

def network : Network :=
  .assemble nodes branches []

theorem build_network : Network.build nodes branches [] = .ok network := by
  rfl

theorem network_isBuilt : network.IsBuilt :=
  ⟨nodes, branches, [], build_network⟩

end Staircase

/-- Every node of the staircase above the slack node is joined to it step by step. -/
theorem slackNode_highest_staircase :
    Staircase.network.IsBuilt ∧ Staircase.network.nodes ≠ [] ∧
    ∃ slack, (traverse SlackCandidate.visitor Staircase.network
        Staircase.network.nodes none).state = some slack ∧
      ∀ node ∈ Staircase.network.nodes, node.Exceeds slack.node →
        AlikeChain Staircase.network.nodes node slack.node := by
  have hne : Staircase.network.nodes ≠ [] := List.cons_ne_nil _ _
  obtain ⟨-, slack, hslack, -, hchain, -⟩ :=
    slackNode_highest Staircase.network_isBuilt (List.Subset.refl Staircase.network.nodes) hne
  exact ⟨Staircase.network_isBuilt, hne, slack, hslack, hchain⟩

/-- The slack node of the staircase is exceeded by another visited node. -/
theorem slackNode_drifts_down :
    Staircase.network.IsBuilt ∧
    ∃ slack, (traverse SlackCandidate.visitor Staircase.network
        Staircase.network.nodes none).state = some slack ∧
      slack.node.id = "H3" ∧ ∃ node ∈ Staircase.network.nodes, node.Exceeds slack.node := by
  have hexceeded : (traverse SlackCandidate.visitor Staircase.network
      Staircase.network.nodes none).state.any (fun slack => slack.node.id == "H3" &&
        Staircase.network.nodes.any fun node => decide (node.Exceeds slack.node)) = true := by
    decide +kernel
  cases hslack : (traverse SlackCandidate.visitor Staircase.network
      Staircase.network.nodes none).state with
  | none => simp [hslack] at hexceeded
  | some slack =>
    rw [hslack, Option.any_some, Bool.and_eq_true, beq_iff_eq, List.any_eq_true] at hexceeded
    obtain ⟨hid, node, hn, hexceeds⟩ := hexceeded
    exact ⟨Staircase.network_isBuilt, slack, rfl, hid, node, hn, of_decide_eq_true hexceeds⟩

end GridSetup
