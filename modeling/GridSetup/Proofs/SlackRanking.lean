import GridSetup.Proofs.FirstGreatest
import GridSetup.Proofs.Neighbors
import GridSetup.Proofs.Slack
import GridSetup.Proofs.Tolerance

/-! # The slack node by rank

The tolerance makes no difference where voltages are alike only if they are equal. Then
nodes are ranked by voltage and, at one voltage, by their neighbours, each node that is
visited is compared by rank with the best one so far, and the first of the greatest rank
is kept. So the order of the visits only decides among nodes of one rank. -/

namespace GridSetup

open Binary64

/-- The visited nodes have finite voltages, which are alike only if they are equal. -/
structure VoltageClasses (visits : List Node) : Prop where
  finite : ∀ node ∈ visits, node.nominalVoltage.isFinite = true
  apart : ∀ a ∈ visits, ∀ b ∈ visits, a.nominalVoltage == b.nominalVoltage ∨
    ¬Voltage.alike a.nominalVoltage b.nominalVoltage = true

namespace Network

/-- A node outranks another if its voltage is higher, or if the voltages are equal and it
has more neighbours. -/
def Outranks (network : Network) (a b : Node) : Prop :=
  b.nominalVoltage < a.nominalVoltage ∨
    a.nominalVoltage == b.nominalVoltage ∧ network.degree b < network.degree a

/-- The first of the visited nodes that none of them outranks: it outranks all that are
visited before it. -/
def FirstInRank (network : Network) (visits : List Node) (node : Node) : Prop :=
  ∃ before after, visits = before ++ node :: after ∧
    (∀ other ∈ before, network.Outranks node other) ∧
    ∀ other ∈ after, ¬network.Outranks other node

/-- The rank of a node of finite voltage, which is counted in the units of binary64. -/
def rank (network : Network) (node : Node) : ℤ ×ₗ ℕ :=
  toLex ((units node.nominalVoltage).getD 0, network.degree node)

theorem rank_lt_iff (network : Network) {a b : Node} (ha : a.nominalVoltage.isFinite = true)
    (hb : b.nominalVoltage.isFinite = true) :
    network.rank b < network.rank a ↔ network.Outranks a b := by
  obtain ⟨m, hm, -⟩ := (isFinite_iff _).mp ha
  obtain ⟨n, hn, -⟩ := (isFinite_iff _).mp hb
  rw [Outranks, lt_iff, beq_iff, rank, rank, Prod.Lex.toLex_lt_toLex, hm, hn]
  simp [eq_comm]

/-- Nodes of one rank have the same voltage and the same number of neighbours. -/
theorem eq_of_rank_eq {network : Network} {a b : Node} (ha : a.nominalVoltage.isFinite = true)
    (hb : b.nominalVoltage.isFinite = true) (h : network.rank a = network.rank b) :
    a.nominalVoltage == b.nominalVoltage ∧ network.degree a = network.degree b := by
  obtain ⟨m, hm, -⟩ := (isFinite_iff _).mp ha
  obtain ⟨n, hn, -⟩ := (isFinite_iff _).mp hb
  rw [rank, rank, hm, hn] at h
  obtain ⟨hvoltage, hdegree⟩ := Prod.mk.inj (toLex.injective h)
  obtain rfl : m = n := hvoltage
  exact ⟨(beq_iff _ _).mpr ⟨m, hm, hn⟩, hdegree⟩

end Network

namespace VoltageClasses

variable {visits visits' : List Node}

theorem mono (classes : VoltageClasses visits) (hsub : visits' ⊆ visits) :
    VoltageClasses visits' where
  finite node hn := classes.finite node (hsub hn)
  apart a ha b hb := classes.apart a (hsub ha) b (hsub hb)

theorem firstInRank_iff (classes : VoltageClasses visits) (network : Network) (node : Node) :
    network.FirstInRank visits node ↔ FirstGreatest network.rank visits node := by
  refine exists₂_congr fun before after => and_congr_right fun hvisits => ?_
  have hfinite := classes.finite
  rw [hvisits, List.forall_mem_append, List.forall_mem_cons] at hfinite
  obtain ⟨hbefore, hnode, hafter⟩ := hfinite
  refine and_congr (forall₂_congr fun other ho => ?_) (forall₂_congr fun other ho => ?_)
  · exact (network.rank_lt_iff hnode (hbefore other ho)).symm
  · rw [← network.rank_lt_iff (hafter other ho) hnode, not_lt]

/-- Among the visited nodes a candidate is beaten by those of a greater rank. -/
theorem beatenBy_iff (classes : VoltageClasses visits) (network : Network) {a b : Node}
    (ha : a ∈ visits) (hb : b ∈ visits) :
    SlackCandidate.beatenBy { node := b, neighbors := network.degree b }
        { node := a, neighbors := network.degree a } = true ↔
      network.rank b < network.rank a := by
  have hfinite := classes.finite a ha
  rw [network.rank_lt_iff hfinite (classes.finite b hb), Network.Outranks,
    SlackCandidate.beatenBy]
  by_cases halike : Voltage.alike a.nominalVoltage b.nominalVoltage = true
  · have heq := (classes.apart a ha b hb).resolve_right (not_not_intro halike)
    rw [if_pos halike, decide_eq_true_iff, or_iff_right (not_lt_of_beq heq), and_iff_right heq]
  · have hne : ¬(a.nominalVoltage == b.nominalVoltage) = true :=
      fun heq => halike (Voltage.alike_of_beq hfinite heq)
    rw [if_neg halike, Voltage.higher_iff_lt hfinite (classes.finite b hb),
      or_iff_left fun h => hne h.1]

end VoltageClasses

namespace SlackCandidate

variable {network : Network} {visits : List Node}

/-- The candidate is the first in rank of the nodes visited so far. -/
structure Tops (network : Network) (visits : List Node) (best : SlackCandidate) : Prop where
  neighbors : best.neighbors = network.degree best.node
  first : FirstGreatest network.rank visits best.node

/-- Whichever of the two is kept, it is the first in rank once the other one is visited. -/
theorem Tops.better {best : SlackCandidate} (h : Tops network visits best) {node : Node}
    (classes : VoltageClasses (visits ++ [node])) :
    Tops network (visits ++ [node])
      (better (some best) { node, neighbors := network.degree node }) := by
  have hbest : best.node ∈ visits ++ [node] := List.mem_append_left [node] h.first.mem
  have hbeaten := classes.beatenBy_iff network
    (List.mem_append_right visits List.mem_cons_self) hbest
  rw [← h.neighbors] at hbeaten
  rw [SlackCandidate.better]
  split
  · rename_i hrise
    have hlt := hbeaten.mp hrise
    exact ⟨rfl, .concat_greater fun other ho => (h.first.le other ho).trans_lt hlt⟩
  · rename_i hkept
    exact ⟨h.neighbors, h.first.concat_le (not_lt.mp (hbeaten.not.mp hkept))⟩

theorem traverse_tops (built : network.IsBuilt) (hsub : visits ⊆ network.nodes)
    (classes : VoltageClasses visits) :
    ∀ slack ∈ (traverse visitor network visits none).state, Tops network visits slack := by
  have hdegree : ∀ node ∈ visits, ∀ neighbors,
      network.neighborCount node.id = .ok neighbors → neighbors = network.degree node := by
    intro node hn neighbors hcount
    rw [built.neighborCount_eq (hsub hn)] at hcount
    exact (Except.ok.inj hcount).symm
  refine (traverse_best built.coherent hsub ?_ ?_).2
  · intro node hn neighbors hcount
    exact ⟨hdegree node hn neighbors hcount, .concat_greater (l := []) nofun⟩
  · intro before hbefore node hn neighbors hcount best hbest
    obtain rfl := hdegree node hn neighbors hcount
    exact hbest.better (classes.mono
      (List.append_subset.mpr ⟨hbefore, List.cons_subset.mpr ⟨hn, List.nil_subset visits⟩⟩))

end SlackCandidate

/-- If voltages that are alike are equal among the visited nodes of a built network, the
slack node is the first in rank among them, and it has the number of its neighbours.
Visiting these nodes in any other order, and as often as one likes, leads to a slack
node of the same voltage and as many neighbours. -/
theorem slackNode_exact {network : Network} (built : network.IsBuilt) {visits : List Node}
    (hsub : visits ⊆ network.nodes) (hne : visits ≠ []) (classes : VoltageClasses visits) :
    (traverse SlackCandidate.visitor network visits none).fault = none ∧
    ∃ slack, (traverse SlackCandidate.visitor network visits none).state = some slack ∧
      network.FirstInRank visits slack.node ∧
      slack.neighbors = network.degree slack.node ∧
      ∀ visits' : List Node, (∀ node, node ∈ visits' ↔ node ∈ visits) →
        ∃ slack', (traverse SlackCandidate.visitor network visits' none).state = some slack' ∧
          slack'.node.nominalVoltage == slack.node.nominalVoltage ∧
          slack'.neighbors = slack.neighbors := by
  obtain ⟨slack, hslack⟩ := SlackCandidate.exists_slack built.coherent hsub hne
  have htops := SlackCandidate.traverse_tops built hsub classes slack hslack
  refine ⟨(traverse_of_succeedsOn (built.coherent.slack_succeedsOn.mono hsub) none).1, slack,
    hslack, (classes.firstInRank_iff network slack.node).mpr htops.first, htops.neighbors, ?_⟩
  intro visits' hsame
  have hback : visits' ⊆ visits := fun node => (hsame node).mp
  have hsub' : visits' ⊆ network.nodes := List.Subset.trans hback hsub
  have hne' : visits' ≠ [] := by
    obtain ⟨node, hn⟩ := List.exists_mem_of_ne_nil visits hne
    exact List.ne_nil_of_mem ((hsame node).mpr hn)
  obtain ⟨slack', hslack'⟩ := SlackCandidate.exists_slack built.coherent hsub' hne'
  have htops' := SlackCandidate.traverse_tops built hsub' (classes.mono hback) slack' hslack'
  have hmem' := hback htops'.first.mem
  have hrank : network.rank slack'.node = network.rank slack.node :=
    le_antisymm (htops.first.le _ hmem')
      (htops'.first.le _ ((hsame slack.node).mpr htops.first.mem))
  obtain ⟨hvoltage, hdegree⟩ := Network.eq_of_rank_eq (classes.finite _ hmem')
    (classes.finite _ htops.first.mem) hrank
  exact ⟨slack', hslack', hvoltage, by rw [htops'.neighbors, htops.neighbors, hdegree]⟩

/-! ## A substation

A transformer leads from one of two nodes of the higher voltage, which a line joins. -/

namespace Substation

def nodes : List Node :=
  [{ id := "Low", voltageLevel := "V2", nominalVoltage := 225 },
    { id := "West", voltageLevel := "V1", nominalVoltage := 400 },
    { id := "East", voltageLevel := "V1", nominalVoltage := 400 }]

def branches : List Branch :=
  [.line { id := "WE", first := "West", second := "East" },
    .transformer { id := "EL", windings := .two "East" "Low" }]

def network : Network :=
  .assemble nodes branches []

theorem network_isBuilt : network.IsBuilt :=
  ⟨nodes, branches, [], rfl⟩

end Substation

/-- On the way there and back, the node with the transformer comes after another one of
its voltage and still is first in rank. -/
theorem slackNode_exact_substation :
    Substation.network.IsBuilt ∧
    ∃ visits, visits = Substation.network.nodes ++ Substation.network.nodes.reverse ∧
      visits ⊆ Substation.network.nodes ∧ visits ≠ [] ∧ VoltageClasses visits ∧
      ∃ slack, (traverse SlackCandidate.visitor Substation.network visits none).state = some slack ∧
        Substation.network.FirstInRank visits slack.node ∧
        slack.node.id = "East" ∧ slack.neighbors = 2 := by
  have hsub : Substation.network.nodes ++ Substation.network.nodes.reverse ⊆
      Substation.network.nodes := by simp
  have hne : Substation.network.nodes ++ Substation.network.nodes.reverse ≠ [] :=
    List.cons_ne_nil _ _
  have classes : VoltageClasses
      (Substation.network.nodes ++ Substation.network.nodes.reverse) :=
    ⟨by decide +kernel, by decide +kernel⟩
  obtain ⟨-, slack, hslack, hfirst, -⟩ :=
    slackNode_exact Substation.network_isBuilt hsub hne classes
  have hsome : (traverse SlackCandidate.visitor Substation.network
      (Substation.network.nodes ++ Substation.network.nodes.reverse) none).state.map
        (fun slack => (slack.node.id, slack.neighbors)) = some ("East", 2) := by
    decide +kernel
  rw [hslack] at hsome
  obtain ⟨hid, hneighbors⟩ := Prod.mk.inj (Option.some.inj hsome)
  exact ⟨Substation.network_isBuilt, _, rfl, hsub, hne, classes, slack, hslack, hfirst, hid,
    hneighbors⟩

end GridSetup
