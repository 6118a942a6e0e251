import GridSetup.Proofs.Reach

/-! # Searching through closed switches

A search tries the nodes that closed switches join to its start, each at most
once, and ends with the first one that is accepted. It stops without a node only
if all there were to try were rejected. The test may answer as it likes, also by
what it was asked before, so everything is said of the answers it gave on the way.

The search that is run finds the nodes first and tries them then. It comes to the
same as trying each node when the walk arrives at it, before going on from there. -/

namespace GridSetup

/-! ## The answers of a test -/

namespace Search

variable {accepts : List Node → Node → Bool} {tested : List Node}

/-- The test gave an answer on a node, asked after the nodes tested before it. -/
def Answered (accepts : List Node → Node → Bool) (tested : List Node) (node : Node)
    (answer : Bool) : Prop :=
  ∃ before after, tested = before ++ node :: after ∧ accepts before node = answer

theorem Answered.mem {node : Node} {answer : Bool} (h : Answered accepts tested node answer) :
    node ∈ tested := by
  obtain ⟨before, after, rfl, -⟩ := h
  simp

theorem exists_answered (accepts : List Node → Node → Bool) {node : Node} (h : node ∈ tested) :
    ∃ answer, Answered accepts tested node answer := by
  obtain ⟨before, after, hsplit⟩ := List.append_of_mem h
  exact ⟨_, before, after, hsplit, rfl⟩

theorem answered_concat (node other : Node) (answer : Bool) :
    Answered accepts (tested ++ [node]) other answer ↔
      Answered accepts tested other answer ∨ other = node ∧ accepts tested node = answer := by
  constructor
  · intro h
    obtain ⟨before, after, hsplit, hanswer⟩ := h
    -- the answer was given last, or there is a last one behind it
    rcases List.eq_nil_or_concat after with rfl | ⟨front, last, rfl⟩
    · obtain ⟨rfl, hlast⟩ := List.append_inj' hsplit rfl
      obtain rfl := List.singleton_inj.mp hlast
      exact .inr ⟨rfl, hanswer⟩
    · rw [List.concat_eq_append, ← List.cons_append, ← List.append_assoc] at hsplit
      obtain ⟨rfl, -⟩ := List.append_inj' hsplit rfl
      exact .inl ⟨before, front, rfl, hanswer⟩
  · intro h
    obtain ⟨before, after, rfl, hanswer⟩ | ⟨rfl, hanswer⟩ := h
    · exact ⟨before, after ++ [node], by simp, hanswer⟩
    · exact ⟨tested, [], rfl, hanswer⟩

/-- On a node that is tested once there is only one answer. -/
theorem Answered.unique (once : tested.Nodup) {node : Node} {answer other : Bool}
    (h : Answered accepts tested node answer) (h' : Answered accepts tested node other) :
    answer = other := by
  obtain ⟨before, after, rfl, rfl⟩ := h
  obtain ⟨before', after', hsplit, rfl⟩ := h'
  obtain ⟨hafter, hbefore⟩ := List.nodup_cons.mp (List.nodup_middle.mp once)
  rw [List.mem_append, not_or] at hafter
  obtain ⟨rfl, -⟩ := (List.append_cons_inj_of_notMem hafter.1 hafter.2).mp hsplit
  rfl

/-- A search went through nodes in order, behind those tested before, up to the
first one on which the answer was yes. -/
structure WentThrough (accepts : List Node → Node → Bool) (tested nodes : List Node)
    (search : Search) : Prop where
  tried : ∃ tried, tried <+: nodes ∧ search.tested = tested ++ tried
  found_iff : ∀ node, search.found = some node ↔ Answered accepts search.tested node true
  found_last : ∀ node, search.found = some node → search.tested.getLast? = some node
  exhausted : search.found = none → search.tested = tested ++ nodes

theorem run_wentThrough (nodes : List Node)
    (rejected : ∀ node, ¬Answered accepts tested node true) :
    WentThrough accepts tested nodes (run accepts tested nodes) := by
  induction nodes generalizing tested with
  | nil =>
    exact {
      tried := ⟨[], List.prefix_rfl, by simp [run]⟩
      found_iff := fun node => iff_of_false nofun (rejected node)
      found_last := nofun
      exhausted := fun _ => by simp [run] }
  | cons node rest ih =>
    cases hanswer : accepts tested node with
    | true =>
      have hrun : run accepts tested (node :: rest) =
          { found := some node, tested := tested ++ [node] } := by
        rw [run, if_pos hanswer]
      rw [hrun]
      exact {
        tried := ⟨[node], by simp, rfl⟩
        found_iff := fun other => by
          rw [answered_concat, or_iff_right (rejected other), Option.some.injEq]
          exact ⟨fun h => ⟨h.symm, hanswer⟩, fun h => h.1.symm⟩
        found_last := fun other h => by
          obtain rfl := Option.some.inj h
          exact List.getLast?_concat
        exhausted := nofun }
    | false =>
      have hrun : run accepts tested (node :: rest) = run accepts (tested ++ [node]) rest := by
        rw [run, if_neg (by simp [hanswer])]
      have hrejected : ∀ other, ¬Answered accepts (tested ++ [node]) other true := by
        intro other h
        rcases (answered_concat node other true).mp h with h | ⟨-, h⟩
        · exact rejected other h
        · exact Bool.false_ne_true (hanswer.symm.trans h)
      have hrest := ih hrejected
      obtain ⟨tried, hprefix, htested⟩ := hrest.tried
      rw [hrun]
      exact {
        tried := ⟨node :: tried, List.cons_prefix_cons.mpr ⟨rfl, hprefix⟩, by simp [htested]⟩
        found_iff := hrest.found_iff
        found_last := hrest.found_last
        exhausted := fun h => by simp [hrest.exhausted h] }

end Search

/-! ## What a search comes to -/

namespace Network

/-- A chain of closed switches leads from one node to the other. -/
def SwitchLinked (network : Network) : String → String → Prop :=
  Relation.ReflTransGen network.SwitchedTogether

/-- The outcome of a search is what the test said of the nodes that closed switches
join to the start. -/
structure Searches (network : Network) (start : Node) (accepts : List Node → Node → Bool)
    (search : Search) : Prop where
  once : (search.tested.map Node.id).Nodup
  joined : ∀ node ∈ search.tested,
    node ∈ network.nodes ∧ node.id ≠ start.id ∧ network.SwitchLinked start.id node.id
  found_iff : ∀ node, search.found = some node ↔ Search.Answered accepts search.tested node true
  found_last : ∀ node, search.found = some node → search.tested.getLast? = some node
  /-- Nothing is found exactly if every node there was to try was tried, once, and
  was rejected. -/
  exhausted_iff : search.found = none ↔
    ∀ node ∈ network.nodes, node.id ≠ start.id → network.SwitchLinked start.id node.id →
      (search.tested.map Node.id).count node.id = 1 ∧
        Search.Answered accepts search.tested node false

/-- The search as a walk that tries each node when it takes it from its stack, and
goes on from there only if it is rejected. -/
def searchWalk (network : Network) (start : String) (accepts : List Node → Node → Bool)
    (unseen stack : List String) (tested : List Node) : Except Fault Search :=
  match stack with
  | [] => .ok { found := none, tested }
  | id :: rest =>
    match network.node id with
    | .error fault => .error fault
    | .ok node =>
      if node.id ≠ start ∧ accepts tested node then
        .ok { found := some node, tested := tested ++ [node] }
      else
        match network.closedNeighborIds id with
        | .error fault => .error fault
        | .ok candidates =>
          let sifted := sift candidates unseen
          searchWalk network start accepts sifted.2 (sifted.1.reverse ++ rest)
            (if node.id ≠ start then tested ++ [node] else tested)
termination_by unseen.length + stack.length
decreasing_by
  have := sift_length candidates unseen
  simp only [List.length_append, List.length_reverse, List.length_cons]
  omega

/-- Searches a node in a single walk through closed switches. -/
def searchOnTheWay (network : Network) (start : String)
    (accepts : List Node → Node → Bool) : Except Fault Search := do
  let start ← network.node start
  network.searchWalk start.id accepts ((network.nodes.map Node.id).erase start.id) [start.id] []

/-- Trying nodes on the way comes to the same as trying what the walk takes. -/
theorem searchWalk_eq (network : Network) (start : String)
    (accepts : List Node → Node → Bool) {ids : List String} :
    ∀ {unseen stack : List String} {tested nodes : List Node},
      walk network.closedNeighborIds unseen stack = .ok ids → ids.mapM network.node = .ok nodes →
        network.searchWalk start accepts unseen stack tested =
          .ok (Search.run accepts tested (nodes.filter fun node => node.id ≠ start)) := by
  induction ids with
  | nil =>
    intro unseen stack tested nodes hwalk hnodes
    obtain rfl := walk_eq_ok_nil hwalk
    cases hnodes
    rw [searchWalk]
    rfl
  | cons id tail ih =>
    intro unseen stack tested nodes hwalk hnodes
    obtain ⟨rest, candidates, rfl, hnext, htail⟩ := walk_eq_ok_cons hwalk
    obtain ⟨node, others, rfl, hnode, hothers⟩ := mapM_eq_ok_cons hnodes
    rw [searchWalk, hnode]
    dsimp only
    rw [hnext]
    dsimp only
    rw [ih htail hothers]
    by_cases hstart : node.id = start
    · simp [hstart]
    · cases hanswer : accepts tested node <;> simp [hstart, hanswer, Search.run]

namespace Coherent

variable {network : Network}

theorem searchOnTheWay_eq (coherent : network.Coherent) {start : Node}
    (hstart : start ∈ network.nodes) (accepts : List Node → Node → Bool) :
    network.searchOnTheWay start.id accepts =
      network.findThroughClosedSwitches start.id accepts := by
  obtain ⟨others, hgroup, hsearch, -, hothers⟩ := coherent.closedSwitchGroup_others hstart
  rw [closedSwitchGroup, coherent.node_of_mem hstart] at hgroup
  obtain ⟨_, heq, hgroup⟩ := (bind_eq_ok_iff _ _ _).mp hgroup
  cases heq
  obtain ⟨ids, horder, hnodes⟩ := (bind_eq_ok_iff _ _ _).mp hgroup
  rw [hsearch, searchOnTheWay, coherent.node_of_mem hstart]
  change network.searchWalk start.id accepts _ _ [] = _
  rw [network.searchWalk_eq start.id accepts horder hnodes]
  -- the start itself is passed over, and it is not met again
  have hfilter : (start :: others).filter (fun node => node.id ≠ start.id) = others := by
    rw [List.filter_cons_of_neg (by simp), List.filter_eq_self]
    exact fun node hn => by simpa using ((hothers node).mp hn).2.1
  rw [hfilter]

theorem findThroughClosedSwitches_searches (coherent : network.Coherent) {start : Node}
    (hstart : start ∈ network.nodes) (accepts : List Node → Node → Bool) :
    ∃ search, network.findThroughClosedSwitches start.id accepts = .ok search ∧
      network.Searches start accepts search := by
  obtain ⟨others, -, hsearch, hids, hothers⟩ := coherent.closedSwitchGroup_others hstart
  have went : Search.WentThrough accepts [] others (Search.run accepts [] others) :=
    Search.run_wentThrough others fun node h => List.not_mem_nil h.mem
  obtain ⟨tried, hprefix, htested⟩ := went.tried
  rw [List.nil_append] at htested
  have hsub : (Search.run accepts [] others).tested.Sublist others := by
    rw [htested]
    exact hprefix.sublist
  have once := hids.sublist (hsub.map Node.id)
  have joined : ∀ node ∈ (Search.run accepts [] others).tested,
      node ∈ network.nodes ∧ node.id ≠ start.id ∧ network.SwitchLinked start.id node.id :=
    fun node hn => (hothers node).mp (hsub.subset hn)
  refine ⟨_, hsearch accepts, {
    once
    joined
    found_iff := went.found_iff
    found_last := went.found_last
    exhausted_iff := ⟨fun hnone node hn hne hlink => ?_, fun hrejected => ?_⟩ }⟩
  · have hmem : node ∈ (Search.run accepts [] others).tested := by
      rw [went.exhausted hnone]
      exact (hothers node).mpr ⟨hn, hne, hlink⟩
    refine ⟨List.count_eq_one_of_mem once (List.mem_map_of_mem hmem), ?_⟩
    obtain ⟨answer, hanswer⟩ := Search.exists_answered accepts hmem
    cases answer with
    | false => exact hanswer
    | true =>
      rw [(went.found_iff node).mpr hanswer] at hnone
      cases hnone
  · rw [Option.eq_none_iff_forall_ne_some]
    intro node hfound
    have hyes := (went.found_iff node).mp hfound
    obtain ⟨hn, hne, hlink⟩ := joined node hyes.mem
    have hno := (hrejected node hn hne hlink).2
    exact Bool.false_ne_true (hno.unique (once.of_map Node.id) hyes)

end Coherent
end Network

/-- From every node of a built network a search through closed switches comes to
an end with what the test said on the way, whatever the test says and whatever it
goes by. -/
theorem switchSearch_exact {network : Network} (built : network.IsBuilt) {start : Node}
    (hstart : start ∈ network.nodes) (accepts : List Node → Node → Bool) :
    ∃ search, network.findThroughClosedSwitches start.id accepts = .ok search ∧
      network.searchOnTheWay start.id accepts = .ok search ∧
      network.Searches start accepts search := by
  have coherent := built.coherent
  obtain ⟨search, hok, hsearches⟩ := coherent.findThroughClosedSwitches_searches hstart accepts
  exact ⟨search, hok, by rw [coherent.searchOnTheWay_eq hstart, hok], hsearches⟩

/-! ## A switchyard

Three busbars are joined in a ring, two of them also by an open switch. A closed
switch leads on to a feeder, an open one to another. -/

namespace Switchyard

def nodes : List Node :=
  ["A", "B", "C", "D", "E"].map fun id => { id, voltageLevel := "V", nominalVoltage := 63 }

def branches : List Branch :=
  [.switch { id := "AB", first := "A", second := "B", isOpen := false },
    .switch { id := "BA", first := "B", second := "A", isOpen := true },
    .switch { id := "BC", first := "B", second := "C", isOpen := false },
    .switch { id := "CA", first := "C", second := "A", isOpen := false },
    .switch { id := "CD", first := "C", second := "D", isOpen := false },
    .switch { id := "DE", first := "D", second := "E", isOpen := true }]

def network : Network :=
  .assemble nodes branches []

theorem network_isBuilt : network.IsBuilt :=
  ⟨nodes, branches, [], rfl⟩

end Switchyard

/-- A test that says yes when it is asked for the third time finds the third of the
three nodes there are to try; one that says no finds none of them. -/
theorem switchSearch_exact_switchyard :
    Switchyard.network.IsBuilt ∧
    ∃ start ∈ Switchyard.network.nodes, start.id = "A" ∧
      (∃ search, Switchyard.network.findThroughClosedSwitches "A"
          (fun tested _ => tested.length == 2) = .ok search ∧
        Switchyard.network.Searches start (fun tested _ => tested.length == 2) search ∧
        search.found.map Node.id = some "B" ∧ search.tested.map Node.id = ["C", "D", "B"]) ∧
      ∃ search, Switchyard.network.findThroughClosedSwitches "A" (fun _ _ => false) = .ok search ∧
        Switchyard.network.Searches start (fun _ _ => false) search ∧
        search.found.map Node.id = none ∧ search.tested.map Node.id = ["C", "D", "B"] := by
  have built := Switchyard.network_isBuilt
  have hA : "A" ∈ Switchyard.network.nodes.map Node.id := by decide +kernel
  obtain ⟨start, hstart, hid⟩ := List.mem_map.mp hA
  obtain ⟨third, hthird, -, hsearches⟩ :=
    switchSearch_exact built hstart fun tested _ => tested.length == 2
  obtain ⟨nothing, hnothing, -, hsearches'⟩ := switchSearch_exact built hstart fun _ _ => false
  rw [hid] at hthird hnothing
  have hids : (Switchyard.network.findThroughClosedSwitches "A"
      fun tested _ => tested.length == 2).map (fun search =>
        (search.found.map Node.id, search.tested.map Node.id)) =
        .ok (some "B", ["C", "D", "B"]) := by decide +kernel
  have hids' : (Switchyard.network.findThroughClosedSwitches "A" fun _ _ => false).map
      (fun search => (search.found.map Node.id, search.tested.map Node.id)) =
        .ok (none, ["C", "D", "B"]) := by decide +kernel
  rw [hthird] at hids
  rw [hnothing] at hids'
  obtain ⟨hfound, htested⟩ := Prod.mk.inj (Except.ok.inj hids)
  obtain ⟨hfound', htested'⟩ := Prod.mk.inj (Except.ok.inj hids')
  exact ⟨built, start, hstart, hid, ⟨third, hthird, hsearches, hfound, htested⟩,
    nothing, hnothing, hsearches', hfound', htested'⟩

end GridSetup
