import GridSetup.Proofs.Lookup
import GridSetup.Proofs.Traversal
import GridSetup.Survey.DynamicModel

/-! # What macro connectors are bound to

A configuration says what its automatons are connected to, given the nodes
that are visited and the order in which they come. The survey gets there by
letting bindings wait under what they ask for: what it has connected after
some visits and what still waits are two sides of one invariant. -/

namespace GridSetup

open Std (ExtTreeMap ExtTreeSet)

/-! ## The meaning of a configuration -/

/-- An association id stands for the single association of that id, or for the
multiple one if there is no single one. -/
inductive AutomatonConfig.Resolves (config : AutomatonConfig) (id : String) : Target → Prop
  | single {association : SingleAssociation}
    (found : config.singles[id]? = some association) :
    config.Resolves id (.single association.target)
  | multiple {association : MultipleAssociation} (missing : config.singles[id]? = none)
    (found : config.multiples[id]? = some association) :
    config.Resolves id (.multiple association.target)

/-- The elements that a target asks for, once these nodes were visited. -/
inductive Target.Meets (network : Network) (visits : List Node) :
    Target → ConnectedKind → String → Prop
  | firstBus {level : String} {node : Node}
    (first : visits.find? (fun node => node.voltageLevel = level) = some node) :
    Meets network visits (.single (.bus level)) .node node.id
  | everyBus {node : Node} (visited : node ∈ visits) :
    Meets network visits (.multiple (.buses node.voltageLevel)) .node node.id
  | shunt {node : Node} {shunt : Shunt} (visited : node ∈ visits) (borne : shunt ∈ node.shunts) :
    Meets network visits (.multiple (.shunts node.voltageLevel)) .shunt shunt.id
  | line {line : Line} {node : Node} (present : line ∈ network.lines)
    (visited : node ∈ visits) (ends : node.id ∈ line.ends) :
    Meets network visits (.single (.line line.id)) .line line.id
  | transformer {transformer : Transformer} {node : Node}
    (present : transformer ∈ network.transformers)
    (visited : node ∈ visits) (ends : node.id ∈ transformer.ends) :
    Meets network visits (.single (.transformer transformer.id)) .transformer transformer.id

/-- The configuration asks for a connection of the automatons with this id: one
of them has its library and a macro connector whose association meets the
element. -/
def AutomatonConfig.Connects (config : AutomatonConfig) (locator : Locator)
    (network : Network) (visits : List Node) (id : String) (connection : Connection) : Prop :=
  ∃ automaton ∈ config.all, automaton.id = id ∧ locator.finds automaton.library ∧
    ∃ connect ∈ automaton.connects, connect.connector = connection.connector ∧
      ∃ target, config.Resolves connect.association target ∧
        target.Meets network visits connection.kind connection.element

theorem AutomatonConfig.target?_eq_some_iff (config : AutomatonConfig) (id : String)
    (target : Target) : config.target? id = some target ↔ config.Resolves id target := by
  unfold target?
  refine ⟨fun h => ?_, fun h => ?_⟩
  · split at h
    · rename_i association hfound
      cases h
      exact .single hfound
    · rename_i hmissing
      obtain ⟨association, hfound, rfl⟩ := Option.map_eq_some_iff.mp h
      exact .multiple hmissing hfound
  · cases h with
    | single found => rw [found]
    | multiple missing found => rw [missing, found]; rfl

/-! ## Connecting -/

namespace DynamicModels

/-- The model of the automaton has the connection. -/
def Connected (models : DynamicModels) (id : String) (connection : Connection) : Prop :=
  ∃ model : DynamicModel, models.models[id]? = some model ∧ connection ∈ model.connections

/-- Every model has a connection. -/
def Inhabited (models : DynamicModels) : Prop :=
  ∀ (id : String) (model : DynamicModel), models.models[id]? = some model →
    ∃ connection, connection ∈ model.connections

/-- From some models to others exactly these connections were added, and no
empty model. -/
structure Gains (before : DynamicModels) (added : String → Connection → Prop)
    (after : DynamicModels) : Prop where
  connected : ∀ id connection,
    after.Connected id connection ↔ before.Connected id connection ∨ added id connection
  inhabited : before.Inhabited → after.Inhabited

theorem connect_gains (models : DynamicModels) (automaton : Automaton)
    (connection : Connection) :
    Gains models (fun id c => automaton.id = id ∧ connection = c)
      (models.connect automaton connection) where
  connected id c := by
    simp only [Connected, connect, ExtTreeMap.getElem?_alter, Std.LawfulEqCmp.compare_eq_iff_eq]
    split
    · rename_i heq
      subst heq
      cases models.models[automaton.id]? with
      | none => simp [ExtTreeSet.mem_insert]
      | some model => simp [ExtTreeSet.mem_insert, or_comm]
    · rename_i hne
      simp [hne]
  inhabited h id model hmodel := by
    simp only [connect, ExtTreeMap.getElem?_alter, Std.LawfulEqCmp.compare_eq_iff_eq] at hmodel
    split at hmodel
    · cases hmodel
      exact ⟨connection, ExtTreeSet.mem_insert_self⟩
    · exact h id model hmodel

theorem Gains.congr {before after : DynamicModels} {added added' : String → Connection → Prop}
    (h : Gains before added after) (same : ∀ id c, added id c ↔ added' id c) :
    Gains before added' after where
  connected id c := by rw [h.connected, same]
  inhabited := h.inhabited

theorem Gains.trans {models before after : DynamicModels}
    {first second : String → Connection → Prop} (h : Gains models first before)
    (h' : Gains before second after) :
    Gains models (fun id c => first id c ∨ second id c) after where
  connected id c := by rw [h'.connected, h.connected, or_assoc]
  inhabited hmodels := h'.inhabited (h.inhabited hmodels)

theorem Gains.foldl {α : Type} {step : DynamicModels → α → DynamicModels}
    {added : α → String → Connection → Prop}
    (h : ∀ models x, Gains models (added x) (step models x)) (l : List α)
    (models : DynamicModels) :
    Gains models (fun id c => ∃ x ∈ l, added x id c) (l.foldl step models) where
  connected id c := foldl_iff (P := fun models => models.Connected id c)
    (fun models x => (h models x).connected id c) l models
  inhabited hmodels :=
    List.foldlRecOn l step hmodels fun models hm x _ => (h models x).inhabited hm

end DynamicModels

namespace DynamicModelSurvey

open DynamicModels

theorem materialize_gains (kind : ConnectedKind) (element : String) (bindings : List Binding)
    (models : DynamicModels) :
    Gains models
      (fun id c => ∃ binding ∈ bindings, binding.automaton.id = id ∧
        { connector := binding.connector, kind, element } = c)
      (materialize kind element bindings models) :=
  Gains.foldl (fun models binding => connect_gains models binding.automaton _) bindings models

theorem materializeAll_gains (kind : ConnectedKind)
    (waiting : ExtTreeMap String (List Binding)) (elements : List String)
    (models : DynamicModels) :
    Gains models
      (fun id c => ∃ element ∈ elements, ∃ binding ∈ waiting.getD element [],
        binding.automaton.id = id ∧ { connector := binding.connector, kind, element } = c)
      (materializeAll kind waiting elements models) :=
  Gains.foldl (fun models element => materialize_gains kind element _ models) elements models

/-! ## Waiting -/

/-- The bindings that wait for the elements of a target. -/
def waiting (survey : DynamicModelSurvey) : Target → List Binding
  | .single (.bus level) => (survey.buses.getD level {}).firstNode
  | .single (.line id) => survey.lines.getD id []
  | .single (.transformer id) => survey.transformers.getD id []
  | .multiple (.buses level) => (survey.buses.getD level {}).everyNode
  | .multiple (.shunts level) => survey.shunts.getD level []

theorem getD_enqueue (index : ExtTreeMap String (List Binding)) (key other : String)
    (binding : Binding) :
    (enqueue index key binding).getD other [] =
      if key = other then index.getD other [] ++ [binding] else index.getD other [] := by
  simp only [enqueue, ExtTreeMap.getD_alter, Std.LawfulEqCmp.compare_eq_iff_eq]
  split
  · rename_i heq
    rw [heq, ExtTreeMap.getD_eq_getD_getElem?]
    rfl
  · rfl

theorem waiting_dispatch (survey : DynamicModelSurvey) (target other : Target)
    (binding : Binding) :
    (survey.dispatch target binding).waiting other =
      if target = other then survey.waiting other ++ [binding] else survey.waiting other := by
  rcases target with (level | id | id) | (level | level) <;>
    rcases other with (level' | id' | id') | (level' | level') <;>
    simp [dispatch, waiting, getD_enqueue, ExtTreeMap.getD_alter]
  -- both sorts of bus bindings of a voltage level are kept in one entry
  all_goals
    by_cases hlevel : level = level'
    · simp [hlevel, ExtTreeMap.getD_eq_getD_getElem?]
    · simp [hlevel]

/-- What some macro connectors bring about, but no report does, is brought about in
preparing if an automaton that has its library has such a connector. -/
theorem prepare_iff {P : Logged DynamicModelSurvey → Prop}
    {adds : Automaton → MacroConnect → Prop} {config : AutomatonConfig}
    (start : ¬P { value := {} })
    (report : ∀ survey events, P { survey with events := survey.events ++ events } ↔ P survey)
    (connect : ∀ automaton survey connect,
      P (prepareConnect config automaton survey connect) ↔ P survey ∨ adds automaton connect)
    (locator : Locator) :
    P (prepare config locator) ↔
      ∃ automaton ∈ config.all, locator.finds automaton.library ∧
        ∃ connect ∈ automaton.connects, adds automaton connect := by
  have hautomaton : ∀ survey automaton,
      P (prepareAutomaton config locator survey automaton) ↔
        P survey ∨ (locator.finds automaton.library ∧
          ∃ connect ∈ automaton.connects, adds automaton connect) := by
    intro survey automaton
    rw [prepareAutomaton, Locator.finds]
    split
    · rename_i hlibrary
      rw [foldl_iff (connect automaton), report]
      simp only [hlibrary, true_and]
    · rename_i hlibrary
      rw [report { survey with events := survey.events ++ _ }, report]
      simp only [hlibrary, Bool.false_eq_true, false_and, or_false]
  rw [prepare, foldl_iff hautomaton]
  simp only [start, false_or]

/-- What waits after preparing: the macro connectors of the automatons that have
their library, under what their associations stand for. -/
theorem mem_waiting_prepare (config : AutomatonConfig) (locator : Locator)
    (target : Target) (binding : Binding) :
    binding ∈ (prepare config locator).value.waiting target ↔
      ∃ automaton ∈ config.all, locator.finds automaton.library ∧
        ∃ connect ∈ automaton.connects, config.Resolves connect.association target ∧
          { automaton, connector := connect.connector } = binding := by
  have hstart : binding ∉ ({} : DynamicModelSurvey).waiting target := by
    rcases target with (_ | _ | _) | (_ | _) <;> simp [waiting]
  refine prepare_iff (P := fun survey => binding ∈ survey.value.waiting target) hstart
    (fun _ _ => Iff.rfl) (fun automaton survey connect => ?_) locator
  rw [prepareConnect, ← config.target?_eq_some_iff]
  cases config.target? connect.association with
  | none =>
    simp only [reduceCtorEq, false_and, or_false]
    rfl
  | some asked =>
    dsimp only
    rw [waiting_dispatch, Option.some.injEq]
    split
    · rename_i heq
      rw [List.mem_append, List.mem_singleton, eq_comm (a := binding)]
      simp only [heq, true_and]
      rfl
    · rename_i hne
      simp only [hne, false_and, or_false]
      rfl

/-- A dispatched binding waits, and nothing is bound or declared by it. -/
@[simp]
theorem dispatch_result (survey : DynamicModelSurvey) (target : Target) (binding : Binding) :
    (survey.dispatch target binding).result = survey.result := by
  rcases target with (_ | _ | _) | (_ | _) <;> rfl

/-- Of the result a macro connector only changes what is declared. -/
theorem prepareConnect_result (config : AutomatonConfig) (automaton : Automaton)
    (survey : Logged DynamicModelSurvey) (connect : MacroConnect) :
    (prepareConnect config automaton survey connect).value.result =
      { survey.value.result with
        declared := survey.value.result.declared.insert connect.connector } := by
  rw [prepareConnect]
  split <;> simp

/-- What no declaration of a macro connector undoes holds of the result after
preparing. -/
theorem prepare_keeps {P : DynamicModels → Prop} (start : P {})
    (declare : ∀ models connector, P models →
      P { models with declared := models.declared.insert connector })
    (config : AutomatonConfig) (locator : Locator) :
    P (prepare config locator).value.result := by
  let holds (survey : Logged DynamicModelSurvey) : Prop := P survey.value.result
  have hconnect : ∀ survey automaton connect, holds survey →
      holds (prepareConnect config automaton survey connect) := by
    intro survey automaton connect h
    have hdeclared := declare _ connect.connector h
    rwa [← prepareConnect_result config automaton survey connect] at hdeclared
  refine List.foldlRecOn (motive := holds) config.all _ start fun survey h automaton _ => ?_
  rw [prepareAutomaton]
  split
  · exact List.foldlRecOn (motive := holds) automaton.connects _ h fun survey h connect _ =>
      hconnect survey automaton connect h
  · exact h

theorem prepare_models (config : AutomatonConfig) (locator : Locator) :
    (prepare config locator).value.result.models = ∅ :=
  prepare_keeps (P := fun models => models.models = ∅) rfl (fun _ _ h => h) config locator

theorem prepare_used (config : AutomatonConfig) (locator : Locator) :
    (prepare config locator).value.result.used = ∅ :=
  prepare_keeps (P := fun models => models.used = ∅) rfl (fun _ _ h => h) config locator

end DynamicModelSurvey

/-! ## Visiting -/

/-- What a target takes from a node, as long as it waits. -/
inductive Target.Takes (node : Node) : Target → ConnectedKind → String → Prop
  | firstBus : Takes node (.single (.bus node.voltageLevel)) .node node.id
  | everyBus : Takes node (.multiple (.buses node.voltageLevel)) .node node.id
  | shunt {shunt : Shunt} (borne : shunt ∈ node.shunts) :
    Takes node (.multiple (.shunts node.voltageLevel)) .shunt shunt.id
  | line {id : String} (registered : id ∈ node.lines) : Takes node (.single (.line id)) .line id
  | transformer {id : String} (registered : id ∈ node.transformers) :
    Takes node (.single (.transformer id)) .transformer id

namespace DynamicModelSurvey

open DynamicModels

theorem visitor_succeedsOn (network : Network) (nodes : List Node) :
    visitor.SucceedsOn network nodes :=
  fun _ _ _ => rfl

theorem visit_waiting (network : Network) (node : Node) (survey : DynamicModelSurvey)
    (target : Target) :
    (visitor network node survey).state.waiting target =
      if target = .single (.bus node.voltageLevel) then [] else survey.waiting target := by
  rcases target with (level | id | id) | (level | level) <;>
    simp [visitor, waiting, ExtTreeMap.getD_modify]
  all_goals
    by_cases hlevel : level = node.voltageLevel
    · cases hfound : survey.buses[level]? <;>
        simp [← hlevel, hfound, ExtTreeMap.getD_eq_getD_getElem?]
    · simp [hlevel, Ne.symm hlevel]

theorem visit_gains (network : Network) (node : Node) (survey : DynamicModelSurvey) :
    Gains survey.result
      (fun id c => ∃ target, target.Takes node c.kind c.element ∧
        ∃ binding ∈ survey.waiting target,
          binding.automaton.id = id ∧ binding.connector = c.connector)
      (visitor network node survey).state.result := by
  have hfirst := materialize_gains .node node.id
    (survey.buses.getD node.voltageLevel {}).firstNode survey.result
  have hevery := hfirst.trans (materialize_gains .node node.id
    (survey.buses.getD node.voltageLevel {}).everyNode _)
  have hshunts := hevery.trans (Gains.foldl (fun models (shunt : Shunt) =>
    materialize_gains .shunt shunt.id (survey.shunts.getD node.voltageLevel []) models)
    node.shunts _)
  have hlines := hshunts.trans (materializeAll_gains .line survey.lines node.lines _)
  have htransformers := hlines.trans
    (materializeAll_gains .transformer survey.transformers node.transformers _)
  refine htransformers.congr fun id c => ⟨fun h => ?_, fun h => ?_⟩
  · rcases h with (((⟨binding, hb, hid, rfl⟩ | ⟨binding, hb, hid, rfl⟩) |
      ⟨shunt, hs, binding, hb, hid, rfl⟩) | ⟨line, hl, binding, hb, hid, rfl⟩) |
      ⟨transformer, ht, binding, hb, hid, rfl⟩
    · exact ⟨_, .firstBus, binding, hb, hid, rfl⟩
    · exact ⟨_, .everyBus, binding, hb, hid, rfl⟩
    · exact ⟨_, .shunt hs, binding, hb, hid, rfl⟩
    · exact ⟨_, .line hl, binding, hb, hid, rfl⟩
    · exact ⟨_, .transformer ht, binding, hb, hid, rfl⟩
  · obtain ⟨connector, kind, element⟩ := c
    obtain ⟨target, htakes, binding, hb, hid, rfl⟩ := h
    cases htakes with
    | firstBus => exact .inl (.inl (.inl (.inl ⟨binding, hb, hid, rfl⟩)))
    | everyBus => exact .inl (.inl (.inl (.inr ⟨binding, hb, hid, rfl⟩)))
    | shunt hs => exact .inl (.inl (.inr ⟨_, hs, binding, hb, hid, rfl⟩))
    | line hl => exact .inl (.inr ⟨_, hl, binding, hb, hid, rfl⟩)
    | transformer ht => exact .inr ⟨_, ht, binding, hb, hid, rfl⟩

end DynamicModelSurvey

/-! ## The run -/

theorem Target.not_meets_nil {network : Network} (target : Target) {kind : ConnectedKind}
    {element : String} : ¬ target.Meets network [] kind element := by
  intro h
  cases h <;> contradiction

theorem Target.Meets.append {network : Network} {visits : List Node} {target : Target}
    {kind : ConnectedKind} {element : String} (h : target.Meets network visits kind element)
    (later : List Node) : target.Meets network (visits ++ later) kind element := by
  cases h with
  | firstBus first => exact .firstBus (by rw [List.find?_append, first]; rfl)
  | everyBus visited => exact .everyBus (List.mem_append_left later visited)
  | shunt visited borne => exact .shunt (List.mem_append_left later visited) borne
  | line present visited ends =>
    exact .line present (List.mem_append_left later visited) ends
  | transformer present visited ends =>
    exact .transformer present (List.mem_append_left later visited) ends

/-- What one more node is the first to meet is taken there by a target that still
waits for the node. -/
theorem Target.Meets.of_append {network : Network} (coherent : network.Coherent) {node : Node}
    (hn : node ∈ network.nodes) {visits : List Node} {target : Target} {kind : ConnectedKind}
    {element : String} (h : target.Meets network (visits ++ [node]) kind element) :
    target.Meets network visits kind element ∨
      (target.Takes node kind element ∧
        ∀ other ∈ visits, target ≠ .single (.bus other.voltageLevel)) := by
  cases h with
  | @firstBus level found first =>
    rw [List.find?_append] at first
    cases hearlier : visits.find? (fun node => node.voltageLevel = level) with
    | some earlier =>
      rw [hearlier] at first
      cases first
      exact .inl (.firstBus hearlier)
    | none =>
      rw [hearlier, Option.none_or, List.find?_singleton] at first
      split at first
      · rename_i hlevel
        cases first
        obtain rfl := of_decide_eq_true hlevel
        refine .inr ⟨.firstBus, fun other ho heq => ?_⟩
        have := List.find?_eq_none.mp hearlier other ho
        simp only [Target.single.injEq, SingleTarget.bus.injEq] at heq
        exact this (decide_eq_true heq.symm)
      · cases first
  | everyBus visited =>
    rcases List.mem_append.mp visited with visited | visited
    · exact .inl (.everyBus visited)
    · obtain rfl := List.mem_singleton.mp visited
      exact .inr ⟨.everyBus, nofun⟩
  | shunt visited borne =>
    rcases List.mem_append.mp visited with visited | visited
    · exact .inl (.shunt visited borne)
    · obtain rfl := List.mem_singleton.mp visited
      exact .inr ⟨.shunt borne, nofun⟩
  | line present visited ends =>
    rcases List.mem_append.mp visited with visited | visited
    · exact .inl (.line present visited ends)
    · obtain rfl := List.mem_singleton.mp visited
      exact .inr ⟨.line ((coherent.mem_lines_iff hn _).mpr ⟨_, present, rfl, ends⟩), nofun⟩
  | transformer present visited ends =>
    rcases List.mem_append.mp visited with visited | visited
    · exact .inl (.transformer present visited ends)
    · obtain rfl := List.mem_singleton.mp visited
      exact .inr ⟨.transformer
        ((coherent.mem_transformers_iff hn _).mpr ⟨_, present, rfl, ends⟩), nofun⟩

/-- A target that still waits for a node meets there what it takes. -/
theorem Target.Takes.meets {network : Network} (coherent : network.Coherent) {node : Node}
    (hn : node ∈ network.nodes) {visits : List Node} {target : Target} {kind : ConnectedKind}
    {element : String} (h : target.Takes node kind element)
    (waits : ∀ other ∈ visits, target ≠ .single (.bus other.voltageLevel)) :
    target.Meets network (visits ++ [node]) kind element := by
  have visited : node ∈ visits ++ [node] := List.mem_append_right visits List.mem_cons_self
  cases h with
  | firstBus =>
    have hearlier : visits.find? (fun other => other.voltageLevel = node.voltageLevel) =
        none := by
      rw [List.find?_eq_none]
      intro other ho hlevel
      exact waits other ho (by rw [of_decide_eq_true hlevel])
    exact .firstBus (by rw [List.find?_append, hearlier]; simp)
  | everyBus => exact .everyBus visited
  | shunt borne => exact .shunt visited borne
  | line registered =>
    obtain ⟨line, present, rfl, ends⟩ := (coherent.mem_lines_iff hn _).mp registered
    exact .line present visited ends
  | transformer registered =>
    obtain ⟨transformer, present, rfl, ends⟩ :=
      (coherent.mem_transformers_iff hn _).mp registered
    exact .transformer present visited ends

/-- One more node meets what the targets take that still wait for it: all but
those that asked for one node of a voltage level which came before. -/
theorem Target.meets_append_iff {network : Network} (coherent : network.Coherent)
    {node : Node} (hn : node ∈ network.nodes) (visits : List Node) (target : Target)
    (kind : ConnectedKind) (element : String) :
    target.Meets network (visits ++ [node]) kind element ↔
      target.Meets network visits kind element ∨
        (target.Takes node kind element ∧
          ∀ other ∈ visits, target ≠ .single (.bus other.voltageLevel)) := by
  refine ⟨fun h => h.of_append coherent hn, fun hgiven => ?_⟩
  rcases hgiven with h | ⟨htakes, waits⟩
  · exact h.append [node]
  · exact htakes.meets coherent hn waits

namespace DynamicModelSurvey

open DynamicModels

/-- The survey agrees with the nodes visited so far, given what waited at the
start: what it took is connected, and what still waits is all but the bindings
that asked for one node of a voltage level which came. -/
structure Tracks (network : Network) (given : Target → List Binding) (visits : List Node)
    (survey : DynamicModelSurvey) : Prop where
  waiting : ∀ target binding, binding ∈ survey.waiting target ↔
    binding ∈ given target ∧ ∀ node ∈ visits, target ≠ .single (.bus node.voltageLevel)
  connected : ∀ id connection, survey.result.Connected id connection ↔
    ∃ target, target.Meets network visits connection.kind connection.element ∧
      ∃ binding ∈ given target,
        binding.automaton.id = id ∧ binding.connector = connection.connector
  inhabited : survey.result.Inhabited

theorem Tracks.visit {network : Network} (coherent : network.Coherent)
    {given : Target → List Binding} {visits : List Node} {survey : DynamicModelSurvey}
    (h : Tracks network given visits survey) {node : Node} (hn : node ∈ network.nodes) :
    Tracks network given (visits ++ [node]) (visitor network node survey).state where
  waiting target binding := by
    rw [visit_waiting]
    split
    · rename_i hspent
      simp [hspent]
    · rename_i hwaits
      rw [h.waiting]
      simp only [List.forall_mem_append, List.forall_mem_singleton]
      simp [hwaits]
  connected id c := by
    rw [(visit_gains network node survey).connected, h.connected]
    simp only [Target.meets_append_iff coherent hn, h.waiting, or_and_right, exists_or]
    refine or_congr_right ?_
    refine ⟨fun hgiven => ?_, fun hgiven => ?_⟩
    · obtain ⟨target, htakes, binding, ⟨hb, hwaits⟩, hids⟩ := hgiven
      exact ⟨target, ⟨htakes, hwaits⟩, binding, hb, hids⟩
    · obtain ⟨target, ⟨htakes, hwaits⟩, binding, hb, hids⟩ := hgiven
      exact ⟨target, htakes, binding, ⟨hb, hwaits⟩, hids⟩
  inhabited := (visit_gains network node survey).inhabited h.inhabited

theorem traverse_tracks {network : Network} (coherent : network.Coherent)
    (config : AutomatonConfig) (locator : Locator) {visits : List Node}
    (hsub : visits ⊆ network.nodes) :
    Tracks network (prepare config locator).value.waiting visits
      (traverse visitor network visits (prepare config locator).value).state := by
  have nothing : ∀ id : String, (prepare config locator).value.result.models[id]? = none := by
    intro id
    rw [prepare_models]
    rfl
  have start : Tracks network (prepare config locator).value.waiting []
      (prepare config locator).value := {
    waiting := by simp
    connected id c := by
      refine ⟨fun hgiven => ?_, fun hgiven => ?_⟩
      · obtain ⟨model, hmodel, -⟩ := hgiven
        rw [nothing] at hmodel
        cases hmodel
      · obtain ⟨target, hmeets, -⟩ := hgiven
        exact (target.not_meets_nil hmeets).elim
    inhabited id model hmodel := by
      rw [nothing] at hmodel
      cases hmodel }
  exact traverse_invariant (visitor_succeedsOn network visits)
    (fun before _ node hn survey h => h.visit coherent (hsub hn)) start

theorem Tracks.connected_iff {network : Network} {config : AutomatonConfig}
    {locator : Locator} {visits : List Node} {survey : DynamicModelSurvey}
    (h : Tracks network (prepare config locator).value.waiting visits survey) (id : String)
    (connection : Connection) :
    survey.result.Connected id connection ↔
      config.Connects locator network visits id connection := by
  rw [h.connected]
  simp only [mem_waiting_prepare]
  refine ⟨fun hgiven => ?_, fun hgiven => ?_⟩
  · obtain ⟨target, hmeets, _, ⟨automaton, ha, hlibrary, connect, hc, hresolves, rfl⟩, hid, hm⟩ :=
      hgiven
    exact ⟨automaton, ha, hid, hlibrary, connect, hc, hm, target, hresolves, hmeets⟩
  · obtain ⟨automaton, ha, hid, hlibrary, connect, hc, hm, target, hresolves, hmeets⟩ := hgiven
    exact ⟨target, hmeets, _, ⟨automaton, ha, hlibrary, connect, hc, hresolves, rfl⟩, hid, hm⟩

end DynamicModelSurvey

/-- Whatever nodes of a built network are visited, in whatever order and however
often, the dynamic models have the connections that the configuration asks for
and no others, and an automaton without any has no model. -/
theorem dynamicModels_exact {network : Network} (built : network.IsBuilt)
    (config : AutomatonConfig) (locator : Locator) {visits : List Node}
    (hsub : visits ⊆ network.nodes) :
    let outcome := traverse DynamicModelSurvey.visitor network visits
      (DynamicModelSurvey.prepare config locator).value
    outcome.fault = none ∧
    (∀ id connection, outcome.state.result.Connected id connection ↔
      config.Connects locator network visits id connection) ∧
    ∀ id, (∀ connection, ¬ config.Connects locator network visits id connection) →
      outcome.state.result.models[id]? = none := by
  intro outcome
  have tracks := DynamicModelSurvey.traverse_tracks built.coherent config locator hsub
  have hfault := traverse_of_succeedsOn (DynamicModelSurvey.visitor_succeedsOn network visits)
    (DynamicModelSurvey.prepare config locator).value
  refine ⟨hfault.1, tracks.connected_iff, fun id hnone => ?_⟩
  rw [Option.eq_none_iff_forall_ne_some]
  intro model hmodel
  obtain ⟨connection, hc⟩ := tracks.inhabited id model hmodel
  exact hnone connection ((tracks.connected_iff id connection).mp ⟨model, hmodel, hc⟩)

namespace TwoIslands

def config : AutomatonConfig :=
  (AutomatonConfig.ofLists
    [{ id := "T", library := "Tap", connects :=
        [{ connector := "measure", association := "side" },
          { connector := "control", association := "tap" }] }]
    [{ id := "side", target := .bus "V2" }, { id := "tap", target := .transformer "CD" }]
    [{ id := "side", target := .buses "V1" }]).value

end TwoIslands

/-- Visited backwards, the node that comes first is the one that is measured. -/
theorem dynamicModels_exact_twoIslands :
    TwoIslands.network.IsBuilt ∧
    TwoIslands.network.nodes.reverse ⊆ TwoIslands.network.nodes ∧
    (traverse DynamicModelSurvey.visitor TwoIslands.network TwoIslands.network.nodes.reverse
      (DynamicModelSurvey.prepare TwoIslands.config
        (.ofLibraries (· = "Tap"))).value).state.result.Connected "T"
      { connector := "measure", kind := .node, element := "D" } := by
  have hsub : TwoIslands.network.nodes.reverse ⊆ TwoIslands.network.nodes :=
    fun _ => List.mem_reverse.mp
  refine ⟨TwoIslands.network_isBuilt, hsub, ?_⟩
  have hexact := (dynamicModels_exact TwoIslands.network_isBuilt TwoIslands.config
    (.ofLibraries (· = "Tap")) hsub).2.1
  have present : { id := "T", library := "Tap", connects :=
      [{ connector := "measure", association := "side" },
        { connector := "control", association := "tap" }] } ∈ TwoIslands.config.all := by
    decide +kernel
  have resolves : TwoIslands.config.target? "side" = some (.single (.bus "V2")) := by
    decide +kernel
  rw [hexact]
  refine ⟨_, present, rfl, rfl, _, List.mem_cons_self, rfl, _,
    (TwoIslands.config.target?_eq_some_iff _ _).mp resolves, ?_⟩
  have first : TwoIslands.network.nodes.reverse.find? (fun node => node.voltageLevel = "V2") =
      some (TwoIslands.network.nodes.getLast (by decide)) := by
    rfl
  exact .firstBus first

end GridSetup
