import GridSetup.Proofs.Bookkeeping
import GridSetup.Proofs.Separation

/-! # What a resolution reports

The surveys of a resolution share one log. First comes the size of the main
component, then what the configuration lacks, then node by node what is said of its
diagrams and of its loads, and in the end the macro connectors that are bound to
nothing. What a node is reported for does not depend on the nodes before it, so the
reports on any one subject can be read off the main component. -/

namespace GridSetup

/-! ## Subjects -/

/-- What an event is about. -/
inductive EventSubject where
  /-- Automatons, associations and libraries. -/
  | configuration
  | mainComponent
  | diagram
  | load
  /-- Macro connectors that are bound to nothing. -/
  | connector
  deriving DecidableEq

def Event.subject : Event → EventSubject
  | .mainComponent _ _ => .mainComponent
  | .unusableDiagram _ _ => .diagram
  | .ignoredLoad _ _ _ _ => .load
  | .unusedConnector _ => .connector
  | _ => .configuration

/-- All events are about the subject. -/
def AllAbout (subject : EventSubject) (events : List Event) : Prop :=
  ∀ event ∈ events, event.subject = subject

/-- The events about a subject, in order. -/
def eventsAbout (subject : EventSubject) (events : List Event) : List Event :=
  events.filter fun event => event.subject = subject

theorem AllAbout.eventsAbout_eq {subject : EventSubject} {events : List Event}
    (h : AllAbout subject events) (asked : EventSubject) :
    eventsAbout asked events = if subject = asked then events else [] := by
  split
  · rename_i heq
    exact List.filter_eq_self.mpr fun event he => decide_eq_true ((h event he).trans heq)
  · rename_i hne
    refine List.filter_eq_nil_iff.mpr fun event he hasked => hne ?_
    exact (h event he).symm.trans (of_decide_eq_true hasked)

theorem AllAbout.flatMap {α : Type} {subject : EventSubject} {report : α → List Event}
    (h : ∀ x, AllAbout subject (report x)) (l : List α) : AllAbout subject (l.flatMap report) := by
  intro event he
  obtain ⟨x, -, hx⟩ := List.mem_flatMap.mp he
  exact h x event hx

theorem eventsAbout_append (subject : EventSubject) (events later : List Event) :
    eventsAbout subject (events ++ later) =
      eventsAbout subject events ++ eventsAbout subject later :=
  List.filter_append events later

theorem eventsAbout_flatMap {α : Type} (subject : EventSubject) (report : α → List Event)
    (l : List α) :
    eventsAbout subject (l.flatMap report) = l.flatMap fun x => eventsAbout subject (report x) :=
  List.filter_flatMap

/-! ## Visitors that report by the node -/

section

variable {σ : Type} {network : Network} {nodes : List Node}

/-- The visitor fails on none of the nodes, and what it reports of each is the same in
every state. -/
structure Visitor.Reports (visitor : Visitor σ) (network : Network) (nodes : List Node)
    (report : Node → List Event) : Prop where
  succeeds : visitor.SucceedsOn network nodes
  events_eq : ∀ node ∈ nodes, ∀ state, (visitor network node state).events = report node

theorem Visitor.Reports.traverse_events {visitor : Visitor σ} {report : Node → List Event}
    (h : visitor.Reports network nodes report) {visits : List Node} (hsub : visits ⊆ nodes)
    (state : σ) : (traverse visitor network visits state).events = visits.flatMap report := by
  induction visits generalizing state with
  | nil => rfl
  | cons node rest ih =>
    obtain ⟨hn, hrest⟩ := List.cons_subset.mp hsub
    rw [traverse, Outcome.andThen, h.succeeds node hn]
    dsimp only
    rw [h.events_eq node hn, ih hrest, List.flatMap_cons]

theorem Panel.reports_nil : Visitor.Reports Panel.nil.visitor network nodes fun _ => [] :=
  ⟨fun _ _ _ => rfl, fun _ _ _ => rfl⟩

/-- A panel reports of a node what its members do, one after the other. -/
theorem Visitor.Reports.cons {first : Visitor σ} {types : List Type} {rest : Panel types}
    {report report' : Node → List Event} (h : first.Reports network nodes report)
    (h' : Visitor.Reports rest.visitor network nodes report') :
    Visitor.Reports (Panel.cons first rest).visitor network nodes fun node =>
      report node ++ report' node where
  succeeds node hn state := by
    rw [Panel.visitor]
    dsimp only
    rw [h.succeeds node hn]
    exact h'.succeeds node hn state.2
  events_eq node hn state := by
    rw [Panel.visitor]
    dsimp only
    rw [h.succeeds node hn]
    dsimp only
    rw [h.events_eq node hn, h'.events_eq node hn]

end

/-! ## What is reported of a node -/

/-- The reports of the diagrams of a node. -/
def Generation.reports (unlimited : Bool) (node : Node) : List Event :=
  node.generators.flatMap fun generator => (usesDiagram unlimited generator).events

/-- The reports of the loads of a node, which are ignored all or none. -/
def LoadDefinition.reports (threshold : Float) (node : Node) : List Event :=
  if isIgnored threshold node then node.loads.map (ignoredEvent threshold node) else []

theorem Generator.hasDiagram_about (generator : Generator) :
    AllAbout .diagram generator.hasDiagram.events := by
  fun_cases Generator.hasDiagram generator <;> simp [AllAbout, Event.subject]

theorem Generation.reports_about (unlimited : Bool) (node : Node) :
    AllAbout .diagram (Generation.reports unlimited node) := by
  refine AllAbout.flatMap (fun generator => ?_) node.generators
  rw [usesDiagram]
  split
  · exact nofun
  · exact generator.hasDiagram_about

theorem LoadDefinition.reports_about (threshold : Float) (node : Node) :
    AllAbout .load (LoadDefinition.reports threshold node) := by
  intro event he
  rw [LoadDefinition.reports] at he
  split at he
  · obtain ⟨load, -, rfl⟩ := List.mem_map.mp he
    rfl
  · cases he

theorem LoadDefinition.visitor_reports (network : Network) (nodes : List Node)
    (threshold : Float) :
    (visitor threshold).Reports network nodes (LoadDefinition.reports threshold) where
  succeeds := Network.Coherent.loads_succeedsOn nodes threshold
  events_eq node _ state := by
    rw [visitor, LoadDefinition.reports]
    split <;> rfl

/-- Converters are met or not found without a report. -/
theorem HvdcDefinition.meetAll_events (network : Network) (converters : List String)
    (state : Std.ExtTreeMap String HvdcDefinition) :
    (meetAll network converters state).events = [] := by
  induction converters generalizing state with
  | nil => rfl
  | cons id rest ih =>
    rw [meetAll]
    split
    · rfl
    · exact ih _

namespace Network.Coherent

variable {network : Network}

theorem mainComponent_reports (coherent : network.Coherent) :
    MainComponent.visitor.Reports network network.nodes fun _ => [] where
  succeeds := MainComponent.visitor_succeedsOn coherent
  events_eq node _ state := by
    rw [MainComponent.visitor]
    split
    · rfl
    · split <;> rfl

theorem slack_reports (coherent : network.Coherent) :
    SlackCandidate.visitor.Reports network network.nodes fun _ => [] where
  succeeds := coherent.slack_succeedsOn
  events_eq node _ state := by
    rw [SlackCandidate.visitor]
    split <;> rfl

theorem generation_reports (coherent : network.Coherent) (unlimited : Bool) :
    (Generation.visitor unlimited).Reports network network.nodes
      (Generation.reports unlimited) where
  succeeds := coherent.generation_succeedsOn unlimited
  events_eq node hn state := by
    obtain ⟨search, hsearch⟩ := coherent.findThroughClosedSwitches_isOk hn
      fun _ other => Generation.isSource other
    rw [Generation.visitor, Generation.reports]
    split
    · rename_i hnone
      have hempty : node.generators = [] := by simpa [Generation.isSource] using hnone
      rw [hempty]
      rfl
    · rw [hsearch]

theorem hvdc_reports (coherent : network.Coherent) :
    HvdcDefinition.visitor.Reports network network.nodes fun _ => [] where
  succeeds := coherent.hvdc_succeedsOn
  events_eq node _ := HvdcDefinition.meetAll_events network node.converters

theorem panel_reports (coherent : network.Coherent) (options : Options) :
    Visitor.Reports (Resolution.panel options).visitor network network.nodes fun node =>
      Generation.reports options.unlimitedReactivePower node ++
        LoadDefinition.reports options.loadThreshold node := by
  have hconnections : DynamicModelSurvey.visitor.Reports network network.nodes fun _ => [] :=
    ⟨fun _ _ _ => rfl, fun _ _ _ => rfl⟩
  have hcounts : shuntCountVisitor.Reports network network.nodes fun _ => [] :=
    ⟨fun _ _ _ => rfl, fun _ _ _ => rfl⟩
  have hloads := LoadDefinition.visitor_reports network network.nodes options.loadThreshold
  have hall := coherent.slack_reports.cons <|
    (coherent.generation_reports options.unlimitedReactivePower).cons <| hloads.cons <|
    coherent.hvdc_reports.cons <| hconnections.cons <| hcounts.cons Panel.reports_nil
  refine ⟨hall.succeeds, fun node hn state => (hall.events_eq node hn state).trans ?_⟩
  simp only [List.nil_append, List.append_nil]

end Network.Coherent

/-! ## What is reported of the configuration and the connectors -/

namespace DynamicModelSurvey

/-- The reports of an automaton: where its library could not be looked for, then the
associations that its macro connectors lack, or that there is no such library. -/
def automatonReports (config : AutomatonConfig) (locator : Locator) (automaton : Automaton) :
    List Event :=
  let found := locator.find automaton.library
  found.events ++
    if found.value then
      (automaton.connects.filter fun connect => config.target? connect.association = none).map
        fun connect => .missingAssociation automaton.id connect.connector connect.association
    else [.missingLibrary automaton.id automaton.library]

theorem foldl_prepareConnect_events (config : AutomatonConfig) (automaton : Automaton)
    (connects : List MacroConnect) (survey : Logged DynamicModelSurvey) :
    (connects.foldl (prepareConnect config automaton) survey).events = survey.events ++
      (connects.filter fun connect => config.target? connect.association = none).map
        fun connect => .missingAssociation automaton.id connect.connector connect.association := by
  induction connects generalizing survey with
  | nil => simp
  | cons connect rest ih =>
    rw [List.foldl_cons, ih, prepareConnect]
    cases htarget : config.target? connect.association <;> simp [htarget]

theorem foldl_prepareAutomaton_events (config : AutomatonConfig) (locator : Locator)
    (automatons : List Automaton) (survey : Logged DynamicModelSurvey) :
    (automatons.foldl (prepareAutomaton config locator) survey).events =
      survey.events ++ automatons.flatMap (automatonReports config locator) := by
  induction automatons generalizing survey with
  | nil => simp
  | cons automaton rest ih =>
    rw [List.foldl_cons, ih, prepareAutomaton, List.flatMap_cons, automatonReports]
    dsimp only
    split
    · rw [foldl_prepareConnect_events, List.append_assoc, List.append_assoc, List.append_assoc]
    · rw [List.append_assoc, List.append_assoc, List.append_assoc]

/-- Preparing reports on one automaton after the other. -/
theorem prepare_events (config : AutomatonConfig) (locator : Locator) :
    (prepare config locator).events = config.all.flatMap (automatonReports config locator) :=
  foldl_prepareAutomaton_events config locator config.all { value := {} }

theorem prepare_about (config : AutomatonConfig) (locator : Locator) :
    AllAbout .configuration (prepare config locator).events := by
  rw [prepare_events]
  refine AllAbout.flatMap (fun automaton => ?_) config.all
  refine List.forall_mem_append.mpr ⟨fun event he => ?_, ?_⟩
  · obtain ⟨path, obstacle, rfl⟩ := locator.unreadable automaton.library event he
    rfl
  split
  · intro event he
    obtain ⟨connect, -, rfl⟩ := List.mem_map.mp he
    rfl
  · exact List.forall_mem_singleton.mpr rfl

end DynamicModelSurvey

theorem DynamicModels.unusedEvents_about (models : DynamicModels) :
    AllAbout .connector models.unusedEvents := by
  intro event he
  obtain ⟨connector, -, rfl⟩ := List.mem_map.mp he
  rfl

/-! ## The log of a resolution -/

/-- What is reported about a subject in resolving a network. -/
def Resolution.reports (network : Network) (config : AutomatonConfig) (locator : Locator)
    (options : Options) : EventSubject → List Event
  | .mainComponent => [.mainComponent network.mainNodes.length network.nodes.length]
  | .configuration => (DynamicModelSurvey.prepare config locator).events
  | .diagram => network.mainNodes.flatMap (Generation.reports options.unlimitedReactivePower)
  | .load => network.mainNodes.flatMap (LoadDefinition.reports options.loadThreshold)
  | .connector =>
    (DynamicModelSurvey.modelsOf network config locator network.mainNodes).unusedEvents

namespace Network.Coherent

variable {network : Network} (config : AutomatonConfig) (locator : Locator)
  (options : Options)

theorem resolve_events (coherent : network.Coherent) :
    (resolve network config locator options).events =
      .mainComponent network.mainNodes.length network.nodes.length ::
        ((DynamicModelSurvey.prepare config locator).events ++
          (network.mainNodes.flatMap fun node =>
            Generation.reports options.unlimitedReactivePower node ++
              LoadDefinition.reports options.loadThreshold node)) ++
        (DynamicModelSurvey.modelsOf network config locator network.mainNodes).unusedEvents := by
  have hquiet := coherent.mainComponent_reports.traverse_events (List.Subset.refl _) {}
  have hreports := (coherent.panel_reports options).traverse_events coherent.mainNodes_subset
    (Resolution.start (DynamicModelSurvey.prepare config locator).value)
  have hmodels := ((Resolution.panel options).traverse_of_ok
    (coherent.panel_traverse_ok options
      (Resolution.start (DynamicModelSurvey.prepare config locator).value)) 4).2
  rw [coherent.resolve_eq, hquiet, hreports, List.flatMap_eq_nil_iff.mpr fun _ _ => rfl,
    List.nil_append, Resolution.ofParts_eq, hmodels]
  rfl

/-- The log holds what is reported about each subject, in the order of the main
component. -/
theorem eventsAbout_resolve (coherent : network.Coherent) (subject : EventSubject) :
    eventsAbout subject (resolve network config locator options).events =
      Resolution.reports network config locator options subject := by
  have hsize : AllAbout .mainComponent
      [.mainComponent network.mainNodes.length network.nodes.length] := by
    simp [AllAbout, Event.subject]
  rw [coherent.resolve_events, ← List.singleton_append]
  simp only [eventsAbout_append, eventsAbout_flatMap, hsize.eventsAbout_eq,
    (DynamicModelSurvey.prepare_about config locator).eventsAbout_eq,
    (Generation.reports_about _ _).eventsAbout_eq,
    (LoadDefinition.reports_about _ _).eventsAbout_eq,
    (DynamicModels.unusedEvents_about _).eventsAbout_eq]
  cases subject <;> simp [Resolution.reports]

end Network.Coherent
end GridSetup
