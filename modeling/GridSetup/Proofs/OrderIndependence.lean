import GridSetup.Proofs.Bookkeeping
import GridSetup.Proofs.HvdcPosition
import GridSetup.Proofs.Rearrangement
import GridSetup.Proofs.Tally

/-! # Resolving the same parts in another order

If one component is larger than every other, the nodes that are surveyed are the
same in any order of the parts. What each survey gathers from them is then the
same but for the order of lists and for what the first node to come decides: the
generator that stands for a bus, and the node that is taken of a voltage level. -/

namespace GridSetup

open Std (ExtTreeMap ExtTreeSet)

variable {one other : Network} {visits visits' : List Node}

/-- Built networks with the same parts, of which the same nodes are visited, but
in another order. -/
structure SameSurvey (one other : Network) (visits visits' : List Node) : Prop where
  built : one.IsBuilt
  built' : other.IsBuilt
  parts : one.SameParts other
  rearranged : Rearranged visits visits'
  inside : visits ⊆ one.nodes
  inside' : visits' ⊆ other.nodes

theorem SameSurvey.symm (same : SameSurvey one other visits visits') :
    SameSurvey other one visits' visits where
  built := same.built'
  built' := same.built
  parts := same.parts.symm
  rearranged := same.rearranged.symm
  inside := same.inside'
  inside' := same.inside

/-! ## Generators, loads and shunts -/

namespace Generation

theorem definitionsAt_eq (same : SameSurvey one other visits visits') (unlimited : Bool)
    {node : Node} (hn : node ∈ other.nodes) :
    definitionsAt unlimited one node = definitionsAt unlimited other node := by
  obtain ⟨given, hgiven, alike⟩ := same.parts.nodes.symm.exists_mem hn
  have hfinds : one.findsSource node = other.findsSource node := by
    rw [← same.parts.findsSource_eq same.built.coherent same.built'.coherent hgiven hn alike.id,
      Network.findsSource, Network.findsSource, alike.id]
  have hdefinition : definition unlimited one node = definition unlimited other node := by
    funext generator
    rw [definition, definition, hfinds, same.parts.regulation_eq same.built same.built']
  rw [definitionsAt, definitionsAt, hdefinition]

theorem definitions_perm (same : SameSurvey one other visits visits') (unlimited : Bool) :
    (traverse (visitor unlimited) one visits {}).state.definitions.Perm
      (traverse (visitor unlimited) other visits' {}).state.definitions := by
  have heq : visits'.flatMap (definitionsAt unlimited one) =
      visits'.flatMap (definitionsAt unlimited other) :=
    List.flatMap_congr fun node hn => definitionsAt_eq same unlimited (same.inside' hn)
  rw [traverse_state same.built.coherent unlimited same.inside,
    traverse_state same.built'.coherent unlimited same.inside', ← heq]
  exact same.rearranged.flatMap fun _ => rfl

theorem representatives_iff (same : SameSurvey one other visits visits') (unlimited : Bool)
    (bus : String) :
    bus ∈ (traverse (visitor unlimited) one visits {}).state.representatives ↔
      bus ∈ (traverse (visitor unlimited) other visits' {}).state.representatives := by
  have hgenerators : (visits.flatMap Node.generators).Perm (visits'.flatMap Node.generators) :=
    same.rearranged.flatMap fun _ => rfl
  rw [traverse_state same.built.coherent unlimited same.inside,
    traverse_state same.built'.coherent unlimited same.inside', mem_foldl_represent,
    mem_foldl_represent, same.parts.regulation_eq same.built same.built']
  simp only [hgenerators.mem_iff]

end Generation

theorem shuntCount_eq (same : SameSurvey one other visits visits') :
    (traverse shuntCountVisitor one visits ∅).state =
      (traverse shuntCountVisitor other visits' ∅).state := by
  refine ExtTreeMap.ext_getElem? fun level => ?_
  rw [shuntCount_exact, shuntCount_exact, ← shuntsOfLevel_unregistered visits,
    ← shuntsOfLevel_unregistered visits']
  exact shuntsOfLevel_perm same.rearranged level

theorem loads_perm (same : SameSurvey one other visits visits') (threshold : Float) :
    (traverse (LoadDefinition.visitor threshold) one visits []).state.Perm
      (traverse (LoadDefinition.visitor threshold) other visits' []).state := by
  rw [LoadDefinition.traverse_state, LoadDefinition.traverse_state]
  exact same.rearranged.flatMap fun _ => rfl

theorem hvdcLines_eq (same : SameSurvey one other visits visits') :
    (traverse HvdcDefinition.visitor one visits ∅).state =
      (traverse HvdcDefinition.visitor other visits' ∅).state := by
  refine ExtTreeMap.ext_getElem? fun id => Option.ext fun definition => ?_
  rw [HvdcDefinition.traverse_exact same.built.coherent same.inside,
    HvdcDefinition.traverse_exact same.built'.coherent same.inside']
  simp only [same.parts.hvdcLines.mem_iff, same.rearranged.mem_ids]

/-! ## Dynamic models -/

/-- No single association is bound to a node of a voltage level. -/
def AutomatonConfig.AvoidsSingleBus (config : AutomatonConfig) : Prop :=
  ∀ (id : String) (association : SingleAssociation), config.singles[id]? = some association →
    ∀ level, association.target ≠ .bus level

/-- What meets an element of the one network meets an element of the other, and
the same one unless it asks for one node of a voltage level. -/
theorem Target.Meets.rearranged {target : Target} {kind : ConnectedKind} {element : String}
    (h : target.Meets one visits kind element) (same : SameSurvey one other visits visits') :
    ∃ kind' element', target.Meets other visits' kind' element' ∧
      ((∀ level, target ≠ .single (.bus level)) → kind' = kind ∧ element' = element) := by
  cases h with
  | @firstBus level node first =>
    have hlevel : node.voltageLevel = level := by simpa using List.find?_some first
    obtain ⟨node', hn', alike⟩ := same.rearranged.exists_mem (List.mem_of_find?_eq_some first)
    have hfound : (visits'.find? fun node => node.voltageLevel = level).isSome := by
      rw [List.find?_isSome]
      exact ⟨node', hn', by simp [alike.voltageLevel, hlevel]⟩
    obtain ⟨first', hfirst'⟩ := Option.isSome_iff_exists.mp hfound
    exact ⟨_, _, .firstBus hfirst', fun avoids => absurd rfl (avoids level)⟩
  | everyBus visited =>
    obtain ⟨node', hn', alike⟩ := same.rearranged.exists_mem visited
    rw [← alike.voltageLevel]
    exact ⟨_, _, .everyBus hn', fun _ => ⟨rfl, alike.id⟩⟩
  | shunt visited borne =>
    obtain ⟨node', hn', alike⟩ := same.rearranged.exists_mem visited
    rw [← alike.voltageLevel]
    exact ⟨_, _, .shunt hn' (alike.shunts ▸ borne), fun _ => ⟨rfl, rfl⟩⟩
  | line present visited ends =>
    obtain ⟨node', hn', alike⟩ := same.rearranged.exists_mem visited
    exact ⟨_, _, .line ((same.parts.mem_lines _).mp present) hn' (alike.id ▸ ends),
      fun _ => ⟨rfl, rfl⟩⟩
  | transformer present visited ends =>
    obtain ⟨node', hn', alike⟩ := same.rearranged.exists_mem visited
    exact ⟨_, _, .transformer ((same.parts.mem_transformers _).mp present) hn' (alike.id ▸ ends),
      fun _ => ⟨rfl, rfl⟩⟩

theorem AutomatonConfig.Connects.rearranged {config : AutomatonConfig} {locator : Locator}
    {id : String} {connection : Connection}
    (h : config.Connects locator one visits id connection)
    (same : SameSurvey one other visits visits') :
    ∃ connection', config.Connects locator other visits' id connection' ∧
      connection'.connector = connection.connector ∧
      (config.AvoidsSingleBus → connection' = connection) := by
  obtain ⟨automaton, ha, hid, hlibrary, connect, hc, hconnector, target, hresolves, hmeets⟩ := h
  obtain ⟨kind', element', hmeets', hsame⟩ := hmeets.rearranged same
  refine ⟨{ connector := connection.connector, kind := kind', element := element' },
    ⟨automaton, ha, hid, hlibrary, connect, hc, hconnector, target, hresolves, hmeets'⟩, rfl,
    fun avoids => ?_⟩
  have htarget : ∀ level, target ≠ .single (.bus level) := by
    intro level
    cases hresolves with
    | single found => simpa using avoids _ _ found level
    | multiple => nofun
  obtain ⟨rfl, rfl⟩ := hsame htarget
  rfl

namespace DynamicModelSurvey

open DynamicModels

theorem used_subset (same : SameSurvey one other visits visits') (config : AutomatonConfig)
    (locator : Locator) {connector : String}
    (h : connector ∈ (modelsOf one config locator visits).used) :
    connector ∈ (modelsOf other config locator visits').used := by
  obtain ⟨id, connection, hconnected, rfl⟩ :=
    ((modelsOf_recorded config locator one visits).used connector).mp h
  rw [modelsOf_connected config locator same.built.coherent same.inside] at hconnected
  obtain ⟨connection', hconnects', hconnector, -⟩ := hconnected.rearranged same
  refine ((modelsOf_recorded config locator other visits').used _).mpr
    ⟨id, connection', ?_, hconnector⟩
  rwa [modelsOf_connected config locator same.built'.coherent same.inside']

theorem used_eq (same : SameSurvey one other visits visits') (config : AutomatonConfig)
    (locator : Locator) :
    (modelsOf one config locator visits).used =
      (modelsOf other config locator visits').used :=
  ExtTreeSet.ext_mem fun _ =>
    ⟨used_subset same config locator, used_subset same.symm config locator⟩

theorem connected_of_connected (same : SameSurvey one other visits visits')
    {config : AutomatonConfig} (avoids : config.AvoidsSingleBus) (locator : Locator)
    {id : String} {connection : Connection}
    (h : (modelsOf one config locator visits).Connected id connection) :
    (modelsOf other config locator visits').Connected id connection := by
  rw [modelsOf_connected config locator same.built.coherent same.inside] at h
  rw [modelsOf_connected config locator same.built'.coherent same.inside']
  obtain ⟨connection', hconnects', -, hsame⟩ := h.rearranged same
  exact hsame avoids ▸ hconnects'

/-- Without single associations that are bound to a node of a voltage level the
dynamic models are the same in any order. -/
theorem modelsOf_eq (same : SameSurvey one other visits visits') {config : AutomatonConfig}
    (unique : ∀ a ∈ config.all, ∀ b ∈ config.all, a.id = b.id → a = b)
    (avoids : config.AvoidsSingleBus) (locator : Locator) :
    modelsOf one config locator visits = modelsOf other config locator visits' := by
  have hmodels : (modelsOf one config locator visits).models =
      (modelsOf other config locator visits').models := by
    refine (modelsOf_recorded config locator one visits).models_eq
      (modelsOf_recorded config locator other visits')
      (fun a b ha hb => unique a ha.1 b hb.1)
      (traverse_tracks same.built.coherent config locator same.inside).inhabited
      (traverse_tracks same.built'.coherent config locator same.inside').inhabited
      fun id connection => ?_
    exact ⟨connected_of_connected same avoids locator,
      connected_of_connected same.symm avoids locator⟩
  have hdeclared : (modelsOf one config locator visits).declared =
      (modelsOf other config locator visits').declared := by
    rw [modelsOf_declared, modelsOf_declared]
  exact (DynamicModels.mk.injEq ..).mpr ⟨hmodels, used_eq same config locator, hdeclared⟩

end DynamicModelSurvey

/-! ## Resolutions -/

/-- Two resolutions agree in all but order: in the generators that stand for a
bus only the buses are compared, and of the dynamic models only the macro
connectors. -/
structure Resolution.SameButOrder (one other : Resolution) : Prop where
  mainComponent : one.mainComponent = other.mainComponent
  hvdcLines : one.hvdcLines = other.hvdcLines
  shuntCounts : one.shuntCounts = other.shuntCounts
  representatives : ∀ bus : String, bus ∈ one.representatives ↔ bus ∈ other.representatives
  generators : one.generators.Perm other.generators
  loads : one.loads.Perm other.loads
  declared : one.dynamicModels.declared = other.dynamicModels.declared
  used : one.dynamicModels.used = other.dynamicModels.used

theorem Resolution.separately_sameButOrder
    (same : SameSurvey one other one.mainNodes other.mainNodes) (config : AutomatonConfig)
    (locator : Locator) (options : Options) :
    (separately one config locator options).SameButOrder
      (separately other config locator options) where
  mainComponent := by
    refine ExtTreeSet.ext_mem fun id => ?_
    rw [mem_mainComponent_iff, mem_mainComponent_iff, same.rearranged.mem_ids]
  hvdcLines := hvdcLines_eq same
  shuntCounts := shuntCount_eq same
  representatives := Generation.representatives_iff same options.unlimitedReactivePower
  generators := Generation.definitions_perm same options.unlimitedReactivePower
  loads := loads_perm same options.loadThreshold
  declared := (DynamicModelSurvey.modelsOf_declared config locator one _).trans
    (DynamicModelSurvey.modelsOf_declared config locator other _).symm
  used := DynamicModelSurvey.used_eq same config locator

/-- Parts make up a network in any order or in none. If one component of it is
larger than every other, the parts are resolved into the same in any order, but
for the order of lists, the generators that stand for a bus, and the nodes taken
of a voltage level. -/
theorem resolve_order_independent {nodes nodes' : List Node} {branches branches' : List Branch}
    {hvdcLines hvdcLines' : List HvdcLine} (hnodes : nodes.Perm nodes')
    (hbranches : branches.Perm branches') (hlines : hvdcLines.Perm hvdcLines') :
    ((∃ network, Network.build nodes branches hvdcLines = .ok network) ↔
      ∃ network, Network.build nodes' branches' hvdcLines' = .ok network) ∧
    ∀ one other, Network.build nodes branches hvdcLines = .ok one →
      Network.build nodes' branches' hvdcLines' = .ok other → (∃ id, one.Dominates id) →
      ∀ automatons singles multiples locator options,
        let config := (AutomatonConfig.ofLists automatons singles multiples).value
        ∃ resolution resolution',
          (resolve one config locator options).value = .ok resolution ∧
          (resolve other config locator options).value = .ok resolution' ∧
          resolution.SameButOrder resolution' ∧
          (config.AvoidsSingleBus → resolution.dynamicModels = resolution'.dynamicModels) := by
  refine ⟨Network.build_isOk_perm hnodes hbranches hlines, ?_⟩
  intro one other hone hother hdominates automatons singles multiples locator options config
  obtain ⟨id, hid⟩ := hdominates
  have built : one.IsBuilt := ⟨_, _, _, hone⟩
  have built' : other.IsBuilt := ⟨_, _, _, hother⟩
  have parts : one.SameParts other := by
    obtain ⟨-, rfl⟩ := Network.build_eq_ok_iff.mp hone
    obtain ⟨-, rfl⟩ := Network.build_eq_ok_iff.mp hother
    exact Network.assemble_sameParts hnodes hbranches hlines
  have same : SameSurvey one other one.mainNodes other.mainNodes := {
    built, built', parts
    rearranged := parts.mainNodes built.coherent built'.coherent hid
    inside := built.coherent.mainNodes_subset
    inside' := built'.coherent.mainNodes_subset }
  refine ⟨_, _, built.coherent.resolve_eq_separately config locator options,
    built'.coherent.resolve_eq_separately config locator options,
    Resolution.separately_sameButOrder same config locator options, fun avoids => ?_⟩
  exact DynamicModelSurvey.modelsOf_eq same
    (fun _ ha _ hb => AutomatonConfig.all_injective automatons singles multiples ha hb) avoids
    locator

namespace Mainland

def reversed : Network :=
  .assemble nodes.reverse branches.reverse hvdcLines.reverse

theorem build_reversed :
    Network.build nodes.reverse branches.reverse hvdcLines.reverse = .ok reversed := by
  rfl

def automatons : List Automaton :=
  [{ id := "T", library := "Tap", connects :=
      [{ connector := "control", association := "tap" },
        { connector := "measure", association := "side" }] }]

def singles : List SingleAssociation := [{ id := "tap", target := .transformer "NSE" }]

def multiples : List MultipleAssociation := [{ id := "side", target := .buses "V1" }]

def config : AutomatonConfig := (AutomatonConfig.ofLists automatons singles multiples).value

theorem config_avoidsSingleBus : config.AvoidsSingleBus := by
  intro id association hfound level
  have hall : config.singles.toList.all fun entry => entry.2.target = .transformer "NSE" := by
    decide +kernel
  have hmem := ExtTreeMap.mem_toList_iff_getElem?_eq_some.mpr hfound
  have htarget := of_decide_eq_true (List.all_eq_true.mp hall _ hmem)
  rw [htarget]
  nofun

theorem network_dominates : network.Dominates "N" := by
  have coherent : network.Coherent :=
    Network.IsBuilt.coherent ⟨nodes, branches, hvdcLines, build_network⟩
  have hid : "N" ∈ network.nodes.map Node.id := by decide +kernel
  obtain ⟨node, hn, hnode⟩ := List.mem_map.mp hid
  obtain ⟨component, hok, -⟩ := coherent.reachableNodes_exact hn
  have hsize := (coherent.reachableNodes_length hn hok).1
  have hthree : (network.reachableNodes "N").map List.length = .ok 3 := by decide +kernel
  rw [hnode] at hok hsize
  rw [hok] at hthree
  have hlength : component.length = 3 := Except.ok.inj hthree
  refine coherent.dominates_of_half hid ?_
  rw [← hsize, hlength]
  decide +kernel

end Mainland

/-- Given backwards, the mainland is discovered in another order. -/
theorem resolve_order_independent_mainland :
    Mainland.network.Dominates "N" ∧ Mainland.config.AvoidsSingleBus ∧
    (∃ resolution resolution',
      (resolve Mainland.network Mainland.config (.ofLibraries fun _ => true) {}).value =
        .ok resolution ∧
      (resolve Mainland.reversed Mainland.config (.ofLibraries fun _ => true) {}).value =
        .ok resolution' ∧
      resolution.SameButOrder resolution' ∧
      resolution.dynamicModels = resolution'.dynamicModels) ∧
    Mainland.network.mainNodes.map Node.id = ["N", "S", "E"] ∧
    Mainland.reversed.mainNodes.map Node.id = ["E", "N", "S"] := by
  obtain ⟨resolution, resolution', hok, hok', same, hmodels⟩ :=
    (resolve_order_independent (List.reverse_perm Mainland.nodes).symm
      (List.reverse_perm Mainland.branches).symm (List.reverse_perm Mainland.hvdcLines).symm).2
      Mainland.network Mainland.reversed Mainland.build_network Mainland.build_reversed
      ⟨"N", Mainland.network_dominates⟩ Mainland.automatons Mainland.singles Mainland.multiples
      (.ofLibraries fun _ => true) {}
  exact ⟨Mainland.network_dominates, Mainland.config_avoidsSingleBus,
    ⟨resolution, resolution', hok, hok', same, hmodels Mainland.config_avoidsSingleBus⟩,
    by decide +kernel, by decide +kernel⟩

end GridSetup
