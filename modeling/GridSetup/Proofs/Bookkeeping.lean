import GridSetup.Proofs.Binding

/-! # The books of the dynamic models

The models, the connectors in use and the declared connectors are kept apart
from each other. They stay in step with every connection that is made, so the
connections determine the models and the connectors in use. -/

namespace GridSetup

open Std (ExtTreeMap ExtTreeSet)

/-! ## Automatons by id -/

section Indexing

variable {α : Type} (id : α → String) (repeated : String → Event)

theorem indexItem_getElem? (index : Logged (ExtTreeMap String α)) (item : α) (key : String) :
    (indexItem id repeated index item).value[key]? =
      index.value[key]?.or (if id item = key then some item else none) := by
  rw [indexItem]
  split
  · rename_i hheld
    split
    · rename_i hkey
      have hsome : index.value[key]?.isSome := by
        rwa [← hkey, ← ExtTreeMap.contains_eq_isSome_getElem?]
      rw [Option.or_of_isSome hsome]
    · exact Option.or_none.symm
  · rename_i hfree
    rw [ExtTreeMap.getElem?_insert]
    simp only [Std.LawfulEqCmp.compare_eq_iff_eq]
    split
    · rename_i hkey
      have hnone : index.value[key]? = none := by
        rw [← hkey]
        exact ExtTreeMap.getElem?_eq_none (by simpa using hfree)
      rw [hnone, Option.none_or]
    · exact Option.or_none.symm

theorem foldl_indexItem_getElem? (items : List α) (index : Logged (ExtTreeMap String α))
    (key : String) :
    (items.foldl (indexItem id repeated) index).value[key]? =
      index.value[key]?.or (items.find? fun item => id item == key) := by
  induction items generalizing index with
  | nil => simp
  | cons item items ih =>
    rw [List.foldl_cons, ih, indexItem_getElem?, Option.or_assoc, List.find?_cons]
    by_cases hkey : id item = key
    · simp [hkey]
    · simp [hkey, beq_false_of_ne hkey]

/-- An index holds the first item of each id. -/
theorem indexById_getElem? (items : List α) (key : String) :
    (indexById id repeated items).value[key]? = items.find? fun item => id item == key := by
  rw [indexById, foldl_indexItem_getElem?]
  simp

/-- What is found in an index has the id under which it is found. -/
theorem indexById_keyed (items : List α) (key : String) (item : α)
    (h : (indexById id repeated items).value[key]? = some item) : id item = key := by
  rw [indexById_getElem?] at h
  simpa using List.find?_some h

end Indexing

namespace AutomatonConfig

variable (automatons : List Automaton) (singles : List SingleAssociation)
  (multiples : List MultipleAssociation)

theorem mem_all_iff (automaton : Automaton) :
    automaton ∈ (ofLists automatons singles multiples).value.all ↔
      (ofLists automatons singles multiples).value.automaton? automaton.id = some automaton := by
  constructor
  · intro hmem
    obtain ⟨⟨key, _⟩, hentry, rfl⟩ := List.mem_map.mp hmem
    have hkey := ExtTreeMap.mem_toList_iff_getElem?_eq_some.mp hentry
    have hid := indexById_keyed Automaton.id _ automatons key _ hkey
    dsimp only at hid ⊢
    rw [hid]
    exact hkey
  · intro hfound
    exact List.mem_map.mpr ⟨(automaton.id, automaton),
      ExtTreeMap.mem_toList_iff_getElem?_eq_some.mpr hfound, rfl⟩

/-- No two automatons of a configuration have one id. -/
theorem all_injective {a b : Automaton}
    (ha : a ∈ (ofLists automatons singles multiples).value.all)
    (hb : b ∈ (ofLists automatons singles multiples).value.all) (h : a.id = b.id) : a = b := by
  rw [mem_all_iff] at ha hb
  rw [h, hb] at ha
  exact (Option.some.inj ha).symm

end AutomatonConfig

/-! ## Books in step -/

namespace DynamicModels

/-- The books are in step: a connector is in use if a connection has it, and a
model is that of the automaton it is kept under. -/
structure Recorded (allowed : Automaton → Prop) (models : DynamicModels) : Prop where
  used : ∀ connector, connector ∈ models.used ↔
    ∃ id connection, models.Connected id connection ∧ connection.connector = connector
  identified : ∀ (id : String) (model : DynamicModel), models.models[id]? = some model →
    model.id = id ∧
      ∃ automaton, allowed automaton ∧ automaton.id = id ∧ automaton.library = model.library

theorem Recorded.connect {allowed : Automaton → Prop} {models : DynamicModels}
    (h : Recorded allowed models) {automaton : Automaton} (ha : allowed automaton)
    (connection : Connection) : Recorded allowed (models.connect automaton connection) where
  used connector := by
    have hgains := (connect_gains models automaton connection).connected
    have hused : connector ∈ (models.connect automaton connection).used ↔
        connection.connector = connector ∨ connector ∈ models.used := by
      rw [DynamicModels.connect, ExtTreeSet.mem_insert, Std.LawfulEqCmp.compare_eq_iff_eq]
    simp only [hused, h.used, hgains, or_and_right, exists_or]
    grind
  identified id model hmodel := by
    simp only [DynamicModels.connect, ExtTreeMap.getElem?_alter,
      Std.LawfulEqCmp.compare_eq_iff_eq] at hmodel
    split at hmodel
    · rename_i hid
      subst hid
      cases hknown : models.models[automaton.id]? with
      | none =>
        rw [hknown] at hmodel
        cases hmodel
        exact ⟨rfl, automaton, ha, rfl, rfl⟩
      | some known =>
        rw [hknown] at hmodel
        cases hmodel
        exact h.identified automaton.id known hknown
    · exact h.identified id model hmodel

variable {allowed : Automaton → Prop} {one other : DynamicModels}

/-- A model has a connection, so it is also in other books that are in step and
have the same connections. -/
theorem Recorded.found (hone : Recorded allowed one) (hother : Recorded allowed other)
    (unique : ∀ a b, allowed a → allowed b → a.id = b.id → a = b) (inhabited : one.Inhabited)
    (same : ∀ id connection, one.Connected id connection ↔ other.Connected id connection)
    {id : String} {model : DynamicModel} (hmodel : one.models[id]? = some model) :
    other.models[id]? = some model := by
  obtain ⟨connection, hc⟩ := inhabited id model hmodel
  obtain ⟨model', hmodel', -⟩ := (same id connection).mp ⟨model, hmodel, hc⟩
  obtain ⟨rfl, automaton, ha, hid, hlibrary⟩ := hone.identified id model hmodel
  obtain ⟨hid', automaton', ha', haid', hlibrary'⟩ := hother.identified _ model' hmodel'
  obtain rfl := unique automaton automaton' ha ha' (hid.trans haid'.symm)
  have hconnections : model'.connections = model.connections := by
    refine ExtTreeSet.ext_mem fun connection => ?_
    have hiff := same model.id connection
    simp only [Connected, hmodel, hmodel', Option.some.injEq, exists_eq_left'] at hiff
    exact hiff.symm
  have heq : model' = model := by
    rw [DynamicModel.mk.injEq]
    exact ⟨hid', hlibrary'.symm.trans hlibrary, hconnections⟩
  rw [hmodel', heq]

theorem Recorded.models_eq (hone : Recorded allowed one) (hother : Recorded allowed other)
    (unique : ∀ a b, allowed a → allowed b → a.id = b.id → a = b)
    (inhabited : one.Inhabited) (inhabited' : other.Inhabited)
    (same : ∀ id connection, one.Connected id connection ↔ other.Connected id connection) :
    one.models = other.models := by
  refine ExtTreeMap.ext_getElem? fun id => Option.ext fun model => ?_
  exact ⟨hone.found hother unique inhabited same,
    hother.found hone unique inhabited' fun id connection => (same id connection).symm⟩

end DynamicModels

/-! ## The books during the visits -/

namespace DynamicModelSurvey

open DynamicModels

/-- What no connection undoes that a waiting binding can make holds of the result
after a visit. -/
theorem visit_keeps {P : DynamicModels → Prop} (network : Network) (node : Node)
    {survey : DynamicModelSurvey}
    (connect : ∀ models target, ∀ binding ∈ survey.waiting target, ∀ connection,
      connection.connector = binding.connector → P models →
        P (models.connect binding.automaton connection))
    (start : P survey.result) : P (visitor network node survey).state.result := by
  have hmaterialize : ∀ kind element target models, P models →
      P (materialize kind element (survey.waiting target) models) := by
    intro kind element target models h
    exact List.foldlRecOn (survey.waiting target) _ h fun after hafter binding hb =>
      connect after target binding hb _ rfl hafter
  have hall : ∀ (elements : List String) kind (target : String → Target) models, P models →
      P (elements.foldl (fun models element =>
        materialize kind element (survey.waiting (target element)) models) models) := by
    intro elements kind target models h
    exact List.foldlRecOn elements _ h fun after hafter element _ =>
      hmaterialize kind element (target element) after hafter
  have hfirst := hmaterialize .node node.id (.single (.bus node.voltageLevel)) _ start
  have hevery := hmaterialize .node node.id (.multiple (.buses node.voltageLevel)) _ hfirst
  have hshunts := hall (node.shunts.map Shunt.id) .shunt
    (fun _ => .multiple (.shunts node.voltageLevel)) _ hevery
  rw [List.foldl_map] at hshunts
  have hlines := hall node.lines .line (fun id => .single (.line id)) _ hshunts
  exact hall node.transformers .transformer (fun id => .single (.transformer id)) _ hlines

/-- What no connection undoes that a binding can make which waits at the start
holds of the result after all visits. -/
theorem traverse_keeps {P : DynamicModels → Prop} {network : Network} (visits : List Node)
    {survey : DynamicModelSurvey}
    (connect : ∀ models target, ∀ binding ∈ survey.waiting target, ∀ connection,
      connection.connector = binding.connector → P models →
        P (models.connect binding.automaton connection))
    (start : P survey.result) : P (traverse visitor network visits survey).state.result := by
  refine (traverse_invariant (P := fun _ (after : DynamicModelSurvey) =>
    (∀ target, after.waiting target ⊆ survey.waiting target) ∧ P after.result)
    (visitor_succeedsOn network visits) ?_ ⟨fun _ => List.Subset.refl _, start⟩).2
  intro _ _ node _ after hafter
  obtain ⟨hwaiting, hresult⟩ := hafter
  refine ⟨fun target => ?_, visit_keeps network node (fun models target binding hb =>
    connect models target binding (hwaiting target hb)) hresult⟩
  rw [visit_waiting]
  split
  · exact List.nil_subset _
  · exact hwaiting target

/-- The dynamic models once these nodes were visited. -/
def modelsOf (network : Network) (config : AutomatonConfig) (locator : Locator)
    (visits : List Node) : DynamicModels :=
  (traverse visitor network visits (prepare config locator).value).state.result

variable {network : Network} {visits : List Node} (config : AutomatonConfig)
  (locator : Locator)

theorem modelsOf_connected (coherent : network.Coherent) (hsub : visits ⊆ network.nodes)
    (id : String) (connection : Connection) :
    (modelsOf network config locator visits).Connected id connection ↔
      config.Connects locator network visits id connection :=
  (traverse_tracks coherent config locator hsub).connected_iff id connection

/-- No visit declares a connector. -/
theorem modelsOf_declared (network : Network) (visits : List Node) :
    (modelsOf network config locator visits).declared =
      (prepare config locator).value.result.declared :=
  traverse_keeps (P := fun models => models.declared =
    (prepare config locator).value.result.declared) visits (fun _ _ _ _ _ _ h => h) rfl

theorem modelsOf_recorded (network : Network) (visits : List Node) :
    Recorded (fun automaton => automaton ∈ config.all ∧ locator.finds automaton.library)
      (modelsOf network config locator visits) := by
  refine traverse_keeps visits (fun models target binding hb connection _ h => h.connect ?_ _) ?_
  · obtain ⟨automaton, ha, hlibrary, -, -, -, rfl⟩ :=
      (mem_waiting_prepare config locator target binding).mp hb
    exact ⟨ha, hlibrary⟩
  · have hempty : ∀ id : String, (prepare config locator).value.result.models[id]? = none := by
      intro id
      rw [prepare_models]
      rfl
    exact {
      used := by simp [prepare_used, Connected, hempty]
      identified := by simp [hempty] }

end DynamicModelSurvey
end GridSetup
