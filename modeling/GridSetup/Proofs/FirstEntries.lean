import GridSetup.Proofs.Bookkeeping
import Mathlib.Data.Finset.Dedup
import Mathlib.Data.Finset.Lattice.Lemmas

/-! # Which entries of a configuration count

Of the entries of one list that share an id the first is kept, and each of the others is
reported. The two lists of associations are looked up by one id, though, so a multiple
association is out of reach also where a single one has its id, and that is not reported. -/

namespace GridSetup

open Std (ExtTreeMap)

/-! ## Items by id -/

section Indexing

variable {α : Type} (id : α → String)

/-- The items whose id is neither that of an earlier item nor seen before. -/
def firsts (seen : Finset String) : List α → List α
  | [] => []
  | item :: items =>
    if id item ∈ seen then firsts seen items else item :: firsts (insert (id item) seen) items

/-- The items whose id is that of an earlier item or seen before. -/
def repeats (seen : Finset String) : List α → List α
  | [] => []
  | item :: items =>
    if id item ∈ seen then item :: repeats seen items else repeats (insert (id item) seen) items

theorem firsts_append_repeats_perm (seen : Finset String) (items : List α) :
    (firsts id seen items ++ repeats id seen items).Perm items := by
  induction items generalizing seen with
  | nil => exact .refl _
  | cons item items ih =>
    rw [firsts, repeats]
    split
    · exact List.perm_middle.trans ((ih seen).cons item)
    · exact (ih (insert (id item) seen)).cons item

theorem repeats_append (seen : Finset String) (items more : List α) :
    repeats id seen (items ++ more) =
      repeats id seen items ++ repeats id (seen ∪ (items.map id).toFinset) more := by
  induction items generalizing seen with
  | nil => simp [repeats]
  | cons item items ih =>
    rw [List.cons_append, repeats, repeats]
    split
    · rename_i hseen
      simp [ih, Finset.insert_eq_of_mem (Finset.mem_union_left _ hseen)]
    · simp [ih]

theorem repeats_map {β : Type} (make : β → α) (seen : Finset String) (items : List β) :
    repeats id seen (items.map make) =
      (repeats (fun item => id (make item)) seen items).map make := by
  induction items generalizing seen with
  | nil => rfl
  | cons item items ih =>
    rw [List.map_cons, repeats, repeats]
    split <;> simp [ih]

/-- If more ids were seen, the first items that have one of these are repeats as well. -/
theorem repeats_union_perm (seen extra : Finset String) (items : List α) :
    (repeats id (seen ∪ extra) items).Perm
      (repeats id seen items ++ (firsts id seen items).filter fun item => id item ∈ extra) := by
  induction items generalizing seen with
  | nil => exact .refl _
  | cons item items ih =>
    rw [repeats, repeats, firsts]
    by_cases hseen : id item ∈ seen
    · rw [if_pos (Finset.mem_union_left _ hseen), if_pos hseen, if_pos hseen]
      exact (ih seen).cons item
    · rw [if_neg hseen, if_neg hseen]
      have hmore := ih (insert (id item) seen)
      rw [Finset.insert_union] at hmore
      by_cases hextra : id item ∈ extra
      · have hunion := Finset.mem_union_right seen hextra
        rw [if_pos hunion, List.filter_cons_of_pos (by simpa using hextra)]
        rw [Finset.insert_eq_of_mem hunion] at hmore
        exact (hmore.cons item).trans List.perm_middle.symm
      · rw [if_neg (by simp [hseen, hextra]), List.filter_cons_of_neg (by simpa using hextra)]
        exact hmore

theorem mem_firsts {seen : Finset String} {items : List α} {item : α} :
    item ∈ firsts id seen items ↔
      id item ∉ seen ∧ items.find? (fun other => id other == id item) = some item := by
  induction items generalizing seen with
  | nil => simp [firsts]
  | cons head items ih =>
    rw [firsts, List.find?_cons]
    by_cases hhead : id head = id item
    · rw [hhead, beq_self_eq_true]
      by_cases hseen : id item ∈ seen
      · simp [ih, hseen]
      · simp [ih, hseen, eq_comm]
    · have hother : item ≠ head := fun heq => hhead (heq ▸ rfl)
      rw [beq_false_of_ne hhead]
      by_cases hseen : id head ∈ seen
      · simp [ih, hseen]
      · simp [ih, hseen, hother, Ne.symm hhead]

theorem exists_mem_firsts {items : List α} {item : α} (h : item ∈ items) :
    ∃ first ∈ firsts id ∅ items, id first = id item := by
  obtain ⟨first, hfirst, hid⟩ := exists_find?_key id h
  exact ⟨first, (mem_firsts id).mpr ⟨Finset.notMem_empty _, hid ▸ hfirst⟩, hid⟩

theorem firsts_ids_nodup (seen : Finset String) (items : List α) :
    ((firsts id seen items).map id).Nodup := by
  induction items generalizing seen with
  | nil => exact .nil
  | cons item items ih =>
    rw [firsts]
    split
    · exact ih seen
    · refine List.nodup_cons.mpr ⟨fun hmem => ?_, ih _⟩
      obtain ⟨other, hother, hid⟩ := List.mem_map.mp hmem
      exact ((mem_firsts id).mp hother).1 (hid ▸ Finset.mem_insert_self ..)

variable (repeated : String → Event)

theorem foldl_indexItem_events (items : List α) (seen : Finset String)
    (index : Logged (ExtTreeMap String α)) (h : ∀ key, key ∈ index.value ↔ key ∈ seen) :
    (items.foldl (indexItem id repeated) index).events =
      index.events ++ (repeats id seen items).map fun item => repeated (id item) := by
  induction items generalizing seen index with
  | nil => simp [repeats]
  | cons item items ih =>
    rw [List.foldl_cons, repeats, indexItem]
    split
    · rename_i hheld
      have hseen : id item ∈ seen := (h _).mp (ExtTreeMap.contains_iff_mem.mp hheld)
      rw [if_pos hseen]
      refine (ih seen { index with events := index.events ++ [repeated (id item)] } h).trans ?_
      exact List.append_assoc ..
    · rename_i hfree
      have hseen : id item ∉ seen := fun hs =>
        hfree (ExtTreeMap.contains_iff_mem.mpr ((h _).mpr hs))
      rw [if_neg hseen]
      refine ih (insert (id item) seen)
        { index with value := index.value.insert (id item) item } fun key => ?_
      rw [ExtTreeMap.mem_insert, Std.LawfulEqCmp.compare_eq_iff_eq, Finset.mem_insert, h, eq_comm]

/-- Each item that repeats an id is reported. -/
theorem indexById_events (items : List α) :
    (indexById id repeated items).events =
      (repeats id ∅ items).map fun item => repeated (id item) := by
  refine foldl_indexItem_events id repeated items ∅ { value := ∅ } fun key => ?_
  simp

end Indexing

namespace AutomatonConfig

/-- An association of either sort. -/
@[ext]
structure Association where
  id : String
  target : Target
  deriving DecidableEq

/-- The single associations and behind them the multiple ones. -/
def associations (singles : List SingleAssociation) (multiples : List MultipleAssociation) :
    List Association :=
  singles.map (fun single => { id := single.id, target := .single single.target }) ++
    multiples.map fun multiple => { id := multiple.id, target := .multiple multiple.target }

/-- One entry of a configuration. -/
inductive Entry where
  | automaton (automaton : Automaton)
  | association (association : Association)
  deriving DecidableEq

def entries (automatons : List Automaton) (singles : List SingleAssociation)
    (multiples : List MultipleAssociation) : List Entry :=
  automatons.map .automaton ++ (associations singles multiples).map .association

/-- Some look-up returns the entry. -/
def Finds (config : AutomatonConfig) : Entry → Prop
  | .automaton automaton => ∃ id, config.automaton? id = some automaton
  | .association association => config.target? association.id = some association.target

/-- The given entries are divided into those that some look-up returns, and the others.
Of equal entries only one is returned. -/
structure Divides (config : AutomatonConfig) (given returned lost : List Entry) : Prop where
  complete : (returned ++ lost).Perm given
  once : returned.Nodup
  found : ∀ entry, entry ∈ returned ↔ config.Finds entry

/-- The multiple associations that would be found if no single one had their id. -/
def shadowed (singles : List SingleAssociation) (multiples : List MultipleAssociation) :
    List MultipleAssociation :=
  (firsts MultipleAssociation.id ∅ multiples).filter fun multiple =>
    multiple.id ∈ singles.map SingleAssociation.id

/-- The first entry of each id counts, a single association before a multiple one. An entry
that comes to nothing is reported, unless it is a shadowed association. -/
structure FirstCounts (automatons : List Automaton) (singles : List SingleAssociation)
    (multiples : List MultipleAssociation) (config : Logged AutomatonConfig) : Prop where
  automaton : ∀ id, config.value.automaton? id =
    automatons.find? fun automaton => automaton.id == id
  listed : ∀ automaton, automaton ∈ config.value.all ↔
    config.value.automaton? automaton.id = some automaton
  ordered : config.value.all.Pairwise fun automaton other => automaton.id < other.id
  target : ∀ id, config.value.target? id =
    ((singles.find? fun single => single.id == id).map fun single => .single single.target).or
      ((multiples.find? fun multiple => multiple.id == id).map fun multiple =>
        .multiple multiple.target)
  resolves : ∀ id, (config.value.target? id).isSome ↔
    (∃ single ∈ singles, single.id = id) ∨ ∃ multiple ∈ multiples, multiple.id = id
  reported : config.events =
    ((repeats Automaton.id ∅ automatons).map fun automaton => .repeatedAutomaton automaton.id) ++
    ((repeats SingleAssociation.id ∅ singles).map fun single => .repeatedAssociation single.id) ++
    (repeats MultipleAssociation.id ∅ multiples).map fun multiple =>
      .repeatedAssociation multiple.id
  warnings : ∀ event ∈ config.events, event.severity = .warn
  divided : ∃ returned lost,
    config.value.Divides (entries automatons singles multiples) returned lost
  losses : ∀ returned lost,
    config.value.Divides (entries automatons singles multiples) returned lost →
      lost.length = config.events.length + (shadowed singles multiples).length
  /-- Nothing is lost silently exactly if no id is that of both sorts of associations. -/
  losses_reported : ∀ returned lost,
    config.value.Divides (entries automatons singles multiples) returned lost →
      (config.events.length = lost.length ↔
        ∀ single ∈ singles, ∀ multiple ∈ multiples, single.id ≠ multiple.id)

/-! ## What is returned and what is lost -/

section Division

variable {config : AutomatonConfig} {given returned lost returned' lost' : List Entry}

/-- All divisions of the given entries lose as many. -/
theorem Divides.lost_length (h : config.Divides given returned lost)
    (h' : config.Divides given returned' lost') : lost.length = lost'.length := by
  have hreturned : returned.Perm returned' :=
    (List.perm_ext_iff_of_nodup h.once h'.once).mpr fun entry =>
      (h.found entry).trans (h'.found entry).symm
  have hlength := (h.complete.trans h'.complete.symm).length_eq
  rw [List.length_append, List.length_append, hreturned.length_eq] at hlength
  exact Nat.add_left_cancel hlength

variable (automatons : List Automaton) (singles : List SingleAssociation)
  (multiples : List MultipleAssociation)

theorem ofLists_automaton? (id : String) :
    (ofLists automatons singles multiples).value.automaton? id =
      automatons.find? fun automaton => automaton.id == id :=
  indexById_getElem? ..

theorem associations_find? (id : String) :
    (associations singles multiples).find? (fun association => association.id == id) =
      ((singles.find? fun single => single.id == id).map fun single =>
        { id := single.id, target := .single single.target }).or
      ((multiples.find? fun multiple => multiple.id == id).map fun multiple =>
        { id := multiple.id, target := .multiple multiple.target }) := by
  rw [associations, List.find?_append, List.find?_map, List.find?_map]
  rfl

/-- A look-up returns what the first association of the id is bound to. -/
theorem ofLists_target? (id : String) :
    (ofLists automatons singles multiples).value.target? id =
      ((associations singles multiples).find? fun association => association.id == id).map
        Association.target := by
  have hsingle : (ofLists automatons singles multiples).value.singles[id]? =
    singles.find? fun single => single.id == id := indexById_getElem? ..
  have hmultiple : (ofLists automatons singles multiples).value.multiples[id]? =
    multiples.find? fun multiple => multiple.id == id := indexById_getElem? ..
  rw [target?, hsingle, hmultiple, associations_find?]
  cases singles.find? fun single => single.id == id with
  | some single => rfl
  | none => cases multiples.find? fun multiple => multiple.id == id <;> rfl

theorem all_ordered :
    (ofLists automatons singles multiples).value.all.Pairwise fun automaton other =>
      automaton.id < other.id := by
  let config := (ofLists automatons singles multiples).value
  have hkeyed : ∀ entry ∈ config.automatons.toList, entry.2.id = entry.1 := fun entry hentry =>
    indexById_keyed Automaton.id _ automatons _ _
      (ExtTreeMap.mem_toList_iff_getElem?_eq_some.mp hentry)
  refine List.pairwise_map.mpr ((toList_ordered config.automatons).imp_of_mem fun ha hb hlt => ?_)
  rwa [hkeyed _ ha, hkeyed _ hb]

/-- The entries that count. -/
def firstEntries : List Entry :=
  (firsts Automaton.id ∅ automatons).map .automaton ++
    (firsts Association.id ∅ (associations singles multiples)).map .association

/-- The entries that come to nothing. -/
def otherEntries : List Entry :=
  (repeats Automaton.id ∅ automatons).map .automaton ++
    (repeats Association.id ∅ (associations singles multiples)).map .association

theorem entries_perm :
    (firstEntries automatons singles multiples ++ otherEntries automatons singles multiples).Perm
      (entries automatons singles multiples) := by
  have hautomatons := (firsts_append_repeats_perm Automaton.id ∅ automatons).map Entry.automaton
  have hassociations := (firsts_append_repeats_perm Association.id ∅
    (associations singles multiples)).map Entry.association
  refine List.Perm.trans (List.perm_iff_count.mpr fun entry => ?_)
    (hautomatons.append hassociations)
  simp only [firstEntries, otherEntries, List.map_append, List.count_append]
  omega

theorem firstEntries_nodup : (firstEntries automatons singles multiples).Nodup := by
  have hautomatons := (firsts_ids_nodup Automaton.id ∅ automatons).of_map
  have hassociations :=
    (firsts_ids_nodup Association.id ∅ (associations singles multiples)).of_map
  refine List.nodup_append'.mpr ⟨hautomatons.map fun _ _ => Entry.automaton.inj,
    hassociations.map fun _ _ => Entry.association.inj, fun entry hautomaton hassociation => ?_⟩
  obtain ⟨automaton, -, rfl⟩ := List.mem_map.mp hautomaton
  obtain ⟨association, -, heq⟩ := List.mem_map.mp hassociation
  cases heq

theorem mem_firstEntries_iff (entry : Entry) :
    entry ∈ firstEntries automatons singles multiples ↔
      (ofLists automatons singles multiples).value.Finds entry := by
  cases entry with
  | automaton automaton =>
    have hfirst : .automaton automaton ∈ firstEntries automatons singles multiples ↔
        automatons.find? (fun other => other.id == automaton.id) = some automaton := by
      simp [firstEntries, mem_firsts]
    simp only [hfirst, Finds, ofLists_automaton?]
    refine ⟨fun hfound => ⟨_, hfound⟩, fun ⟨id, hfound⟩ => ?_⟩
    have hid : automaton.id = id := by simpa using List.find?_some hfound
    rwa [hid]
  | association association =>
    have hfirst : .association association ∈ firstEntries automatons singles multiples ↔
        (associations singles multiples).find? (fun other => other.id == association.id) =
          some association := by
      simp [firstEntries, mem_firsts]
    rw [hfirst, Finds, ofLists_target?, Option.map_eq_some_iff]
    refine ⟨fun hfound => ⟨_, hfound, rfl⟩, fun ⟨found, hfound, htarget⟩ => ?_⟩
    have hid : found.id = association.id := by simpa using List.find?_some hfound
    have hsame : found = association := Association.ext hid htarget
    exact hsame ▸ hfound

theorem divides_firstEntries :
    (ofLists automatons singles multiples).value.Divides
      (entries automatons singles multiples) (firstEntries automatons singles multiples)
      (otherEntries automatons singles multiples) where
  complete := entries_perm ..
  once := firstEntries_nodup ..
  found := mem_firstEntries_iff automatons singles multiples

/-- Beyond what is reported only the shadowed associations come to nothing. -/
theorem otherEntries_length :
    (otherEntries automatons singles multiples).length =
      (ofLists automatons singles multiples).events.length +
        (shadowed singles multiples).length := by
  have hshadowed : (shadowed singles multiples).length +
      (repeats MultipleAssociation.id ∅ multiples).length =
        (repeats MultipleAssociation.id (singles.map SingleAssociation.id).toFinset
          multiples).length := by
    have hperm := repeats_union_perm MultipleAssociation.id ∅
      (singles.map SingleAssociation.id).toFinset multiples
    rw [Finset.empty_union] at hperm
    simp only [hperm.length_eq, List.length_append, shadowed, List.mem_toFinset]
    exact Nat.add_comm ..
  have hassociations : (repeats Association.id ∅ (associations singles multiples)).length =
      (repeats SingleAssociation.id ∅ singles).length +
        (repeats MultipleAssociation.id (singles.map SingleAssociation.id).toFinset
          multiples).length := by
    rw [associations, repeats_append, repeats_map, repeats_map, Finset.empty_union, List.map_map,
      List.length_append, List.length_map, List.length_map]
    rfl
  simp only [otherEntries, ofLists, indexById_events, List.length_append, List.length_map,
    hassociations, ← hshadowed]
  omega

/-- Nothing is shadowed if no id is that of a single and of a multiple association. -/
theorem shadowed_eq_nil_iff :
    shadowed singles multiples = [] ↔
      ∀ single ∈ singles, ∀ multiple ∈ multiples, single.id ≠ multiple.id := by
  rw [shadowed, List.filter_eq_nil_iff]
  simp only [decide_eq_true_eq]
  constructor
  · intro hnone single hs multiple hm hid
    obtain ⟨first, hfirst, hsame⟩ := exists_mem_firsts MultipleAssociation.id hm
    refine hnone first hfirst ?_
    rw [hsame, ← hid]
    exact List.mem_map_of_mem hs
  · intro hdistinct multiple hm hid
    obtain ⟨single, hs, hsame⟩ := List.mem_map.mp hid
    exact hdistinct single hs multiple (List.mem_of_find?_eq_some ((mem_firsts _).mp hm).2) hsame

/-- The first automaton, single and multiple association of each id count, whatever entries
are given. Those that come to nothing are as many as are reported, and the multiple
associations whose id a single one has on top of them. -/
theorem firstEntries_exact :
    FirstCounts automatons singles multiples (ofLists automatons singles multiples) where
  automaton := ofLists_automaton? automatons singles multiples
  listed := mem_all_iff automatons singles multiples
  ordered := all_ordered automatons singles multiples
  target id := by
    rw [ofLists_target?, associations_find?, Option.map_or, Option.map_map, Option.map_map]
    rfl
  resolves id := by
    simp [ofLists_target?, associations]
  reported := by
    simp only [ofLists, indexById_events]
  warnings event hevent := by
    simp only [ofLists, indexById_events, List.mem_append, List.mem_map] at hevent
    rcases hevent with (⟨_, -, rfl⟩ | ⟨_, -, rfl⟩) | ⟨_, -, rfl⟩ <;> rfl
  divided := ⟨_, _, divides_firstEntries automatons singles multiples⟩
  losses returned lost hdivides := by
    rw [hdivides.lost_length (divides_firstEntries ..), otherEntries_length]
  losses_reported returned lost hdivides := by
    rw [hdivides.lost_length (divides_firstEntries ..), otherEntries_length,
      ← shadowed_eq_nil_iff, ← List.length_eq_zero_iff]
    omega

end Division

/-! ## One id for two sorts of associations -/

namespace SharedId

def singles : List SingleAssociation :=
  [{ id := "BOTH", target := .bus "V" }]

def multiples : List MultipleAssociation :=
  [{ id := "BOTH", target := .shunts "V" }]

def config : Logged AutomatonConfig :=
  ofLists [] singles multiples

end SharedId

/-- The single association is found, the multiple one is lost, and nothing is reported. -/
theorem shadowed_unreported :
    SharedId.config.value.Divides (entries [] SharedId.singles SharedId.multiples)
      [.association { id := "BOTH", target := .single (.bus "V") }]
      [.association { id := "BOTH", target := .multiple (.shunts "V") }] ∧
    SharedId.config.events = [] ∧
    ∀ returned lost,
      SharedId.config.value.Divides (entries [] SharedId.singles SharedId.multiples)
        returned lost →
      SharedId.config.events.length ≠ lost.length := by
  have hdivides := divides_firstEntries [] SharedId.singles SharedId.multiples
  have hevents : SharedId.config.events = [] := by decide +kernel
  refine ⟨hdivides, hevents, fun returned lost h => ?_⟩
  have hlength : lost.length = 1 := h.lost_length hdivides
  rw [hevents, hlength]
  decide

end AutomatonConfig
end GridSetup
