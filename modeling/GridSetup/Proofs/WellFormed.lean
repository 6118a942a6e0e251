import GridSetup.Proofs.Inspection
import Mathlib.Data.List.Nodup

/-! # Well-formed descriptions of a network

What it means for nodes, branches and HVDC lines to make up a network, said
without any order of checks, and that the inspection finds no fault exactly
in such parts. The inspection carries along the parts it has seen, so the
invariant of each of its loops is that these are well-formed themselves. -/

namespace GridSetup

/-- The ids of the equipment of one kind on a node. -/
def Node.equipmentIds (kind : EquipmentKind) (node : Node) : List String :=
  match kind with
  | .shunt => node.shunts.map Shunt.id
  | .generator => node.generators.map Generator.id
  | .load => node.loads.map Load.id

/-- No two nodes have one id, nor have two pieces of equipment of a kind on
whichever nodes. -/
structure DistinctNodes (nodes : List Node) : Prop where
  ids : (nodes.map Node.id).Nodup
  equipment : ∀ kind, (nodes.flatMap (Node.equipmentIds kind)).Nodup

/-- The ends of a branch are different nodes. -/
structure ProperEnds (nodes : List Node) (ends : List String) : Prop where
  distinct : ends.Nodup
  present : ∀ id ∈ ends, id ∈ nodes.map Node.id

/-- No two branches of a kind have one id, and each has proper ends. -/
structure ProperBranches (nodes : List Node) (branches : List Branch) : Prop where
  ids : ∀ kind, ((branches.filter fun branch => branch.kind = kind).map Branch.id).Nodup
  ends : ∀ branch ∈ branches, ProperEnds nodes branch.ends

/-- No two converters have one id, and each stands on a node. -/
structure ProperConverters (nodes : List Node) (converters : List Converter) : Prop where
  distinct : (converters.map Converter.id).Nodup
  present : ∀ converter ∈ converters, converter.bus ∈ nodes.map Node.id

/-- No two HVDC lines have one id, and the converters of all lines and both
sides together are proper. -/
structure ProperHvdcLines (nodes : List Node) (lines : List HvdcLine) : Prop where
  ids : (lines.map HvdcLine.id).Nodup
  converters : ProperConverters nodes (lines.flatMap HvdcLine.converters)

/-- The parts make up a network. -/
structure WellFormed (nodes : List Node) (branches : List Branch)
    (hvdcLines : List HvdcLine) : Prop where
  distinct_nodes : DistinctNodes nodes
  proper_branches : ProperBranches nodes branches
  proper_hvdcLines : ProperHvdcLines nodes hvdcLines
  regulated_present : ∀ node ∈ nodes, ∀ generator ∈ node.generators,
    generator.regulatedBus ∈ nodes.map Node.id

/-! ## Going through a list -/

section FirstFault

variable {α ε : Type} {check : List α → α → Option ε} {Good : List α → Prop}

/-- A check that accepts an element exactly if the elements up to it are good
finds no fault in a list exactly if the whole list is good. -/
theorem firstFault_eq_none_iff
    (step : ∀ earlier x, Good earlier → (check earlier x = none ↔ Good (earlier ++ [x])))
    (initial : ∀ l l', Good (l ++ l') → Good l) (l : List α) :
    ∀ earlier, Good earlier → (firstFault check earlier l = none ↔ Good (earlier ++ l)) := by
  induction l with
  | nil => intro earlier good; simp [firstFault, good]
  | cons x rest ih =>
    intro earlier good
    rw [firstFault, Option.or_eq_none_iff, step earlier x good]
    refine ⟨fun hgiven => ?_, fun h => ?_⟩
    · obtain ⟨hx, hrest⟩ := hgiven
      simpa using (ih _ hx).mp hrest
    · have h' : Good (earlier ++ [x] ++ rest) := by simpa using h
      have hx := initial _ _ h'
      exact ⟨hx, (ih _ hx).mpr h'⟩

/-- The fault found is that of the first element at fault: the elements before
it are good. -/
theorem firstFault_eq_some_iff
    (step : ∀ earlier x, Good earlier → (check earlier x = none ↔ Good (earlier ++ [x])))
    (initial : ∀ l l', Good (l ++ l') → Good l) {fault : ε} (l : List α) :
    ∀ earlier, Good earlier → (firstFault check earlier l = some fault ↔
      ∃ before x after, l = before ++ x :: after ∧ Good (earlier ++ before) ∧
        check (earlier ++ before) x = some fault) := by
  induction l with
  | nil => intro earlier _; simp [firstFault]
  | cons y rest ih =>
    intro earlier good
    rw [firstFault, Option.or_eq_some_iff]
    refine ⟨fun h => ?_, fun h => ?_⟩
    · rcases h with hy | ⟨hy, hrest⟩
      · exact ⟨[], y, rest, rfl, by simpa using good, by simpa using hy⟩
      · obtain ⟨before, x, after, rfl, hgood, hx⟩ :=
          (ih _ ((step earlier y good).mp hy)).mp hrest
        exact ⟨y :: before, x, after, rfl, by simpa using hgood, by simpa using hx⟩
    · obtain ⟨before, x, after, hl, hgood, hx⟩ := h
      cases before with
      | nil =>
        obtain ⟨rfl, rfl⟩ : y = x ∧ rest = after := by simpa using hl
        exact Or.inl (by simpa using hx)
      | cons z before =>
        obtain ⟨rfl, rfl⟩ : y = z ∧ rest = before ++ x :: after := by simpa using hl
        have hgood' : Good (earlier ++ [y] ++ before) := by simpa using hgood
        have hy := initial _ _ hgood'
        refine Or.inr ⟨(step earlier y good).mpr hy, (ih _ hy).mpr ?_⟩
        exact ⟨before, x, after, rfl, hgood', by simpa using hx⟩

end FirstFault

/-! ## Ids of several kinds -/

/-- Pairs of a kind and an id are distinct exactly if for each kind the ids
are. -/
theorem nodup_map_pair_iff {α κ ι : Type} [DecidableEq κ] (kind : α → κ) (id : α → ι)
    (l : List α) :
    (l.map fun x => (kind x, id x)).Nodup ↔
      ∀ k, ((l.filter fun x => kind x = k).map id).Nodup := by
  induction l with
  | nil => simp
  | cons x rest ih =>
    have hx : (kind x, id x) ∉ rest.map (fun y => (kind y, id y)) ↔
        id x ∉ (rest.filter fun y => kind y = kind x).map id := by
      simp only [List.mem_map, List.mem_filter, decide_eq_true_eq, Prod.mk.injEq, and_assoc]
    rw [List.map_cons, List.nodup_cons, hx, ih]
    refine ⟨fun hgiven k => ?_, fun h => ?_⟩
    · obtain ⟨hnew, hrest⟩ := hgiven
      by_cases hk : kind x = k
      · subst hk
        simpa [List.filter_cons] using ⟨by simpa using hnew, hrest (kind x)⟩
      · simpa [List.filter_cons, hk] using hrest k
    · have hown := h (kind x)
      rw [List.filter_cons_of_pos (by simp), List.map_cons, List.nodup_cons] at hown
      refine ⟨hown.1, fun k => ?_⟩
      by_cases hk : kind x = k
      · exact hk ▸ hown.2
      · simpa [List.filter_cons, hk] using h k

theorem map_filter_equipment (kind : EquipmentKind) (node : Node) :
    (node.equipment.filter fun item => item.1 = kind).map Prod.snd =
      node.equipmentIds kind := by
  cases kind <;>
    simp [Node.equipment, Node.equipmentIds, List.filter_map, Function.comp_def]

/-- The equipment of nodes is told apart by kind and id exactly if the ids of
each kind are distinct. -/
theorem nodup_equipment_iff (nodes : List Node) :
    (nodes.flatMap Node.equipment).Nodup ↔
      ∀ kind, (nodes.flatMap (Node.equipmentIds kind)).Nodup := by
  have h := nodup_map_pair_iff Prod.fst Prod.snd (nodes.flatMap Node.equipment)
  simpa [List.filter_flatMap, List.map_flatMap, map_filter_equipment] using h

/-! ## Each check extends what is good by one -/

theorem nodup_append_singleton {α : Type} {l : List α} {x : α} (h : l.Nodup) :
    (l ++ [x]).Nodup ↔ x ∉ l := by
  have hperm : (l ++ [x]).Perm (x :: l) := List.perm_append_singleton x l
  rw [hperm.nodup_iff, List.nodup_cons]
  exact and_iff_left h

theorem hasNode_iff (nodes : List Node) (id : String) :
    hasNode nodes id = true ↔ id ∈ nodes.map Node.id := by
  simp [hasNode]

theorem DistinctNodes.initial {nodes rest : List Node} (h : DistinctNodes (nodes ++ rest)) :
    DistinctNodes nodes where
  ids := by
    have := h.ids
    rw [List.map_append] at this
    exact this.of_append_left
  equipment kind := by
    have := h.equipment kind
    rw [List.flatMap_append] at this
    exact this.of_append_left

theorem ProperEnds.initial {nodes : List Node} {ends rest : List String}
    (h : ProperEnds nodes (ends ++ rest)) : ProperEnds nodes ends where
  distinct := h.distinct.of_append_left
  present id hid := h.present id (List.mem_append_left rest hid)

theorem ProperBranches.initial {nodes : List Node} {branches rest : List Branch}
    (h : ProperBranches nodes (branches ++ rest)) : ProperBranches nodes branches where
  ids kind := by
    have := h.ids kind
    rw [List.filter_append, List.map_append] at this
    exact this.of_append_left
  ends branch hb := h.ends branch (List.mem_append_left rest hb)

theorem ProperConverters.initial {nodes : List Node} {converters rest : List Converter}
    (h : ProperConverters nodes (converters ++ rest)) : ProperConverters nodes converters where
  distinct := by
    have := h.distinct
    rw [List.map_append] at this
    exact this.of_append_left
  present converter hc := h.present converter (List.mem_append_left rest hc)

theorem ProperHvdcLines.initial {nodes : List Node} {lines rest : List HvdcLine}
    (h : ProperHvdcLines nodes (lines ++ rest)) : ProperHvdcLines nodes lines where
  ids := by
    have := h.ids
    rw [List.map_append] at this
    exact this.of_append_left
  converters := by
    have := h.converters
    rw [List.flatMap_append] at this
    exact this.initial

namespace Inspection

theorem equipmentFault?_eq_none_iff (earlier : List (EquipmentKind × String))
    (item : EquipmentKind × String) (h : earlier.Nodup) :
    equipmentFault? earlier item = none ↔ (earlier ++ [item]).Nodup := by
  rw [nodup_append_singleton h]
  simp [equipmentFault?]

theorem nodeFault?_eq_none_iff (earlier : List Node) (node : Node) (h : DistinctNodes earlier) :
    nodeFault? earlier node = none ↔ DistinctNodes (earlier ++ [node]) := by
  have hseen : (earlier.flatMap Node.equipment).Nodup :=
    (nodup_equipment_iff earlier).mpr h.equipment
  have hall := nodup_equipment_iff (earlier ++ [node])
  rw [List.flatMap_append, List.flatMap_singleton] at hall
  have hequipment := firstFault_eq_none_iff equipmentFault?_eq_none_iff
    (fun _ _ => List.Nodup.of_append_left) node.equipment _ hseen
  have hid := nodup_append_singleton (x := node.id) h.ids
  rw [nodeFault?]
  split
  · rename_i hrepeated
    rw [hasNode_iff] at hrepeated
    refine ⟨by simp, fun good => ?_⟩
    have := good.ids
    rw [List.map_append, List.map_singleton, hid] at this
    exact absurd hrepeated this
  · rename_i hnew
    rw [hasNode_iff] at hnew
    rw [hequipment, hall]
    constructor
    · intro hkinds
      refine ⟨?_, hkinds⟩
      rw [List.map_append, List.map_singleton]
      exact hid.mpr hnew
    · exact DistinctNodes.equipment

theorem endFault?_eq_none_iff (nodes : List Node) (branch : Branch) (earlier : List String)
    (id : String) (h : ProperEnds nodes earlier) :
    endFault? nodes branch earlier id = none ↔ ProperEnds nodes (earlier ++ [id]) := by
  have hid := nodup_append_singleton (x := id) h.distinct
  rw [endFault?]
  split
  · rename_i hrepeated
    exact iff_of_false (by simp) fun good => hid.mp good.distinct hrepeated
  · rename_i hnew
    split
    · rename_i hpresent
      rw [hasNode_iff] at hpresent
      refine iff_of_true rfl ⟨hid.mpr hnew, fun e he => ?_⟩
      rcases List.mem_append.mp he with he | he
      · exact h.present e he
      · exact List.mem_singleton.mp he ▸ hpresent
    · rename_i hmissing
      rw [hasNode_iff] at hmissing
      exact iff_of_false (by simp) fun good => hmissing (good.present id (by simp))

theorem repeatedBranch_iff (earlier : List Branch) (branch : Branch) :
    (earlier.any fun other => other.kind == branch.kind && other.id == branch.id) = true ↔
      (branch.kind, branch.id) ∈ earlier.map fun other => (other.kind, other.id) := by
  simp

theorem branchFault?_eq_none_iff (nodes : List Node) (earlier : List Branch) (branch : Branch)
    (h : ProperBranches nodes earlier) :
    branchFault? nodes earlier branch = none ↔ ProperBranches nodes (earlier ++ [branch]) := by
  have hseen := (nodup_map_pair_iff Branch.kind Branch.id earlier).mpr h.ids
  have hall := nodup_map_pair_iff Branch.kind Branch.id (earlier ++ [branch])
  rw [List.map_append, List.map_singleton, nodup_append_singleton hseen] at hall
  have hends := firstFault_eq_none_iff (endFault?_eq_none_iff nodes branch)
    (fun _ _ => ProperEnds.initial) branch.ends [] ⟨by simp, by simp⟩
  rw [branchFault?]
  split
  · rename_i hrepeated
    rw [repeatedBranch_iff] at hrepeated
    exact iff_of_false (by simp) fun good => hall.mpr good.ids hrepeated
  · rename_i hnew
    rw [repeatedBranch_iff] at hnew
    rw [hends, List.nil_append]
    constructor
    · intro hown
      refine ⟨hall.mp hnew, fun other ho => ?_⟩
      rcases List.mem_append.mp ho with ho | ho
      · exact h.ends other ho
      · exact List.mem_singleton.mp ho ▸ hown
    · exact fun good => good.ends branch (by simp)

theorem converterFault?_eq_none_iff (nodes : List Node) (lineId : String)
    (earlier : List Converter) (converter : Converter) (h : ProperConverters nodes earlier) :
    converterFault? nodes lineId earlier converter = none ↔
      ProperConverters nodes (earlier ++ [converter]) := by
  have hseen : (earlier.any fun other => other.id == converter.id) = true ↔
      converter.id ∈ earlier.map Converter.id := by simp
  have hid : ((earlier ++ [converter]).map Converter.id).Nodup ↔
      converter.id ∉ earlier.map Converter.id := by
    rw [List.map_append, List.map_singleton, nodup_append_singleton h.distinct]
  rw [converterFault?]
  split
  · rename_i hrepeated
    exact iff_of_false (by simp) fun good => hid.mp good.distinct (hseen.mp hrepeated)
  · rename_i hnew
    split
    · rename_i hpresent
      rw [hasNode_iff] at hpresent
      refine iff_of_true rfl ⟨hid.mpr fun hm => hnew (hseen.mpr hm), fun c hc => ?_⟩
      rcases List.mem_append.mp hc with hc | hc
      · exact h.present c hc
      · exact List.mem_singleton.mp hc ▸ hpresent
    · rename_i hmissing
      rw [hasNode_iff] at hmissing
      exact iff_of_false (by simp) fun good => hmissing (good.present converter (by simp))

theorem hvdcLineFault?_eq_none_iff (nodes : List Node) (earlier : List HvdcLine)
    (line : HvdcLine) (h : ProperHvdcLines nodes earlier) :
    hvdcLineFault? nodes earlier line = none ↔ ProperHvdcLines nodes (earlier ++ [line]) := by
  have hseen : (earlier.any fun other => other.id == line.id) = true ↔
      line.id ∈ earlier.map HvdcLine.id := by simp
  have hid : ((earlier ++ [line]).map HvdcLine.id).Nodup ↔
      line.id ∉ earlier.map HvdcLine.id := by
    rw [List.map_append, List.map_singleton, nodup_append_singleton h.ids]
  have hconverters := firstFault_eq_none_iff (converterFault?_eq_none_iff nodes line.id)
    (fun _ _ => ProperConverters.initial) line.converters _ h.converters
  rw [hvdcLineFault?]
  split
  · rename_i hrepeated
    exact iff_of_false (by simp) fun good => hid.mp good.ids (hseen.mp hrepeated)
  · rename_i hnew
    have hsplit : (earlier ++ [line]).flatMap HvdcLine.converters =
        earlier.flatMap HvdcLine.converters ++ line.converters := by simp
    rw [hconverters, ← hsplit]
    exact ⟨fun hgood => ⟨hid.mpr fun hm => hnew (hseen.mpr hm), hgood⟩,
      ProperHvdcLines.converters⟩

theorem regulationFault?_eq_none_iff (nodes : List Node) (generator : Generator) :
    regulationFault? nodes generator = none ↔
      generator.regulatedBus ∈ nodes.map Node.id := by
  rw [regulationFault?, ← hasNode_iff]
  split <;> simp_all

end Inspection

open Inspection

theorem distinctNodes_iff (nodes : List Node) :
    firstFault nodeFault? [] nodes = none ↔ DistinctNodes nodes :=
  firstFault_eq_none_iff nodeFault?_eq_none_iff (fun _ _ => DistinctNodes.initial) nodes []
    ⟨by simp, by simp⟩

theorem properBranches_iff (nodes : List Node) (branches : List Branch) :
    firstFault (branchFault? nodes) [] branches = none ↔ ProperBranches nodes branches :=
  firstFault_eq_none_iff (branchFault?_eq_none_iff nodes) (fun _ _ => ProperBranches.initial)
    branches [] ⟨by simp, by simp⟩

theorem properHvdcLines_iff (nodes : List Node) (lines : List HvdcLine) :
    firstFault (hvdcLineFault? nodes) [] lines = none ↔ ProperHvdcLines nodes lines :=
  firstFault_eq_none_iff (hvdcLineFault?_eq_none_iff nodes)
    (fun _ _ => ProperHvdcLines.initial) lines [] ⟨by simp, by simp, by simp⟩

theorem regulated_iff (nodes : List Node) (generators : List Generator) :
    generators.findSome? (regulationFault? nodes) = none ↔
      ∀ generator ∈ generators, generator.regulatedBus ∈ nodes.map Node.id := by
  rw [List.findSome?_eq_none_iff]
  simp only [regulationFault?_eq_none_iff]

/-- The inspection finds no fault exactly in well-formed parts. -/
theorem inspect_eq_none_iff (nodes : List Node) (branches : List Branch)
    (hvdcLines : List HvdcLine) :
    inspect nodes branches hvdcLines = none ↔ WellFormed nodes branches hvdcLines := by
  simp only [inspect, Option.or_eq_none_iff, distinctNodes_iff, properBranches_iff,
    properHvdcLines_iff, regulated_iff]
  refine ⟨fun h => ?_, fun h => ?_⟩
  · obtain ⟨hn, hb, hl, hg⟩ := h
    exact ⟨hn, hb, hl, fun node hm generator hmg =>
      hg generator (List.mem_flatMap.mpr ⟨node, hm, hmg⟩)⟩
  · obtain ⟨hn, hb, hl, hg⟩ := h
    refine ⟨hn, hb, hl, fun generator hm => ?_⟩
    obtain ⟨node, hmn, hmg⟩ := List.mem_flatMap.mp hm
    exact hg node hmn generator hmg

end GridSetup
