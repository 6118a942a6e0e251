import GridSetup.Proofs.Building

/-! # The first offence in the description of a network

Each offence is said of an element and the parts before it. An element with
several offences is charged with the one its check comes to first, so an
offence also says that all checks before it pass. A network is built exactly
from well-formed parts, and a refusal always names the first offence. -/

namespace GridSetup

/-- The offences of a node after the nodes before it. -/
inductive NodeOffence (earlier : List Node) (node : Node) : Fault → FaultKind → Prop
  | repeatedId : node.id ∈ earlier.map Node.id →
      NodeOffence earlier node (.repeatedNode node.id) .invalidGraph
  | repeatedEquipment {seen rest : List (EquipmentKind × String)} {kind : EquipmentKind}
      {id : String} : node.id ∉ earlier.map Node.id →
      node.equipment = seen ++ (kind, id) :: rest →
      (earlier.flatMap Node.equipment ++ seen).Nodup →
      (kind, id) ∈ earlier.flatMap Node.equipment ++ seen →
      NodeOffence earlier node (.repeatedEquipment kind id) .invalidElement

/-- The offences of a branch after the branches before it. -/
inductive BranchOffence (nodes : List Node) (earlier : List Branch) (branch : Branch) :
    Fault → FaultKind → Prop
  | repeatedId : (branch.kind, branch.id) ∈ earlier.map (fun other => (other.kind, other.id)) →
      BranchOffence nodes earlier branch (.repeatedBranch branch.kind branch.id) .invalidEdge
  | repeatedEnd {seen rest : List String} {id : String} :
      (branch.kind, branch.id) ∉ earlier.map (fun other => (other.kind, other.id)) →
      branch.ends = seen ++ id :: rest → ProperEnds nodes seen → id ∈ seen →
      BranchOffence nodes earlier branch (.repeatedEnd branch.kind branch.id) .invalidEdge
  | missingEnd {seen rest : List String} {id : String} :
      (branch.kind, branch.id) ∉ earlier.map (fun other => (other.kind, other.id)) →
      branch.ends = seen ++ id :: rest → ProperEnds nodes seen → id ∉ seen →
      id ∉ nodes.map Node.id →
      BranchOffence nodes earlier branch (.missingEnd branch.kind branch.id id) .invalidEdge

/-- The offences of an HVDC line after the lines before it. -/
inductive HvdcLineOffence (nodes : List Node) (earlier : List HvdcLine) (line : HvdcLine) :
    Fault → FaultKind → Prop
  | repeatedId : line.id ∈ earlier.map HvdcLine.id →
      HvdcLineOffence nodes earlier line (.repeatedHvdcLine line.id) .invalidEdge
  | repeatedConverter {seen rest : List Converter} {converter : Converter} :
      line.id ∉ earlier.map HvdcLine.id → line.converters = seen ++ converter :: rest →
      ProperConverters nodes (earlier.flatMap HvdcLine.converters ++ seen) →
      converter.id ∈ (earlier.flatMap HvdcLine.converters ++ seen).map Converter.id →
      HvdcLineOffence nodes earlier line (.repeatedConverter converter.id) .invalidElement
  | missingBus {seen rest : List Converter} {converter : Converter} :
      line.id ∉ earlier.map HvdcLine.id → line.converters = seen ++ converter :: rest →
      ProperConverters nodes (earlier.flatMap HvdcLine.converters ++ seen) →
      converter.id ∉ (earlier.flatMap HvdcLine.converters ++ seen).map Converter.id →
      converter.bus ∉ nodes.map Node.id →
      HvdcLineOffence nodes earlier line (.missingConverterBus line.id converter.bus)
        .invalidEdge

/-- The first offence among nodes, then branches, then HVDC lines, and last
the buses that generators regulate. All that comes before it is well-formed. -/
inductive FirstOffence (nodes : List Node) (branches : List Branch)
    (hvdcLines : List HvdcLine) : Fault → FaultKind → Prop
  | node {before after : List Node} {node : Node} {fault : Fault} {kind : FaultKind} :
      nodes = before ++ node :: after → DistinctNodes before →
      NodeOffence before node fault kind → FirstOffence nodes branches hvdcLines fault kind
  | branch {before after : List Branch} {branch : Branch} {fault : Fault} {kind : FaultKind} :
      DistinctNodes nodes → branches = before ++ branch :: after →
      ProperBranches nodes before → BranchOffence nodes before branch fault kind →
      FirstOffence nodes branches hvdcLines fault kind
  | hvdcLine {before after : List HvdcLine} {line : HvdcLine} {fault : Fault}
      {kind : FaultKind} :
      DistinctNodes nodes → ProperBranches nodes branches →
      hvdcLines = before ++ line :: after → ProperHvdcLines nodes before →
      HvdcLineOffence nodes before line fault kind →
      FirstOffence nodes branches hvdcLines fault kind
  | regulation {before after : List Generator} {generator : Generator} :
      DistinctNodes nodes → ProperBranches nodes branches → ProperHvdcLines nodes hvdcLines →
      nodes.flatMap Node.generators = before ++ generator :: after →
      (∀ other ∈ before, other.regulatedBus ∈ nodes.map Node.id) →
      generator.regulatedBus ∉ nodes.map Node.id →
      FirstOffence nodes branches hvdcLines
        (.missingRegulatedBus generator.id generator.regulatedBus) .invalidElement

/-! ## The checks of single elements -/

namespace Inspection

theorem equipmentFault?_eq_some_iff (earlier : List (EquipmentKind × String))
    (item : EquipmentKind × String) (fault : Fault) :
    equipmentFault? earlier item = some fault ↔
      item ∈ earlier ∧ .repeatedEquipment item.1 item.2 = fault := by
  rw [equipmentFault?]
  split <;> simp_all

theorem endFault?_eq_some_iff (nodes : List Node) (branch : Branch) (earlier : List String)
    (id : String) (fault : Fault) :
    endFault? nodes branch earlier id = some fault ↔
      (id ∈ earlier ∧ .repeatedEnd branch.kind branch.id = fault) ∨
      (id ∉ earlier ∧ id ∉ nodes.map Node.id ∧
        .missingEnd branch.kind branch.id id = fault) := by
  rw [endFault?, ← hasNode_iff]
  split
  · simp_all
  · split <;> simp_all

theorem converterFault?_eq_some_iff (nodes : List Node) (lineId : String)
    (earlier : List Converter) (converter : Converter) (fault : Fault) :
    converterFault? nodes lineId earlier converter = some fault ↔
      (converter.id ∈ earlier.map Converter.id ∧
        .repeatedConverter converter.id = fault) ∨
      (converter.id ∉ earlier.map Converter.id ∧ converter.bus ∉ nodes.map Node.id ∧
        .missingConverterBus lineId converter.bus = fault) := by
  have hseen : (earlier.any fun other => other.id == converter.id) = true ↔
      converter.id ∈ earlier.map Converter.id := by simp
  rw [converterFault?, ← hasNode_iff, ← hseen]
  split
  · simp_all
  · split <;> simp_all

theorem nodeFault?_eq_some_iff (earlier : List Node) (node : Node) (fault : Fault)
    (h : DistinctNodes earlier) :
    nodeFault? earlier node = some fault ↔ NodeOffence earlier node fault fault.kind := by
  have hseen := (nodup_equipment_iff earlier).mpr h.equipment
  rw [nodeFault?]
  split
  · rename_i hrepeated
    rw [hasNode_iff] at hrepeated
    refine ⟨fun hf => ?_, fun hgiven => ?_⟩
    · cases hf
      exact .repeatedId hrepeated
    · cases hgiven with
      | repeatedId => rfl
      | repeatedEquipment hnew => exact absurd hrepeated hnew
  · rename_i hnew
    rw [hasNode_iff] at hnew
    rw [firstFault_eq_some_iff equipmentFault?_eq_none_iff
      (fun _ _ => List.Nodup.of_append_left) node.equipment _ hseen]
    simp only [equipmentFault?_eq_some_iff]
    refine ⟨fun hgiven => ?_, fun hgiven => ?_⟩
    · obtain ⟨seen, ⟨kind, id⟩, rest, hsplit, hgood, hm, rfl⟩ := hgiven
      exact .repeatedEquipment hnew hsplit hgood hm
    · cases hgiven with
      | repeatedId hrepeated => exact absurd hrepeated hnew
      | repeatedEquipment _ hsplit hgood hm => exact ⟨_, _, _, hsplit, hgood, hm, rfl⟩

theorem branchFault?_eq_some_iff (nodes : List Node) (earlier : List Branch) (branch : Branch)
    (fault : Fault) :
    branchFault? nodes earlier branch = some fault ↔
      BranchOffence nodes earlier branch fault fault.kind := by
  rw [branchFault?]
  split
  · rename_i hrepeated
    rw [repeatedBranch_iff] at hrepeated
    refine ⟨fun hf => ?_, fun h => ?_⟩
    · cases hf
      exact .repeatedId hrepeated
    · cases h with
      | repeatedId => rfl
      | repeatedEnd hnew => exact absurd hrepeated hnew
      | missingEnd hnew => exact absurd hrepeated hnew
  · rename_i hnew
    rw [repeatedBranch_iff] at hnew
    rw [firstFault_eq_some_iff (endFault?_eq_none_iff nodes branch)
      (fun _ _ => ProperEnds.initial) branch.ends [] ⟨by simp, by simp⟩]
    simp only [List.nil_append, endFault?_eq_some_iff]
    refine ⟨fun hgiven => ?_, fun hgiven => ?_⟩
    · obtain ⟨seen, id, rest, hsplit, hgood, ⟨hm, rfl⟩ | ⟨hm, hmissing, rfl⟩⟩ := hgiven
      · exact .repeatedEnd hnew hsplit hgood hm
      · exact .missingEnd hnew hsplit hgood hm hmissing
    · cases hgiven with
      | repeatedId hrepeated => exact absurd hrepeated hnew
      | repeatedEnd _ hsplit hgood hm => exact ⟨_, _, _, hsplit, hgood, .inl ⟨hm, rfl⟩⟩
      | missingEnd _ hsplit hgood hm hmissing =>
        exact ⟨_, _, _, hsplit, hgood, .inr ⟨hm, hmissing, rfl⟩⟩

theorem hvdcLineFault?_eq_some_iff (nodes : List Node) (earlier : List HvdcLine)
    (line : HvdcLine) (fault : Fault) (h : ProperHvdcLines nodes earlier) :
    hvdcLineFault? nodes earlier line = some fault ↔
      HvdcLineOffence nodes earlier line fault fault.kind := by
  have hseen : (earlier.any fun other => other.id == line.id) = true ↔
      line.id ∈ earlier.map HvdcLine.id := by simp
  rw [hvdcLineFault?]
  split
  · rename_i hrepeated
    rw [hseen] at hrepeated
    refine ⟨fun hf => ?_, fun hgiven => ?_⟩
    · cases hf
      exact .repeatedId hrepeated
    · cases hgiven with
      | repeatedId => rfl
      | repeatedConverter hnew => exact absurd hrepeated hnew
      | missingBus hnew => exact absurd hrepeated hnew
  · rename_i hnew
    rw [hseen] at hnew
    rw [firstFault_eq_some_iff (converterFault?_eq_none_iff nodes line.id)
      (fun _ _ => ProperConverters.initial) line.converters _ h.converters]
    simp only [converterFault?_eq_some_iff]
    refine ⟨fun hgiven => ?_, fun hgiven => ?_⟩
    · obtain ⟨seen, converter, rest, hsplit, hgood, ⟨hm, rfl⟩ | ⟨hm, hmissing, rfl⟩⟩ := hgiven
      · exact .repeatedConverter hnew hsplit hgood hm
      · exact .missingBus hnew hsplit hgood hm hmissing
    · cases hgiven with
      | repeatedId hrepeated => exact absurd hrepeated hnew
      | repeatedConverter _ hsplit hgood hm => exact ⟨_, _, _, hsplit, hgood, .inl ⟨hm, rfl⟩⟩
      | missingBus _ hsplit hgood hm hmissing =>
        exact ⟨_, _, _, hsplit, hgood, .inr ⟨hm, hmissing, rfl⟩⟩

theorem regulationFault?_eq_some_iff (nodes : List Node) (generator : Generator)
    (fault : Fault) :
    regulationFault? nodes generator = some fault ↔
      generator.regulatedBus ∉ nodes.map Node.id ∧
        .missingRegulatedBus generator.id generator.regulatedBus = fault := by
  rw [regulationFault?, ← hasNode_iff]
  split <;> simp_all

end Inspection

/-! ## The verdict on all parts -/

open Inspection

theorem FirstOffence.kind_eq {nodes : List Node} {branches : List Branch}
    {hvdcLines : List HvdcLine} {fault : Fault} {kind : FaultKind}
    (h : FirstOffence nodes branches hvdcLines fault kind) : fault.kind = kind := by
  cases h with
  | node _ _ offence => cases offence <;> rfl
  | branch _ _ _ offence => cases offence <;> rfl
  | hvdcLine _ _ _ _ offence => cases offence <;> rfl
  | regulation => rfl

theorem nodes_fault_iff (nodes : List Node) (fault : Fault) :
    firstFault nodeFault? [] nodes = some fault ↔
      ∃ before node after, nodes = before ++ node :: after ∧ DistinctNodes before ∧
        NodeOffence before node fault fault.kind := by
  rw [firstFault_eq_some_iff nodeFault?_eq_none_iff (fun _ _ => DistinctNodes.initial) nodes []
    ⟨by simp, by simp⟩]
  simp only [List.nil_append]
  refine ⟨fun h => ?_, fun h => ?_⟩
  · obtain ⟨before, node, after, hsplit, hgood, hf⟩ := h
    exact ⟨before, node, after, hsplit, hgood, (nodeFault?_eq_some_iff _ _ _ hgood).mp hf⟩
  · obtain ⟨before, node, after, hsplit, hgood, hf⟩ := h
    exact ⟨before, node, after, hsplit, hgood, (nodeFault?_eq_some_iff _ _ _ hgood).mpr hf⟩

theorem branches_fault_iff (nodes : List Node) (branches : List Branch) (fault : Fault) :
    firstFault (branchFault? nodes) [] branches = some fault ↔
      ∃ before branch after, branches = before ++ branch :: after ∧
        ProperBranches nodes before ∧ BranchOffence nodes before branch fault fault.kind := by
  rw [firstFault_eq_some_iff (branchFault?_eq_none_iff nodes) (fun _ _ => ProperBranches.initial)
    branches [] ⟨by simp, by simp⟩]
  simp only [List.nil_append, branchFault?_eq_some_iff]

theorem hvdcLines_fault_iff (nodes : List Node) (lines : List HvdcLine) (fault : Fault) :
    firstFault (hvdcLineFault? nodes) [] lines = some fault ↔
      ∃ before line after, lines = before ++ line :: after ∧ ProperHvdcLines nodes before ∧
        HvdcLineOffence nodes before line fault fault.kind := by
  rw [firstFault_eq_some_iff (hvdcLineFault?_eq_none_iff nodes)
    (fun _ _ => ProperHvdcLines.initial) lines [] ⟨by simp, by simp, by simp⟩]
  simp only [List.nil_append]
  refine ⟨fun h => ?_, fun h => ?_⟩
  · obtain ⟨before, line, after, hsplit, hgood, hf⟩ := h
    exact ⟨before, line, after, hsplit, hgood, (hvdcLineFault?_eq_some_iff _ _ _ _ hgood).mp hf⟩
  · obtain ⟨before, line, after, hsplit, hgood, hf⟩ := h
    exact ⟨before, line, after, hsplit, hgood, (hvdcLineFault?_eq_some_iff _ _ _ _ hgood).mpr hf⟩

theorem generators_fault_iff (nodes : List Node) (generators : List Generator) (fault : Fault) :
    generators.findSome? (regulationFault? nodes) = some fault ↔
      ∃ before generator after, generators = before ++ generator :: after ∧
        (∀ other ∈ before, other.regulatedBus ∈ nodes.map Node.id) ∧
        generator.regulatedBus ∉ nodes.map Node.id ∧
        .missingRegulatedBus generator.id generator.regulatedBus = fault := by
  rw [List.findSome?_eq_some_iff]
  simp only [regulationFault?_eq_none_iff, regulationFault?_eq_some_iff]
  refine ⟨fun h => ?_, fun h => ?_⟩
  · obtain ⟨before, generator, after, hsplit, ⟨hmissing, rfl⟩, hgood⟩ := h
    exact ⟨before, generator, after, hsplit, hgood, hmissing, rfl⟩
  · obtain ⟨before, generator, after, hsplit, hgood, hmissing, rfl⟩ := h
    exact ⟨before, generator, after, hsplit, ⟨hmissing, rfl⟩, hgood⟩

theorem inspect_eq_some_iff (nodes : List Node) (branches : List Branch)
    (hvdcLines : List HvdcLine) (fault : Fault) :
    inspect nodes branches hvdcLines = some fault ↔
      FirstOffence nodes branches hvdcLines fault fault.kind := by
  simp only [inspect, Option.or_eq_some_iff, distinctNodes_iff, properBranches_iff,
    properHvdcLines_iff, nodes_fault_iff, branches_fault_iff, hvdcLines_fault_iff,
    generators_fault_iff]
  refine ⟨fun h => ?_, fun h => ?_⟩
  · rcases h with ⟨before, node, after, hsplit, hgood, offence⟩ |
      ⟨hnodes, ⟨before, branch, after, hsplit, hgood, offence⟩ |
      ⟨hbranches, ⟨before, line, after, hsplit, hgood, offence⟩ |
      ⟨hlines, before, generator, after, hsplit, hgood, hmissing, rfl⟩⟩⟩
    · exact .node hsplit hgood offence
    · exact .branch hnodes hsplit hgood offence
    · exact .hvdcLine hnodes hbranches hsplit hgood offence
    · exact .regulation hnodes hbranches hlines hsplit hgood hmissing
  · cases h with
    | node hsplit hgood offence => exact .inl ⟨_, _, _, hsplit, hgood, offence⟩
    | branch hnodes hsplit hgood offence =>
      exact .inr ⟨hnodes, .inl ⟨_, _, _, hsplit, hgood, offence⟩⟩
    | hvdcLine hnodes hbranches hsplit hgood offence =>
      exact .inr ⟨hnodes, .inr ⟨hbranches, .inl ⟨_, _, _, hsplit, hgood, offence⟩⟩⟩
    | regulation hnodes hbranches hlines hsplit hgood hmissing =>
      exact .inr ⟨hnodes, .inr ⟨hbranches, .inr
        ⟨hlines, _, _, _, hsplit, hgood, hmissing, rfl⟩⟩⟩

/-- A network is built exactly from well-formed parts. A refusal names the
first offence among the parts, and each first offence is refused, with a fault
of its kind. -/
theorem build_verdict (nodes : List Node) (branches : List Branch)
    (hvdcLines : List HvdcLine) :
    ((∃ network, Network.build nodes branches hvdcLines = .ok network) ↔
      WellFormed nodes branches hvdcLines) ∧
    ∀ fault kind,
      (Network.build nodes branches hvdcLines = .error fault ∧ fault.kind = kind) ↔
        FirstOffence nodes branches hvdcLines fault kind := by
  have herror : ∀ fault, Network.build nodes branches hvdcLines = .error fault ↔
      inspect nodes branches hvdcLines = some fault := by
    intro fault
    rw [Network.build_eq]
    cases inspect nodes branches hvdcLines <;> simp [unlessFault]
  constructor
  · rw [← inspect_eq_none_iff, Network.build_eq]
    cases inspect nodes branches hvdcLines <;> simp [unlessFault]
  · intro fault kind
    rw [herror, inspect_eq_some_iff]
    refine ⟨fun h => ?_, fun offence => ?_⟩
    · obtain ⟨offence, rfl⟩ := h
      exact offence
    · have hkind := offence.kind_eq
      exact ⟨hkind ▸ offence, hkind⟩

end GridSetup
