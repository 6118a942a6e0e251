import GridSetup.Proofs.Inventory
import GridSetup.Proofs.MainNodes

/-! # Where HVDC lines were met

Converters are met one by one, and each of them moves the position of its line.
Whatever the order, a line ends up where the converters that were met stand. -/

namespace GridSetup

open Std (ExtTreeMap)

/-- The position of a line that was met on these sides, if on any. -/
def HvdcPosition.ofSides : (first second : Bool) → Option HvdcPosition
  | true, true => some .both
  | true, false => some .first
  | false, true => some .second
  | false, false => none

/-- The position once the line is met on one more side. -/
def HvdcPosition.next (known : Option HvdcPosition) (side : Side) : HvdcPosition :=
  match known with
  | none => .ofSide side
  | some position => position.addSide side

theorem HvdcPosition.ofSides_next (first second : Bool) (side : Side) :
    ofSides (first || side = .first) (second || side = .second) =
      some (next (ofSides first second) side) := by
  cases first <;> cases second <;> cases side <;> rfl

namespace HvdcDefinition

/-- The definition of a line in a position. -/
def ofLine (line : HvdcLine) (position : HvdcPosition) : HvdcDefinition where
  id := line.id
  type := line.type
  first := line.first
  second := line.second
  position := position

@[simp] theorem ofLine_line (line : HvdcLine) (position : HvdcPosition) :
    (ofLine line position).line = line := rfl

/-- Nothing of a line is lost in its definition. -/
theorem eq_ofLine (definition : HvdcDefinition) :
    ofLine definition.line definition.position = definition := rfl

variable {network : Network} {seen : List String} {definitions : ExtTreeMap String HvdcDefinition}

/-- The position of a line of which the converters with these ids were met. -/
def positionIn (seen : List String) (line : HvdcLine) : Option HvdcPosition :=
  HvdcPosition.ofSides ((line.converter .first).id ∈ seen) ((line.converter .second).id ∈ seen)

/-- The definitions agree with the converters that were met: they hold the lines
that were met on some side, each where it was met. -/
def Tracks (network : Network) (seen : List String)
    (definitions : ExtTreeMap String HvdcDefinition) : Prop :=
  ∀ (id : String) (definition : HvdcDefinition), definitions[id]? = some definition ↔
    definition.line ∈ network.hvdcLines ∧ definition.line.id = id ∧
      positionIn seen definition.line = some definition.position

theorem tracks_nil : Tracks network [] ∅ := by
  intro id definition
  simp [positionIn, HvdcPosition.ofSides]

theorem positionIn_concat (coherent : network.Coherent) {line : HvdcLine} {side : Side}
    (hl : line ∈ network.hvdcLines) :
    positionIn (seen ++ [(line.converter side).id]) line =
      some (HvdcPosition.next (positionIn seen line) side) := by
  have hside : ∀ other, (line.converter other).id = (line.converter side).id ↔ side = other :=
    fun other => ⟨fun h => (coherent.converter_injective hl hl h).2.symm, fun h => by rw [h]⟩
  rw [positionIn, positionIn, ← HvdcPosition.ofSides_next]
  simp [hside]

theorem positionIn_other (coherent : network.Coherent) {line other : HvdcLine} {side : Side}
    (hl : line ∈ network.hvdcLines) (ho : other ∈ network.hvdcLines) (hne : other ≠ line) :
    positionIn (seen ++ [(line.converter side).id]) other = positionIn seen other := by
  have hside : ∀ own, (other.converter own).id ≠ (line.converter side).id :=
    fun own h => hne (coherent.converter_injective ho hl h).1
  simp [positionIn, hside]

theorem hvdcLine_injective (coherent : network.Coherent) {line other : HvdcLine}
    (hl : line ∈ network.hvdcLines) (ho : other ∈ network.hvdcLines) (h : other.id = line.id) :
    other = line :=
  List.inj_on_of_nodup_map coherent.wellFormed.proper_hvdcLines.ids ho hl h

/-- What is held of a line is its position, if it was met. -/
theorem Tracks.getElem?_id (h : Tracks network seen definitions) (coherent : network.Coherent)
    {line : HvdcLine} (hl : line ∈ network.hvdcLines) :
    definitions[line.id]? = (positionIn seen line).map (ofLine line) := by
  cases hposition : positionIn seen line with
  | some position => exact (h line.id _).mpr ⟨hl, rfl, hposition⟩
  | none =>
    rw [Option.map_none, Option.eq_none_iff_forall_ne_some]
    intro known hknown
    obtain ⟨hmem, hid, hpos⟩ := (h line.id known).mp hknown
    rw [hvdcLine_injective coherent hl hmem hid, hposition] at hpos
    cases hpos

theorem Tracks.meet (h : Tracks network seen definitions) (coherent : network.Coherent)
    {line : HvdcLine} (hl : line ∈ network.hvdcLines) (side : Side) :
    Tracks network (seen ++ [(line.converter side).id]) (meet definitions line side) := by
  intro id definition
  by_cases hid : line.id = id
  · subst hid
    have hmet : (HvdcDefinition.meet definitions line side)[line.id]? =
        some (ofLine line (HvdcPosition.next (positionIn seen line) side)) := by
      rw [HvdcDefinition.meet, ExtTreeMap.getElem?_alter_self, h.getElem?_id coherent hl]
      cases positionIn seen line <;> rfl
    rw [hmet]
    refine ⟨fun heq => ?_, fun hgiven => ?_⟩
    · cases heq
      exact ⟨hl, rfl, positionIn_concat coherent hl⟩
    · obtain ⟨hmem, hid, hpos⟩ := hgiven
      obtain rfl := hvdcLine_injective coherent hl hmem hid
      rw [positionIn_concat coherent hl] at hpos
      rw [Option.some.inj hpos, eq_ofLine]
  · have hother : (HvdcDefinition.meet definitions line side)[id]? = definitions[id]? := by
      rw [HvdcDefinition.meet, ExtTreeMap.getElem?_alter, if_neg]
      simpa using hid
    rw [hother, h]
    refine and_congr_right fun hmem => and_congr_right fun hown => ?_
    rw [positionIn_other coherent hl hmem fun heq => hid (heq ▸ hown)]

theorem Tracks.meetAll (coherent : network.Coherent) (converters : List String)
    (hfound : ∀ id ∈ converters, ∃ line side, network.hvdcLineOfConverter id = .ok (line, side)) :
    ∀ {seen definitions}, Tracks network seen definitions →
      Tracks network (seen ++ converters)
        (HvdcDefinition.meetAll network converters definitions).state := by
  induction converters with
  | nil =>
    intro seen definitions h
    rwa [List.append_nil]
  | cons id rest ih =>
    intro seen definitions h
    obtain ⟨line, side, hok⟩ := hfound id List.mem_cons_self
    obtain ⟨hl, rfl⟩ := (coherent.hvdcLineOfConverter_eq_ok_iff id line side).mp hok
    rw [HvdcDefinition.meetAll, hok, List.append_cons]
    exact ih (fun other ho => hfound other (List.mem_cons_of_mem _ ho)) (h.meet coherent hl side)

/-- The converters of a line are met on the visited nodes they stand on. -/
theorem mem_converters_iff (coherent : network.Coherent) {visits : List Node}
    (hsub : visits ⊆ network.nodes) {line : HvdcLine} (hl : line ∈ network.hvdcLines)
    (side : Side) :
    (line.converter side).id ∈ visits.flatMap Node.converters ↔
      (line.converter side).bus ∈ visits.map Node.id := by
  rw [List.mem_flatMap, List.mem_map]
  refine exists_congr fun node => and_congr_right fun hn => ?_
  rw [coherent.stationed node (hsub hn)]
  refine ⟨fun hgiven => ?_, fun hbus => ?_⟩
  · obtain ⟨other, ho, converter, hc, hid, hbus⟩ := hgiven
    rw [HvdcLine.converters_eq] at hc
    obtain ⟨own, -, rfl⟩ := List.mem_map.mp hc
    obtain ⟨rfl, rfl⟩ := coherent.converter_injective ho hl hid
    exact hbus.symm
  · refine ⟨line, hl, line.converter side, ?_, rfl, hbus.symm⟩
    rw [HvdcLine.converters_eq]
    exact List.mem_map_of_mem (by cases side <;> simp)

/-- After any visits the definitions hold the lines with a converter on a visited
node, each in the position of those of its converters that are on one. -/
theorem traverse_exact (coherent : network.Coherent) {visits : List Node}
    (hsub : visits ⊆ network.nodes) (id : String) (definition : HvdcDefinition) :
    (traverse visitor network visits ∅).state[id]? = some definition ↔
      definition.line ∈ network.hvdcLines ∧ definition.line.id = id ∧
        HvdcPosition.ofSides (definition.line.first.bus ∈ visits.map Node.id)
          (definition.line.second.bus ∈ visits.map Node.id) = some definition.position := by
  have htracks : Tracks network (visits.flatMap Node.converters)
      (traverse visitor network visits ∅).state := by
    refine traverse_invariant
      (P := fun visits definitions =>
        Tracks network (visits.flatMap Node.converters) definitions)
      (coherent.hvdc_succeedsOn.mono hsub) ?_ tracks_nil
    intro before _ node hn definitions h
    rw [List.flatMap_append, List.flatMap_singleton]
    exact Tracks.meetAll coherent node.converters
      (fun _ hid => coherent.converter_found (hsub hn) hid) h
  rw [htracks]
  refine and_congr_right fun hl => ?_
  simp only [positionIn, mem_converters_iff coherent hsub hl]
  rfl

end HvdcDefinition

/-! ## Lines and positions -/

theorem HvdcPosition.ofSides_isSome (first second : Bool) :
    (ofSides first second).isSome = (first || second) := by
  cases first <;> cases second <;> rfl

/-- Whether a line in this position was met on a side. -/
def HvdcPosition.covers : HvdcPosition → Side → Bool
  | .both, _ => true
  | .first, side => side = .first
  | .second, side => side = .second

theorem HvdcPosition.ofSides_eq_some_iff (first second : Bool) (position : HvdcPosition) :
    ofSides first second = some position ↔
      first = position.covers .first ∧ second = position.covers .second := by
  cases first <;> cases second <;> cases position <;> decide

namespace HvdcDefinition

/-- The position tells which of the two converters stand on a visited bus. -/
structure Placed (visited : String → Prop) (definition : HvdcDefinition) : Prop where
  both : definition.position = .both ↔
    visited definition.line.first.bus ∧ visited definition.line.second.bus
  first : definition.position = .first ↔
    visited definition.line.first.bus ∧ ¬ visited definition.line.second.bus
  second : definition.position = .second ↔
    ¬ visited definition.line.first.bus ∧ visited definition.line.second.bus

/-- The definitions are those of the lines with a converter on a visited bus, each
line as it was given and in its place. -/
structure Classifies (lines : List HvdcLine) (visited : String → Prop)
    (definitions : ExtTreeMap String HvdcDefinition) : Prop where
  held : ∀ id : String, id ∈ definitions ↔
    ∃ line ∈ lines, line.id = id ∧ (visited line.first.bus ∨ visited line.second.bus)
  unchanged : ∀ (id : String) (definition : HvdcDefinition), definitions[id]? = some definition →
    definition.line ∈ lines ∧ definition.line.id = id
  placed : ∀ (id : String) (definition : HvdcDefinition), definitions[id]? = some definition →
    definition.Placed visited

theorem placed_of_ofSides {visited : String → Prop} [DecidablePred visited]
    {definition : HvdcDefinition}
    (h : HvdcPosition.ofSides (visited definition.line.first.bus)
      (visited definition.line.second.bus) = some definition.position) :
    definition.Placed visited := by
  have heq : ∀ position, definition.position = position ↔
      decide (visited definition.line.first.bus) = position.covers .first ∧
        decide (visited definition.line.second.bus) = position.covers .second := by
    intro position
    rw [← HvdcPosition.ofSides_eq_some_iff, h, Option.some.injEq]
  constructor <;> simp [heq, HvdcPosition.covers]

variable {network : Network} {visits : List Node}

/-- The lines are classified by the buses that were visited. -/
theorem traverse_classifies (coherent : network.Coherent) (hsub : visits ⊆ network.nodes) :
    Classifies network.hvdcLines (· ∈ visits.map Node.id)
      (traverse visitor network visits ∅).state where
  held id := by
    rw [ExtTreeMap.mem_iff_isSome_getElem?, Option.isSome_iff_exists]
    simp only [traverse_exact coherent hsub]
    refine ⟨fun hgiven => ?_, fun hgiven => ?_⟩
    · obtain ⟨definition, hl, hid, hposition⟩ := hgiven
      refine ⟨definition.line, hl, hid, ?_⟩
      have hmet := HvdcPosition.ofSides_isSome (definition.line.first.bus ∈ visits.map Node.id)
        (definition.line.second.bus ∈ visits.map Node.id)
      rw [hposition] at hmet
      simpa using hmet
    · obtain ⟨line, hl, hid, hmet⟩ := hgiven
      have hsome : (HvdcPosition.ofSides (line.first.bus ∈ visits.map Node.id)
          (line.second.bus ∈ visits.map Node.id)).isSome := by
        rw [HvdcPosition.ofSides_isSome]
        simpa using hmet
      obtain ⟨position, hposition⟩ := Option.isSome_iff_exists.mp hsome
      exact ⟨ofLine line position, hl, hid, hposition⟩
  unchanged id definition h := by
    obtain ⟨hl, hid, -⟩ := (traverse_exact coherent hsub id definition).mp h
    exact ⟨hl, hid⟩
  placed id definition h := by
    obtain ⟨-, -, hposition⟩ := (traverse_exact coherent hsub id definition).mp h
    exact placed_of_ofSides hposition

/-- Only which nodes were visited matters, not in what order or how often. -/
theorem traverse_congr (coherent : network.Coherent) {visits' : List Node}
    (hsub : visits ⊆ network.nodes) (hsame : ∀ node, node ∈ visits ↔ node ∈ visits') :
    (traverse visitor network visits ∅).state = (traverse visitor network visits' ∅).state := by
  have hsub' : visits' ⊆ network.nodes := fun node hn => hsub ((hsame node).mpr hn)
  refine ExtTreeMap.ext_getElem? fun id => Option.ext fun definition => ?_
  rw [traverse_exact coherent hsub, traverse_exact coherent hsub']
  simp only [List.mem_map, hsame]

end HvdcDefinition

/-- Whatever nodes of a built network are visited, in whatever order and however
often, the definitions are those of the HVDC lines with a converter on a visited
node, each line as it was given and in the position of its converters. For a
resolution the nodes of the main component are visited. -/
theorem hvdcLines_exact {nodes : List Node} {branches : List Branch}
    {hvdcLines : List HvdcLine} {network : Network}
    (h : Network.build nodes branches hvdcLines = .ok network) :
    (∀ visits, visits ⊆ network.nodes →
      (traverse HvdcDefinition.visitor network visits ∅).fault = none ∧
      HvdcDefinition.Classifies hvdcLines (· ∈ visits.map Node.id)
        (traverse HvdcDefinition.visitor network visits ∅).state ∧
      ∀ visits', (∀ node, node ∈ visits ↔ node ∈ visits') →
        (traverse HvdcDefinition.visitor network visits ∅).state =
          (traverse HvdcDefinition.visitor network visits' ∅).state) ∧
    ∀ config locator options, ∃ resolution,
      (resolve network config locator options).value = .ok resolution ∧
      HvdcDefinition.Classifies hvdcLines (· ∈ resolution.mainComponent) resolution.hvdcLines := by
  have coherent := Network.IsBuilt.coherent ⟨nodes, branches, hvdcLines, h⟩
  have hlines : network.hvdcLines = hvdcLines := by
    obtain ⟨-, rfl⟩ := Network.build_eq_ok_iff.mp h
    rw [Network.assemble_eq]
  rw [← hlines]
  refine ⟨fun visits hsub => ⟨?_, ?_, fun visits' hsame => ?_⟩,
    fun config locator options => ⟨_, coherent.resolve_eq_separately config locator options, ?_⟩⟩
  · exact (traverse_of_succeedsOn (coherent.hvdc_succeedsOn.mono hsub) ∅).1
  · exact HvdcDefinition.traverse_classifies coherent hsub
  · exact HvdcDefinition.traverse_congr coherent hsub hsame
  · simp only [Resolution.mem_mainComponent_iff]
    exact HvdcDefinition.traverse_classifies coherent coherent.mainNodes_subset

namespace Mainland

/-- Over the mainland, there and back. -/
def roundTrip : List Node := network.nodes.tail ++ network.nodes.tail.reverse

theorem roundTrip_mem (node : Node) : node ∈ roundTrip ↔ node ∈ network.nodes.tail := by
  simp [roundTrip]

theorem roundTrip_subset : roundTrip ⊆ network.nodes :=
  fun node hn => List.mem_of_mem_tail ((roundTrip_mem node).mp hn)

end Mainland

/-- Both converters of one line stand on a node that is visited twice, the first
converter of the other line on the island. -/
theorem hvdcLines_exact_mainland :
    Network.build Mainland.nodes Mainland.branches Mainland.hvdcLines = .ok Mainland.network ∧
    Mainland.roundTrip ⊆ Mainland.network.nodes ∧
    HvdcDefinition.Classifies Mainland.hvdcLines (· ∈ Mainland.roundTrip.map Node.id)
      (traverse HvdcDefinition.visitor Mainland.network Mainland.roundTrip ∅).state ∧
    (traverse HvdcDefinition.visitor Mainland.network Mainland.roundTrip ∅).state =
      (traverse HvdcDefinition.visitor Mainland.network Mainland.network.nodes.tail ∅).state ∧
    (traverse HvdcDefinition.visitor Mainland.network Mainland.roundTrip ∅).state.toList.map
      (fun entry => (entry.1, entry.2.position)) = [("IN", .second), ("NN", .both)] := by
  obtain ⟨-, hclassifies, hcongr⟩ :=
    (hvdcLines_exact Mainland.build_network).1 _ Mainland.roundTrip_subset
  exact ⟨Mainland.build_network, Mainland.roundTrip_subset, hclassifies,
    hcongr _ Mainland.roundTrip_mem, by decide +kernel⟩

end GridSetup
