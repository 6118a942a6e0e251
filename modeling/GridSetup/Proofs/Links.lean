import GridSetup.Network.Assembly
import Mathlib.Data.List.Nodup
import Mathlib.Data.List.Pairwise

/-! # Links as edges of a graph

Neighbours are read off a graph whose edges are added one by one. Little is
asked of such a graph, and what holds of neighbours follows from that alone:
the edges are those of a simple graph, whatever is added in whichever
direction, and each neighbour is listed once. -/

namespace GridSetup

namespace Link

theorem joins_iff (link : Link) (a b : String) :
    link.joins a b = true ↔
      (link.origin = a ∧ link.target = b) ∨ (link.origin = b ∧ link.target = a) := by
  simp [joins]

theorem joins_comm (link : Link) (a b : String) :
    link.joins a b = true ↔ link.joins b a = true := by
  rw [joins_iff, joins_iff, or_comm]

/-- The end of a link opposite to a node, if the link ends there at all. -/
def otherEnd? (id : String) (link : Link) : Option String :=
  if link.origin = id then some link.target
  else if link.target = id then some link.origin
  else none

theorem otherEnd?_eq_some_iff (link : Link) (a b : String) :
    link.otherEnd? a = some b ↔ link.joins a b = true := by
  rw [joins_iff]
  unfold otherEnd?
  grind

end Link

/-- What is asked of a graph: how an edge is added, and what is listed as the
neighbours of a node. -/
structure EdgeLaws (add : List Link → String × String → List Link)
    (others : List Link → String → List String) : Prop where
  /-- Nodes that an edge joins already, in either direction, get no second one. -/
  add_of_joined : ∀ links ends, (∃ link ∈ links, link.joins ends.1 ends.2) →
    add links ends = links
  /-- Others get an edge, and all edges there were are kept. -/
  add_of_apart : ∀ links ends, (¬∃ link ∈ links, link.joins ends.1 ends.2) →
    (add links ends).Perm ({ origin := ends.1, target := ends.2 } :: links)
  /-- The neighbours of a node are the other ends of its edges. -/
  others_perm : ∀ links id, (others links id).Perm (links.filterMap (Link.otherEnd? id))

/-- No link leads from a node to itself, and no two links join the same nodes. -/
structure SimpleLinks (links : List Link) : Prop where
  loopless : ∀ link ∈ links, link.origin ≠ link.target
  single : links.Pairwise fun link other => ¬other.joins link.origin link.target

namespace SimpleLinks

theorem nil : SimpleLinks [] := ⟨by simp, .nil⟩

theorem cons {links : List Link} (simple : SimpleLinks links) {link : Link}
    (hne : link.origin ≠ link.target)
    (hapart : ¬∃ other ∈ links, other.joins link.origin link.target) :
    SimpleLinks (link :: links) where
  loopless := List.forall_mem_cons.mpr ⟨hne, simple.loopless⟩
  single := .cons (fun other ho hjoins => hapart ⟨other, ho, hjoins⟩) simple.single

theorem apart_symm {link other : Link} (h : ¬other.joins link.origin link.target = true) :
    ¬link.joins other.origin other.target = true := by
  simp only [Link.joins_iff] at h ⊢
  grind

theorem perm {links links' : List Link} (simple : SimpleLinks links) (h : links'.Perm links) :
    SimpleLinks links' where
  loopless link hl := simple.loopless link (h.mem_iff.mp hl)
  single := (h.pairwise_iff apart_symm).mpr simple.single

theorem eq_of_joins {links : List Link} (simple : SimpleLinks links)
    {link other : Link} (hl : link ∈ links) (ho : other ∈ links) {a b : String}
    (hlink : link.joins a b) (hother : other.joins a b) : link = other := by
  by_contra hne
  have : Std.Symm fun link other : Link => ¬other.joins link.origin link.target :=
    ⟨fun _ _ => apart_symm⟩
  refine simple.single.forall hl ho hne ?_
  rw [Link.joins_iff] at hlink hother ⊢
  grind

theorem nodup {links : List Link} (simple : SimpleLinks links) : links.Nodup :=
  simple.single.imp fun h heq => h (by simp [heq, Link.joins])

/-- The other ends of the links of one node differ. -/
theorem otherEnds_nodup {links : List Link} (simple : SimpleLinks links) (id : String) :
    (links.filterMap (Link.otherEnd? id)).Nodup := by
  rw [List.Nodup, List.pairwise_filterMap]
  refine simple.nodup.imp_of_mem fun hl ho hne far hfar far' hfar' heq => hne ?_
  subst heq
  exact simple.eq_of_joins hl ho ((Link.otherEnd?_eq_some_iff _ _ _).mp hfar)
    ((Link.otherEnd?_eq_some_iff _ _ _).mp hfar')

end SimpleLinks

namespace EdgeLaws

variable {add : List Link → String × String → List Link}
  {others : List Link → String → List String} (laws : EdgeLaws add others)

include laws

theorem joined_add (links : List Link) (ends : String × String) (a b : String) :
    (∃ l ∈ add links ends, l.joins a b) ↔
      (∃ l ∈ links, l.joins a b) ∨ ends = (a, b) ∨ ends = (b, a) := by
  obtain ⟨x, y⟩ := ends
  by_cases h : ∃ link ∈ links, link.joins x y
  · rw [laws.add_of_joined links (x, y) h]
    refine ⟨Or.inl, fun hgiven => ?_⟩
    obtain ⟨l, hl, hj⟩ := h
    rcases hgiven with hex | hxy | hxy
    · exact hex
    · obtain ⟨rfl, rfl⟩ := Prod.mk.inj hxy
      exact ⟨l, hl, hj⟩
    · obtain ⟨rfl, rfl⟩ := Prod.mk.inj hxy
      exact ⟨l, hl, (l.joins_comm _ _).mp hj⟩
  · simp only [(laws.add_of_apart links (x, y) h).mem_iff, List.mem_cons, or_and_right,
      exists_or, exists_eq_left, Link.joins_iff, Prod.mk.injEq]
    exact or_comm

theorem joined_foldl (ends : List (String × String)) (links : List Link) (a b : String) :
    (∃ l ∈ ends.foldl add links, l.joins a b) ↔
      (∃ l ∈ links, l.joins a b) ∨ (a, b) ∈ ends ∨ (b, a) ∈ ends := by
  induction ends generalizing links with
  | nil => simp
  | cons pair rest ih =>
    rw [List.foldl_cons, ih, laws.joined_add]
    grind

theorem simple_add {links : List Link} (simple : SimpleLinks links) {ends : String × String}
    (hne : ends.1 ≠ ends.2) : SimpleLinks (add links ends) := by
  by_cases h : ∃ link ∈ links, link.joins ends.1 ends.2
  · rw [laws.add_of_joined links ends h]
    exact simple
  · exact (simple.cons hne h).perm (laws.add_of_apart links ends h)

theorem simple_foldl {ends : List (String × String)} (hne : ∀ pair ∈ ends, pair.1 ≠ pair.2)
    {links : List Link} (simple : SimpleLinks links) : SimpleLinks (ends.foldl add links) := by
  induction ends generalizing links with
  | nil => exact simple
  | cons pair rest ih =>
    obtain ⟨hpair, hrest⟩ := List.forall_mem_cons.mp hne
    exact ih hrest (laws.simple_add simple hpair)

theorem mem_others (links : List Link) (a b : String) :
    b ∈ others links a ↔ ∃ link ∈ links, link.joins a b := by
  simp only [(laws.others_perm links a).mem_iff, List.mem_filterMap, Link.otherEnd?_eq_some_iff]

theorem others_nodup {links : List Link} (simple : SimpleLinks links) (id : String) :
    (others links id).Nodup :=
  (laws.others_perm links id).nodup_iff.mpr (simple.otherEnds_nodup id)

end EdgeLaws

/-- The links of a network obey the laws. -/
theorem Network.edgeLaws : EdgeLaws Network.link Link.farEnds where
  add_of_joined links ends h := by
    obtain ⟨link, hl, hj⟩ := h
    rw [Network.link, if_pos (List.any_eq_true.mpr ⟨link, hl, hj⟩)]
  add_of_apart links ends h := by
    rw [Network.link, if_neg fun hany => h (List.any_eq_true.mp hany)]
  others_perm links id := by
    induction links with
    | nil => rfl
    | cons link rest ih =>
      rw [Link.farEnds] at ih ⊢
      by_cases horigin : link.origin = id
      · simpa [Link.otherEnd?, horigin] using ih
      · by_cases htarget : link.target = id
        · have hmiddle (xs ys : List String) :
              (xs ++ link.origin :: ys).Perm (link.origin :: (xs ++ ys)) := List.perm_middle
          simpa [Link.otherEnd?, horigin, htarget] using (hmiddle _ _).trans (ih.cons _)
        · simpa [Link.otherEnd?, horigin, htarget] using ih

end GridSetup
