import GridSetup.Walk
import Mathlib.Data.List.Nodup
import Mathlib.Logic.Relation

/-! # Depth-first walks are exact

A walk ends with the elements that can be reached from its stack, each of them
once. The order in which the walk takes elements is followed by induction: its
head is the top of the stack, its tail the walk that goes on from there. -/

namespace GridSetup

section Sift

variable {α : Type} [BEq α] [LawfulBEq α]

theorem sift_perm (candidates unseen : List α) :
    ((sift candidates unseen).1 ++ (sift candidates unseen).2).Perm unseen := by
  induction candidates generalizing unseen with
  | nil => simp [sift]
  | cons x rest ih =>
    rw [sift]
    split
    · rename_i h
      have hx : x ∈ unseen := by simpa using h
      exact ((ih (unseen.erase x)).cons x).trans (List.perm_cons_erase hx).symm
    · exact ih unseen

theorem mem_sift_fst (candidates unseen : List α) (y : α) :
    y ∈ (sift candidates unseen).1 ↔ y ∈ candidates ∧ y ∈ unseen := by
  induction candidates generalizing unseen with
  | nil => simp [sift]
  | cons x rest ih =>
    rw [sift]
    split
    · rename_i h
      have hx : x ∈ unseen := by simpa using h
      by_cases hy : y = x
      · simp [hy, hx]
      · simp [hy, ih, List.mem_erase_of_ne hy]
    · rename_i h
      have hx : x ∉ unseen := by simpa using h
      rw [ih, List.mem_cons]
      refine ⟨fun hgiven => ?_, fun hgiven => ?_⟩
      · obtain ⟨hr, hu⟩ := hgiven
        exact ⟨.inr hr, hu⟩
      · obtain ⟨rfl | hr, hu⟩ := hgiven
        · exact absurd hu hx
        · exact ⟨hr, hu⟩

end Sift

section Walk

variable {α ε : Type} {next : α → Except ε (List α)}

/-- The element `b` is among those that follow `a`. -/
def Follows (next : α → Except ε (List α)) (a b : α) : Prop :=
  ∃ candidates, next a = .ok candidates ∧ b ∈ candidates

variable [BEq α] [LawfulBEq α]

theorem walk_eq_ok_nil {stack unseen : List α} (h : walk next unseen stack = .ok []) :
    stack = [] := by
  cases stack with
  | nil => rfl
  | cons x rest =>
    rw [walk] at h
    split at h
    · cases h
    · rename_i candidates _
      dsimp only at h
      cases htail : walk next (sift candidates unseen).2
        ((sift candidates unseen).1.reverse ++ rest) <;> rw [htail] at h <;> cases h

/-- A walk that took an element took it from the top of the stack and went on
with what follows it. -/
theorem walk_eq_ok_cons {stack unseen tail : List α} {x : α}
    (h : walk next unseen stack = .ok (x :: tail)) :
    ∃ rest candidates, stack = x :: rest ∧ next x = .ok candidates ∧
      walk next (sift candidates unseen).2
        ((sift candidates unseen).1.reverse ++ rest) = .ok tail := by
  cases stack with
  | nil =>
    rw [walk] at h
    cases h
  | cons y rest =>
    rw [walk] at h
    split at h
    · cases h
    · rename_i candidates hy
      dsimp only at h
      cases htail : walk next (sift candidates unseen).2
        ((sift candidates unseen).1.reverse ++ rest) with
      | error e => rw [htail] at h; cases h
      | ok tail =>
        rw [htail] at h
        cases h
        exact ⟨rest, candidates, rfl, hy, htail⟩

/-- Sifting moves elements from the unseen ones to the stack: together they
stay what they were. -/
theorem sift_step_perm (candidates unseen rest : List α) :
    ((sift candidates unseen).1.reverse ++ rest ++ (sift candidates unseen).2).Perm
      (rest ++ unseen) := by
  have hmove := (List.reverse_perm (sift candidates unseen).1).append_right rest
  refine (hmove.append_right _).trans ?_
  refine (List.perm_append_comm.append_right _).trans ?_
  rw [List.append_assoc]
  exact (sift_perm candidates unseen).append_left rest

/-- What sifting moves to the stack follows the element that was taken. -/
theorem mem_pushed_iff {unseen candidates : List α} {x y : α} (h : next x = .ok candidates) :
    y ∈ (sift candidates unseen).1 ↔ Follows next x y ∧ y ∈ unseen := by
  rw [mem_sift_fst]
  refine and_congr_left' ⟨fun hy => ⟨candidates, h, hy⟩, fun hfollows => ?_⟩
  obtain ⟨others, hothers, hy⟩ := hfollows
  rw [h] at hothers
  cases hothers
  exact hy

theorem walk_isOk (unseen stack : List α)
    (h : ∀ x ∈ stack ++ unseen, ∃ candidates, next x = .ok candidates) :
    ∃ order, walk next unseen stack = .ok order := by
  fun_induction walk next unseen stack with
  | case1 unseen => exact ⟨[], rfl⟩
  | case2 unseen x rest e hx =>
    obtain ⟨candidates, hok⟩ := h x (by simp)
    rw [hx] at hok
    cases hok
  | case3 unseen x rest candidates hx sifted ih =>
    obtain ⟨tail, htail⟩ := ih fun y hy => by
      have := (sift_step_perm candidates unseen rest).mem_iff.mp hy
      exact h y (List.mem_cons_of_mem x this)
    exact ⟨x :: tail, by rw [htail]; rfl⟩

theorem mem_of_mem_walk {order : List α} : ∀ {unseen stack : List α},
    walk next unseen stack = .ok order → ∀ y ∈ order, y ∈ stack ++ unseen := by
  induction order with
  | nil => intro _ _ _ y hy; cases hy
  | cons x tail ih =>
    intro unseen stack h y hy
    obtain ⟨rest, candidates, rfl, -, htail⟩ := walk_eq_ok_cons h
    rcases List.mem_cons.mp hy with rfl | hy
    · simp
    · have := (sift_step_perm candidates unseen rest).mem_iff.mp (ih htail y hy)
      exact List.mem_cons_of_mem x this

theorem mem_walk_of_mem_stack {order : List α} : ∀ {unseen stack : List α},
    walk next unseen stack = .ok order → ∀ y ∈ stack, y ∈ order := by
  induction order with
  | nil =>
    intro unseen stack h y hy
    obtain rfl := walk_eq_ok_nil h
    exact hy
  | cons x tail ih =>
    intro unseen stack h y hy
    obtain ⟨rest, candidates, rfl, -, htail⟩ := walk_eq_ok_cons h
    rcases List.mem_cons.mp hy with rfl | hy
    · exact List.mem_cons_self
    · exact List.mem_cons_of_mem x (ih htail y (List.mem_append_right _ hy))

theorem walk_nodup {order : List α} : ∀ {unseen stack : List α},
    walk next unseen stack = .ok order → (stack ++ unseen).Nodup → order.Nodup := by
  induction order with
  | nil => intros; exact List.nodup_nil
  | cons x tail ih =>
    intro unseen stack h hnodup
    obtain ⟨rest, candidates, rfl, -, htail⟩ := walk_eq_ok_cons h
    have hperm := sift_step_perm candidates unseen rest
    obtain ⟨hx, hrest⟩ := List.nodup_cons.mp hnodup
    refine List.nodup_cons.mpr ⟨fun hm => hx ?_, ih htail (hperm.nodup_iff.mpr hrest)⟩
    exact hperm.mem_iff.mp (mem_of_mem_walk htail x hm)

/-- What follows a taken element is taken too, if it was unseen. -/
theorem walk_closed {order : List α} : ∀ {unseen stack : List α},
    walk next unseen stack = .ok order →
      ∀ x ∈ order, ∀ y ∈ unseen, Follows next x y → y ∈ order := by
  induction order with
  | nil => intro _ _ _ x hx; cases hx
  | cons top tail ih =>
    intro unseen stack h x hx y hy hfollows
    obtain ⟨rest, candidates, rfl, hnext, htail⟩ := walk_eq_ok_cons h
    apply List.mem_cons_of_mem
    -- `y` has moved to the stack, or it is still unseen and `x` comes later
    by_cases hmoved : y ∈ (sift candidates unseen).1
    · exact mem_walk_of_mem_stack htail y (by simp [hmoved])
    · have hleft : y ∈ (sift candidates unseen).2 :=
        (List.mem_append.mp ((sift_perm candidates unseen).mem_iff.mpr hy)).resolve_left hmoved
      rcases List.mem_cons.mp hx with rfl | hx
      · exact absurd ((mem_pushed_iff hnext).mpr ⟨hfollows, hy⟩) hmoved
      · exact ih htail x hx y hleft hfollows

theorem walk_sound {order : List α} : ∀ {unseen stack : List α},
    walk next unseen stack = .ok order →
      ∀ y ∈ order, ∃ x ∈ stack, Relation.ReflTransGen (Follows next) x y := by
  induction order with
  | nil => intro _ _ _ y hy; cases hy
  | cons top tail ih =>
    intro unseen stack h y hy
    obtain ⟨rest, candidates, rfl, hnext, htail⟩ := walk_eq_ok_cons h
    rcases List.mem_cons.mp hy with rfl | hy
    · exact ⟨y, List.mem_cons_self, .refl⟩
    · obtain ⟨x, hx, hreach⟩ := ih htail y hy
      rcases List.mem_append.mp hx with hx | hx
      · have hfollows := ((mem_pushed_iff hnext).mp (List.mem_reverse.mp hx)).1
        exact ⟨top, List.mem_cons_self, .head hfollows hreach⟩
      · exact ⟨x, List.mem_cons_of_mem top hx, hreach⟩

/-- What a walk takes was on its stack, or follows something it took before. -/
theorem walk_discovered {order : List α} : ∀ {unseen stack : List α},
    walk next unseen stack = .ok order → ∀ {before : List α} {x : α} {after : List α},
      order = before ++ x :: after → x ∈ stack ∨ ∃ y ∈ before, Follows next y x := by
  induction order with
  | nil =>
    intro _ _ _ before _ _ hsplit
    exact absurd hsplit.symm (List.append_ne_nil_of_right_ne_nil before (List.cons_ne_nil _ _))
  | cons top tail ih =>
    intro unseen stack h before x after hsplit
    obtain ⟨rest, candidates, rfl, hnext, htail⟩ := walk_eq_ok_cons h
    cases before with
    | nil =>
      obtain ⟨rfl, -⟩ := List.cons.inj hsplit
      exact .inl List.mem_cons_self
    | cons first before =>
      obtain ⟨rfl, hrest⟩ := List.cons.inj hsplit
      rcases ih htail hrest with hx | ⟨y, hy, hfollows⟩
      · rcases List.mem_append.mp hx with hx | hx
        · have hfollows := ((mem_pushed_iff hnext).mp (List.mem_reverse.mp hx)).1
          exact .inr ⟨top, List.mem_cons_self, hfollows⟩
        · exact .inl (List.mem_cons_of_mem top hx)
      · exact .inr ⟨y, List.mem_cons_of_mem top hy, hfollows⟩

/-- A walk goes on with the lower part of its stack once it is through with the upper
part and all that was led to from there. -/
theorem walk_append {order : List α} : ∀ {unseen top rest : List α},
    walk next unseen (top ++ rest) = .ok order → ∃ first left second,
      order = first ++ second ∧ walk next unseen top = .ok first ∧
      walk next left rest = .ok second ∧ (first ++ left).Perm (top ++ unseen) := by
  induction order with
  | nil =>
    intro unseen top rest h
    obtain ⟨rfl, rfl⟩ := List.append_eq_nil_iff.mp (walk_eq_ok_nil h)
    exact ⟨[], unseen, [], rfl, h, h, .refl _⟩
  | cons x tail ih =>
    intro unseen top rest h
    cases top with
    | nil => exact ⟨[], unseen, x :: tail, rfl, by rw [walk], h, .refl _⟩
    | cons y top =>
      rw [List.cons_append] at h
      obtain ⟨below, candidates, hstack, hnext, htail⟩ := walk_eq_ok_cons h
      obtain ⟨rfl, rfl⟩ := List.cons.inj hstack
      rw [← List.append_assoc] at htail
      obtain ⟨first, left, second, rfl, hfirst, hsecond, hperm⟩ := ih htail
      refine ⟨y :: first, left, second, rfl, ?_, hsecond, ?_⟩
      · rw [walk, hnext]
        dsimp only
        rw [hfirst]
        rfl
      · exact (hperm.trans (sift_step_perm candidates unseen top)).cons y

/-- What a walk takes between an element and one that it put on the stack is led to from
there on. -/
theorem walk_before_pushed {candidates unseen rest between after : List α} {a b c : α}
    (hnext : next a = .ok candidates)
    (h : walk next (sift candidates unseen).2 ((sift candidates unseen).1.reverse ++ rest) =
      .ok (between ++ b :: after))
    (distinct : (rest ++ unseen).Nodup) (hpushed : c ∈ (sift candidates unseen).1)
    (hc : c ∈ after) :
    b ∈ unseen ∧ ∃ d ∈ a :: between, Follows next d b := by
  have hnodup := walk_nodup h ((sift_step_perm candidates unseen rest).nodup_iff.mpr distinct)
  obtain ⟨first, left, second, hsplit, hfirst, -, hperm⟩ := walk_append h
  -- `c` belongs to the upper part of the stack, so `b` comes before the walk is through with it
  obtain ⟨later, rfl⟩ : ∃ later, first = between ++ b :: later := by
    have hcfirst : c ∈ first := mem_walk_of_mem_stack hfirst c (List.mem_reverse.mpr hpushed)
    have hapart : c ∉ between := fun hmem =>
      (List.nodup_append.mp hnodup).2.2 c hmem c (List.mem_cons_of_mem b hc) rfl
    rcases List.append_eq_append_iff.mp hsplit with ⟨later, rfl, hlater⟩ | ⟨later, rfl, -⟩
    · cases later with
      | nil => exact absurd (by simpa using hcfirst) hapart
      | cons x later =>
        obtain ⟨rfl, -⟩ := List.cons.inj hlater
        exact ⟨later, rfl⟩
    · exact absurd (List.mem_append_left later hcfirst) hapart
  refine ⟨?_, ?_⟩
  · have hmem := hperm.mem_iff.mp (List.mem_append_left left
      (List.mem_append_right between List.mem_cons_self))
    refine (sift_perm candidates unseen).mem_iff.mp ?_
    simpa using hmem
  · rcases walk_discovered hfirst rfl with hb | ⟨d, hd, hdb⟩
    · exact ⟨a, List.mem_cons_self, ((mem_pushed_iff hnext).mp (List.mem_reverse.mp hb)).1⟩
    · exact ⟨d, List.mem_cons_of_mem a hd, hdb⟩

/-- Between an element and one that it is the first to lead to, a walk takes only what the
former, or an element in between, is the first to lead to. -/
theorem walk_nested {before : List α} : ∀ {unseen stack between after : List α} {a b c : α},
    walk next unseen stack = .ok (before ++ a :: (between ++ b :: after)) →
      (stack ++ unseen).Nodup → c ∈ after → c ∈ unseen → Follows next a c →
        (∀ d ∈ before, ¬Follows next d c) →
          b ∈ unseen ∧ (∀ d ∈ before, ¬Follows next d b) ∧
            ∃ d ∈ a :: between, Follows next d b := by
  induction before with
  | nil =>
    intro unseen stack between after a b c h distinct hc hunseen hfollows _
    obtain ⟨rest, candidates, rfl, hnext, htail⟩ := walk_eq_ok_cons h
    obtain ⟨hb, hled⟩ := walk_before_pushed hnext htail (List.nodup_cons.mp distinct).2
      ((mem_pushed_iff hnext).mpr ⟨hfollows, hunseen⟩) hc
    exact ⟨hb, nofun, hled⟩
  | cons top before ih =>
    intro unseen stack between after a b c h distinct hc hunseen hfollows hfirst
    obtain ⟨htop, hbefore⟩ := List.forall_mem_cons.mp hfirst
    obtain ⟨rest, candidates, rfl, hnext, htail⟩ := walk_eq_ok_cons h
    have hrest := (List.nodup_cons.mp distinct).2
    have hsifted := sift_perm candidates unseen
    have hkept : ∀ {y}, y ∈ unseen → ¬Follows next top y → y ∈ (sift candidates unseen).2 := by
      intro y hy hnot
      refine (List.mem_append.mp (hsifted.mem_iff.mpr hy)).resolve_left fun hmoved => hnot ?_
      exact ((mem_pushed_iff hnext).mp hmoved).1
    obtain ⟨hb, hnone, hled⟩ := ih htail
      ((sift_step_perm candidates unseen rest).nodup_iff.mpr hrest) hc (hkept hunseen htop)
      hfollows hbefore
    have hbunseen := hsifted.mem_iff.mp (List.mem_append_right _ hb)
    refine ⟨hbunseen, List.forall_mem_cons.mpr ⟨fun hfollowed => ?_, hnone⟩, hled⟩
    -- had the top led to `b`, it would have moved `b` to the stack
    have hmoved := (mem_pushed_iff hnext).mpr ⟨hfollowed, hbunseen⟩
    have hnodup := hsifted.nodup_iff.mpr hrest.of_append_right
    exact (List.nodup_append.mp hnodup).2.2 b hmoved b hb rfl

/-- A depth-first order among elements that lead only to each other holds, once
each, the elements that can be reached from its first. -/
theorem depthFirst_exact {all : List α} (distinct : all.Nodup) {start : α} (hstart : start ∈ all)
    (closed : ∀ x ∈ all, ∃ candidates, next x = .ok candidates ∧ ∀ y ∈ candidates, y ∈ all) :
    ∃ order, depthFirst next all start = .ok order ∧ order.Nodup ∧ order.head? = some start ∧
      (∀ y ∈ order, y ∈ all) ∧
      ∀ y, y ∈ order ↔ Relation.ReflTransGen (Follows next) start y := by
  have hperm : ([start] ++ all.erase start).Perm all := (List.perm_cons_erase hstart).symm
  obtain ⟨order, horder⟩ := walk_isOk (all.erase start) [start] fun x hx => by
    obtain ⟨candidates, hnext, -⟩ := closed x (hperm.mem_iff.mp hx)
    exact ⟨candidates, hnext⟩
  have hall : ∀ y ∈ order, y ∈ all := fun y hy =>
    hperm.mem_iff.mp (mem_of_mem_walk horder y hy)
  refine ⟨order, horder, walk_nodup horder (hperm.nodup_iff.mpr distinct), ?_, hall, ?_⟩
  · cases order with
    | nil => cases walk_eq_ok_nil horder
    | cons x tail =>
      obtain ⟨rest, _, heq, -⟩ := walk_eq_ok_cons horder
      cases heq
      rfl
  · refine fun y => ⟨fun hy => ?_, fun hreach => ?_⟩
    · obtain ⟨x, hx, hreach⟩ := walk_sound horder y hy
      rw [List.mem_singleton.mp hx] at hreach
      exact hreach
    · induction hreach with
      | refl => exact mem_walk_of_mem_stack horder start (by simp)
      | @tail b c _ hstep ih =>
        obtain ⟨candidates, hnext, hinside⟩ := closed b (hall b ih)
        have hc : c ∈ all := by
          obtain ⟨l, hl, hcl⟩ := hstep
          rw [hnext] at hl
          cases hl
          exact hinside c hcl
        by_cases hstartc : c = start
        · exact hstartc ▸ mem_walk_of_mem_stack horder start (by simp)
        · exact walk_closed horder b ih c ((List.mem_erase_of_ne hstartc).mpr hc) hstep

/-- A depth-first order begins with its start, and goes on with other elements. -/
theorem depthFirst_eq_ok_cons {all : List α} {start x : α} {tail : List α}
    (h : depthFirst next all start = .ok (x :: tail)) :
    x = start ∧ ∀ y ∈ tail, y ∈ all.erase start := by
  obtain ⟨rest, candidates, hstack, -, htail⟩ := walk_eq_ok_cons h
  obtain ⟨rfl, rfl⟩ := List.cons.inj hstack
  refine ⟨rfl, fun y hy => ?_⟩
  exact (sift_step_perm candidates _ []).mem_iff.mp (mem_of_mem_walk htail y hy)

/-- In a depth-first order each element after the first follows one before it. -/
theorem depthFirst_discovered {all : List α} (distinct : all.Nodup) {start : α}
    {before : List α} {x : α} {after : List α}
    (h : depthFirst next all start = .ok (before ++ x :: after)) (hbefore : before ≠ []) :
    ∃ y ∈ before, Follows next y x := by
  refine (walk_discovered h rfl).resolve_left fun hx => ?_
  obtain rfl := List.mem_singleton.mp hx
  cases before with
  | nil => exact hbefore rfl
  | cons first before =>
    have hlater := (depthFirst_eq_ok_cons h).2 x (List.mem_append_right before List.mem_cons_self)
    exact distinct.not_mem_erase hlater

/-- In a depth-first order, what comes between an element and one that it is the first to
lead to is led to from there on, and by none before. -/
theorem depthFirst_nested {all : List α} (distinct : all.Nodup) {start : α} (hstart : start ∈ all)
    {before between after : List α} {a b c : α}
    (h : depthFirst next all start = .ok (before ++ a :: (between ++ b :: after)))
    (hc : c ∈ after) (hfollows : Follows next a c) (hfirst : ∀ d ∈ before, ¬Follows next d c) :
    (∀ d ∈ before, ¬Follows next d b) ∧ ∃ d ∈ a :: between, Follows next d b := by
  have hperm : ([start] ++ all.erase start).Perm all := (List.perm_cons_erase hstart).symm
  have hc' : c ∈ between ++ b :: after := List.mem_append_right _ (List.mem_cons_of_mem b hc)
  have hunseen : c ∈ all.erase start := by
    cases before with
    | nil => exact (depthFirst_eq_ok_cons h).2 c hc'
    | cons first before =>
      exact (depthFirst_eq_ok_cons h).2 c
        (List.mem_append_right before (List.mem_cons_of_mem a hc'))
  exact (walk_nested h (hperm.nodup_iff.mpr distinct) hc hunseen hfollows hfirst).2

end Walk
end GridSetup
