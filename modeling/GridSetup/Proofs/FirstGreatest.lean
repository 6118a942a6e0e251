import Mathlib.Order.Basic

/-! # The first of the greatest

A scan that gives up what it has only for something greater ends with the first of the
greatest elements. -/

namespace GridSetup

variable {α β : Type} [Preorder β] {rank : α → β} {l : List α} {x y : α}

/-- Of the elements of a list this is the first of the greatest rank. -/
def FirstGreatest (rank : α → β) (l : List α) (x : α) : Prop :=
  ∃ before after, l = before ++ x :: after ∧
    (∀ y ∈ before, rank y < rank x) ∧ ∀ y ∈ after, rank y ≤ rank x

namespace FirstGreatest

theorem mem (h : FirstGreatest rank l x) : x ∈ l := by
  obtain ⟨before, after, rfl, -⟩ := h
  exact List.mem_append_right before List.mem_cons_self

theorem le (h : FirstGreatest rank l x) : ∀ y ∈ l, rank y ≤ rank x := by
  obtain ⟨before, after, rfl, hbefore, hafter⟩ := h
  intro y hy
  rcases List.mem_append.mp hy with hy | hy
  · exact (hbefore y hy).le
  · rcases List.mem_cons.mp hy with rfl | hy
    · exact le_rfl
    · exact hafter y hy

theorem unique (hx : FirstGreatest rank l x) (hy : FirstGreatest rank l y) : x = y := by
  -- an element with a later one of at least its rank before it is not the first
  have later : ∀ {x y : α} {before gap after : List α},
      (∀ z ∈ before ++ x :: gap, rank z < rank y) →
        (∀ z ∈ gap ++ y :: after, rank z ≤ rank x) → False := by
    intro x y before gap after hlt hle
    have hxy := hlt x (List.mem_append_right before List.mem_cons_self)
    have hyx := hle y (List.mem_append_right gap List.mem_cons_self)
    exact not_lt_of_ge hyx hxy
  obtain ⟨before, after, rfl, hbefore, hafter⟩ := hx
  obtain ⟨before', after', heq, hbefore', hafter'⟩ := hy
  rcases List.append_eq_append_iff.mp heq with ⟨gap, rfl, hgap⟩ | ⟨gap, rfl, hgap⟩
  · cases gap with
    | nil => exact (List.cons.inj hgap).1
    | cons z gap =>
      obtain ⟨rfl, rfl⟩ := List.cons.inj hgap
      exact (later hbefore' hafter).elim
  · cases gap with
    | nil => exact (List.cons.inj hgap).1.symm
    | cons z gap =>
      obtain ⟨rfl, rfl⟩ := List.cons.inj hgap
      exact (later hbefore hafter').elim

theorem concat_greater (h : ∀ y ∈ l, rank y < rank x) : FirstGreatest rank (l ++ [x]) x :=
  ⟨l, [], rfl, h, nofun⟩

theorem concat_le (h : FirstGreatest rank l x) (hle : rank y ≤ rank x) :
    FirstGreatest rank (l ++ [y]) x := by
  obtain ⟨before, after, rfl, hbefore, hafter⟩ := h
  exact ⟨before, after ++ [y], by simp, hbefore,
    List.forall_mem_append.mpr ⟨hafter, List.forall_mem_singleton.mpr hle⟩⟩

end FirstGreatest
end GridSetup
