/-
  ClientGen/Proofs/Related.lean
  =============================
  **Lists related element by element.**

  What is written for the elements of a list, one after another, is related to them by
  `List.Forall₂`.  An element, a part or a search on one side has its partner on the other.
-/
import Mathlib.Data.List.Forall2

namespace ClientGen

variable {α β : Type} {R : α → β → Prop} {xs : List α} {ys ys' : List β}

theorem exists_sublist_of_forall₂ (h : List.Forall₂ R xs ys) (hys : ys'.Sublist ys) :
    ∃ xs' : List α, xs'.Sublist xs ∧ List.Forall₂ R xs' ys' := by
  induction hys generalizing xs with
  | slnil =>
    cases h
    exact ⟨[], .slnil, .nil⟩
  | cons y _ ih =>
    cases h with
    | @cons x _ xs _ _ hrest =>
      obtain ⟨xs', hxs', hrel⟩ := ih hrest
      exact ⟨xs', hxs'.cons x, hrel⟩
  | cons_cons y _ ih =>
    cases h with
    | @cons x _ xs _ hxy hrest =>
      obtain ⟨xs', hxs', hrel⟩ := ih hrest
      exact ⟨x :: xs', hxs'.cons_cons x, .cons hxy hrel⟩

theorem forall₂_filterMap {pick : α → Option β} (h : ∀ x ∈ xs, ∃ y, pick x = some y ∧ R x y) :
    List.Forall₂ R xs (xs.filterMap pick) := by
  induction xs with
  | nil => exact .nil
  | cons x xs ih =>
    obtain ⟨y, hpick, hxy⟩ := h x List.mem_cons_self
    rw [List.filterMap_cons_some hpick]
    exact .cons hxy (ih fun z hz => h z (List.mem_cons_of_mem _ hz))

theorem exists_mem_of_forall₂ (h : List.Forall₂ R xs ys) {x : α} (hx : x ∈ xs) :
    ∃ y ∈ ys, R x y := by
  induction h with
  | nil => cases hx
  | cons hxy _ ih =>
    rcases List.mem_cons.mp hx with rfl | hx
    · exact ⟨_, List.mem_cons_self, hxy⟩
    · obtain ⟨y, hy, hrel⟩ := ih hx
      exact ⟨y, List.mem_cons_of_mem _ hy, hrel⟩

theorem find?_of_forall₂ (h : List.Forall₂ R xs ys) {p : α → Bool} {q : β → Bool}
    (hpq : ∀ x y, R x y → p x = q y) :
    (xs.find? p = none ∧ ys.find? q = none)
      ∨ ∃ x y, xs.find? p = some x ∧ ys.find? q = some y ∧ R x y := by
  induction h with
  | nil => exact .inl ⟨rfl, rfl⟩
  | @cons x y xs ys hxy _ ih =>
    rw [List.find?_cons, List.find?_cons, ← hpq x y hxy]
    cases p x with
    | true => exact .inr ⟨x, y, rfl, rfl, hxy⟩
    | false => exact ih

theorem eq_singleton_of_forall₂ {x : α} (h : List.Forall₂ R [x] ys) : ∃ y, ys = [y] ∧ R x y := by
  cases h with
  | @cons _ y _ _ hxy hrest =>
    cases hrest
    exact ⟨y, rfl, hxy⟩

end ClientGen
