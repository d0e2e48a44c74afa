import Mathlib.Data.List.TakeWhile

/-!
# Lists cut at an element

How a list with a new element at its end is cut (`concat_eq_append_cons_iff`), what stands before its
elements (`forall_not_mem_before_iff`), and what is taken and dropped up to the first element that
fails a test.
-/

namespace Toolbox

section
variable {α : Type} {x : α} {before after : List α}

theorem concat_eq_append_cons_iff {xs : List α} {c : α} :
    xs ++ [c] = before ++ x :: after ↔
      (after = [] ∧ xs = before ∧ c = x) ∨
        ∃ after', after = after' ++ [c] ∧ xs = before ++ x :: after' := by
  constructor
  · intro h
    rcases List.eq_nil_or_concat after with rfl | ⟨after', y, rfl⟩
    · obtain ⟨hxs, hc⟩ := List.append_inj' h rfl
      exact Or.inl ⟨rfl, hxs, (List.cons.inj hc).1⟩
    · rw [List.concat_eq_append, ← List.cons_append, ← List.append_assoc] at h
      obtain ⟨hxs, hc⟩ := List.append_inj' h rfl
      obtain ⟨rfl, -⟩ := List.cons.inj hc
      exact Or.inr ⟨after', List.concat_eq_append, hxs⟩
  · rintro (⟨rfl, rfl, rfl⟩ | ⟨after', rfl, rfl⟩)
    · rfl
    · simp

/-- What is in front of some element is in front of the last one. -/
theorem forall_not_mem_before_iff {β : Type} (g : α → β) {y : β} {xs : List α} :
    (∀ before a after, xs = before ++ a :: after → y ∉ before.map g) ↔ y ∉ (xs.map g).dropLast := by
  rw [← List.map_dropLast]
  constructor
  · intro h
    rcases List.eq_nil_or_concat xs with rfl | ⟨front, last, rfl⟩
    · exact List.not_mem_nil
    · rw [List.concat_eq_append, List.dropLast_concat]
      exact h front last [] List.concat_eq_append
  · rintro h before a after rfl hmem
    rw [List.dropLast_append_of_ne_nil (List.cons_ne_nil a after), List.map_append] at h
    exact h (List.mem_append_left _ hmem)

variable {p : α → Bool}

theorem takeWhile_append_cons (h : ∀ a ∈ before, p a = true) (hx : p x = false) :
    (before ++ x :: after).takeWhile p = before := by
  rw [List.takeWhile_append_of_pos h, List.takeWhile_cons_of_neg (by simp [hx]), List.append_nil]

theorem dropWhile_append_cons (h : ∀ a ∈ before, p a = true) (hx : p x = false) :
    (before ++ x :: after).dropWhile p = x :: after := by
  rw [List.dropWhile_append_of_pos h, List.dropWhile_cons_of_neg (by simp [hx])]

theorem mem_dropWhile {xs : List α} (h : x ∈ xs) (hx : p x = false) : x ∈ xs.dropWhile p := by
  rw [← List.takeWhile_append_dropWhile (p := p) (l := xs), List.mem_append] at h
  rcases h with h | h
  · have hpass : p x = true := List.mem_takeWhile_imp h
    rw [hx] at hpass
    cases hpass
  · exact h

theorem dropWhile_eq_self [BEq α] [LawfulBEq α] {xs : List α} (h : x ∉ xs) :
    xs.dropWhile (· == x) = xs := by
  cases xs with
  | nil => rfl
  | cons a xs =>
    have hne : a ≠ x := fun he => h (he ▸ List.mem_cons_self)
    exact List.dropWhile_cons_of_neg (by simp [hne])

end

end Toolbox
