import Mathlib.Data.List.Basic
import Mathlib.Data.List.TakeWhile

/-!
# `Lib.Sweep` — taking what is due from the front of a list

A list is kept in the order its elements fall due. Taking elements from the front for as long as they are due
then takes all that are due, and leaves all that are not: what is due is due before whatever comes after it.
In any order, what one sweep is to come to stays within its reach, whatever is appended and however far other
sweeps go before it.
-/

namespace Frrpc.Lib

variable {α : Type} {due : α → Bool} {xs : List α}

/-- Nothing that is not due stands before something that is. -/
def DueInOrder (due : α → Bool) (xs : List α) : Prop := xs.Pairwise fun a b => due b = true → due a = true

theorem DueInOrder.of_pairwise {r : α → α → Prop} (h : xs.Pairwise r)
    (hdue : ∀ a b, r a b → due b = true → due a = true) : DueInOrder due xs :=
  h.imp (hdue _ _)

/-- **The sweep takes exactly what is due.** -/
theorem DueInOrder.takeWhile_eq_filter (h : DueInOrder due xs) : xs.takeWhile due = xs.filter due := by
  induction xs with
  | nil => rfl
  | cons a xs ih =>
    obtain ⟨hhead, htail⟩ := List.pairwise_cons.mp h
    by_cases hdue : due a = true
    · rw [List.takeWhile_cons_of_pos hdue, List.filter_cons_of_pos hdue, ih htail]
    · have hnone : xs.filter due = [] :=
        List.filter_eq_nil_iff.mpr fun b hb hdueb => hdue (hhead b hb hdueb)
      rw [List.takeWhile_cons_of_neg hdue, List.filter_cons_of_neg hdue, hnone]

/-- **The sweep leaves exactly what is not due.** -/
theorem DueInOrder.dropWhile_eq_filter (h : DueInOrder due xs) :
    xs.dropWhile due = xs.filter fun a => !due a := by
  induction xs with
  | nil => rfl
  | cons a xs ih =>
    obtain ⟨hhead, htail⟩ := List.pairwise_cons.mp h
    by_cases hdue : due a = true
    · rw [List.dropWhile_cons_of_pos hdue, List.filter_cons_of_neg (by simp [hdue]), ih htail]
    · have hall : xs.filter (fun a => !due a) = xs :=
        List.filter_eq_self.mpr fun b hb => by simpa using fun hdueb => hdue (hhead b hb hdueb)
      rw [List.dropWhile_cons_of_neg hdue, List.filter_cons_of_pos (by simpa using hdue), hall]

/-! ## What a sweep comes to -/

variable {due' : α → Bool} {a : α}

/-- A sweep of more goes further. -/
theorem takeWhile_subset_of_imp (h : ∀ a, due a = true → due' a = true) :
    xs.takeWhile due ⊆ xs.takeWhile due' := by
  have hboth : (fun a => decide (due a = true ∧ due' a = true)) = due := by
    funext a
    rw [Bool.eq_iff_iff, decide_eq_true_eq]
    exact and_iff_left_of_imp (h a)
  have htwice := List.takeWhile_takeWhile due due' xs
  rw [hboth] at htwice
  rw [← htwice]
  exact List.takeWhile_subset due

/-- What is appended does not stand in its way. -/
theorem takeWhile_subset_append (ys : List α) : xs.takeWhile due ⊆ (xs ++ ys).takeWhile due := by
  rw [List.takeWhile_append]
  split
  · exact fun a ha => List.mem_append_left _ (List.takeWhile_subset due ha)
  · exact fun a ha => ha

variable (due') in
/-- **Another sweep comes to it first, or leaves it within reach.** -/
theorem mem_takeWhile_or_dropWhile (h : a ∈ xs.takeWhile due) :
    a ∈ xs.takeWhile due' ∨ a ∈ (xs.dropWhile due').takeWhile due := by
  induction xs with
  | nil => cases h
  | cons b xs ih =>
    by_cases hother : due' b = true
    · rw [List.takeWhile_cons_of_pos hother, List.dropWhile_cons_of_pos hother]
      by_cases hdue : due b = true
      · rw [List.takeWhile_cons_of_pos hdue] at h
        rcases List.mem_cons.mp h with rfl | h
        · exact Or.inl List.mem_cons_self
        · exact (ih h).imp (List.mem_cons_of_mem b) id
      · rw [List.takeWhile_cons_of_neg hdue] at h
        cases h
    · rw [List.dropWhile_cons_of_neg hother]
      exact Or.inr h

end Frrpc.Lib
