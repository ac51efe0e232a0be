import Mathlib.Data.List.Basic

/-!
# `Lib.History` — what happened since the last mark

A history is a list of events, the latest last. `SplitAtLast mark` splits one at the last event that is a
mark: what came before it, and what has come since. An event that is a mark starts a new period, any other
one prolongs the current one. `AtEach` states a property of every event with what came before it.
-/

namespace Frrpc.Lib

variable {ε : Type}

/-- `m` is the last mark of the history. -/
structure SplitAtLast (mark : ε → Prop) (es before : List ε) (m : ε) (since : List ε) : Prop where
  split : es = before ++ m :: since
  marked : mark m
  quiet : ∀ e ∈ since, ¬ mark e

variable {mark : ε → Prop} {es before since : List ε} {m e : ε}

theorem not_splitAtLast_nil : ¬ SplitAtLast mark [] before m since := by
  intro h
  have hlength := congrArg List.length h.split
  rw [List.length_append] at hlength
  exact absurd hlength (Nat.ne_of_lt (Nat.add_pos_right _ (Nat.succ_pos _)))

/-- **A mark starts a new period.** -/
theorem splitAtLast_snoc_mark (he : mark e) :
    SplitAtLast mark (es ++ [e]) before m since ↔ before = es ∧ m = e ∧ since = [] := by
  constructor
  · intro h
    rcases List.eq_nil_or_concat' since with rfl | ⟨since', last, rfl⟩
    · obtain ⟨rfl, hm⟩ := List.append_inj' h.split rfl
      exact ⟨rfl, (List.cons.inj hm).1.symm, rfl⟩
    · -- the mark would be in the quiet period
      have hsplit : es ++ [e] = (before ++ m :: since') ++ [last] := by
        rw [h.split, List.append_assoc, List.cons_append]
      have hlast := (List.cons.inj (List.append_inj' hsplit rfl).2).1
      rw [hlast] at he
      exact absurd he (h.quiet last (List.mem_append_right _ List.mem_cons_self))
  · rintro ⟨rfl, rfl, rfl⟩
    exact ⟨rfl, he, nofun⟩

/-- **Any other event prolongs the period.** -/
theorem splitAtLast_snoc (he : ¬ mark e) :
    SplitAtLast mark (es ++ [e]) before m since ↔
      ∃ since', since = since' ++ [e] ∧ SplitAtLast mark es before m since' := by
  constructor
  · intro h
    rcases List.eq_nil_or_concat' since with rfl | ⟨since', last, rfl⟩
    · obtain ⟨rfl, hm⟩ := List.append_inj' h.split rfl
      rw [(List.cons.inj hm).1] at he
      exact absurd h.marked he
    · have hsplit : es ++ [e] = (before ++ m :: since') ++ [last] := by
        rw [h.split, List.append_assoc, List.cons_append]
      obtain ⟨hes, hlast⟩ := List.append_inj' hsplit rfl
      refine ⟨since', by rw [(List.cons.inj hlast).1], hes, h.marked, ?_⟩
      intro e' he'
      exact h.quiet e' (List.mem_append_left _ he')
  · rintro ⟨since', rfl, h⟩
    refine ⟨by rw [h.split, List.append_assoc, List.cons_append], h.marked, ?_⟩
    intro e' he'
    rcases List.mem_append.mp he' with hold | hnew
    · exact h.quiet e' hold
    · rw [List.mem_singleton.mp hnew]
      exact he

/-- `P` holds of every event and the events before it. -/
def AtEach (P : List ε → ε → Prop) (es : List ε) : Prop :=
  ∀ before e after, es = before ++ e :: after → P before e

variable {P : List ε → ε → Prop}

theorem atEach_nil : AtEach P [] := by
  intro before e after h
  have hlength := congrArg List.length h
  rw [List.length_append] at hlength
  exact absurd hlength (Nat.ne_of_lt (Nat.add_pos_right _ (Nat.succ_pos _)))

/-- **A history grows by one event at a time.** -/
theorem atEach_snoc (h : AtEach P es) (he : P es e) : AtEach P (es ++ [e]) := by
  intro before e' after hsplit
  rcases List.eq_nil_or_concat' after with rfl | ⟨after', last, rfl⟩
  · obtain ⟨rfl, hlast⟩ := List.append_inj' hsplit rfl
    rw [← (List.cons.inj hlast).1]
    exact he
  · rw [← List.cons_append, ← List.append_assoc] at hsplit
    exact h before e' after' (List.append_inj' hsplit rfl).1

/-- It grows by an event, if there is one. -/
theorem atEach_append_option {α : Type} {o : Option α} {f : α → ε} (h : AtEach P es)
    (ho : ∀ a, o = some a → P es (f a)) : AtEach P (es ++ o.toList.map f) := by
  cases o with
  | none => simpa using h
  | some a => exact atEach_snoc h (ho a rfl)

end Frrpc.Lib
