import Mathlib.Data.List.Nodup
import Mathlib.Data.List.Perm.Basic

/-!
# `Lib.Tokens` — objects that move between containers

A system hands objects from one container to another. Each is a token, a number drawn from a counter when
the object is made, and the state's tokens are listed over all containers. A step may reorder them, add the
next number, or lose one (`TokenStep`). Then no token is ever listed twice (`TokenStep.linear`), and one
that is lost stays lost (`TokenStep.gone`): there is one owner at a time, and no resurrection.
-/

namespace Frrpc.Lib

/-- No token twice, and all of them drawn. -/
structure Linear (next : Nat) (tokens : List Nat) : Prop where
  nodup : tokens.Nodup
  drawn : ∀ t ∈ tokens, t < next

/-- What a step may do to the counter and the tokens. -/
inductive TokenStep (next : Nat) (tokens : List Nat) : Nat → List Nat → Prop where
  | kept {tokens' : List Nat} (perm : tokens'.Perm tokens) : TokenStep next tokens next tokens'
  | fresh {tokens' : List Nat} (perm : tokens'.Perm (next :: tokens)) :
      TokenStep next tokens (next + 1) tokens'
  | lost {tokens' : List Nat} (t : Nat) (perm : tokens.Perm (t :: tokens')) :
      TokenStep next tokens next tokens'

theorem linear_nil (next : Nat) : Linear next [] := ⟨List.nodup_nil, fun _ h => by cases h⟩

theorem TokenStep.next_le {next next' : Nat} {tokens tokens' : List Nat}
    (h : TokenStep next tokens next' tokens') : next ≤ next' := by
  cases h with
  | kept _ => exact Nat.le_refl next
  | fresh _ => exact Nat.le_succ next
  | lost _ _ => exact Nat.le_refl next

/-- **One owner at a time.** -/
theorem TokenStep.linear {next next' : Nat} {tokens tokens' : List Nat}
    (h : TokenStep next tokens next' tokens') (hlinear : Linear next tokens) : Linear next' tokens' := by
  cases h with
  | kept perm =>
    exact ⟨perm.nodup_iff.mpr hlinear.nodup, fun t ht => hlinear.drawn t (perm.mem_iff.mp ht)⟩
  | fresh perm =>
    constructor
    · rw [perm.nodup_iff, List.nodup_cons]
      -- the next number was not drawn yet
      exact ⟨fun hmem => Nat.lt_irrefl next (hlinear.drawn next hmem), hlinear.nodup⟩
    · intro t ht
      rcases List.mem_cons.mp (perm.mem_iff.mp ht) with rfl | hmem
      · exact Nat.lt_succ_self t
      · exact Nat.lt_succ_of_lt (hlinear.drawn t hmem)
  | lost t perm =>
    have hcons := perm.nodup_iff.mp hlinear.nodup
    exact ⟨(List.nodup_cons.mp hcons).2,
      fun u hu => hlinear.drawn u (perm.mem_iff.mpr (List.mem_cons_of_mem t hu))⟩

/-- **No resurrection**: a drawn token that is not listed is not listed again. -/
theorem TokenStep.gone {next next' : Nat} {tokens tokens' : List Nat}
    (h : TokenStep next tokens next' tokens') {t : Nat} (hdrawn : t < next) (hgone : t ∉ tokens) :
    t < next' ∧ t ∉ tokens' := by
  cases h with
  | kept perm => exact ⟨hdrawn, fun hmem => hgone (perm.mem_iff.mp hmem)⟩
  | fresh perm =>
    refine ⟨Nat.lt_succ_of_lt hdrawn, fun hmem => ?_⟩
    rcases List.mem_cons.mp (perm.mem_iff.mp hmem) with rfl | hold
    · exact Nat.lt_irrefl t hdrawn
    · exact hgone hold
  | lost u perm => exact ⟨hdrawn, fun hmem => hgone (perm.mem_iff.mpr (List.mem_cons_of_mem u hmem))⟩

/-- Tokens that a step does not touch. -/
theorem TokenStep.append_right {next next' : Nat} {tokens tokens' : List Nat}
    (h : TokenStep next tokens next' tokens') (others : List Nat) :
    TokenStep next (tokens ++ others) next' (tokens' ++ others) := by
  cases h with
  | kept perm => exact .kept (perm.append_right others)
  | fresh perm => exact .fresh (perm.append_right others)
  | lost t perm => exact .lost t (perm.append_right others)

/-- What is lost is no longer listed. -/
theorem Linear.lost {next t : Nat} {tokens tokens' : List Nat} (h : Linear next tokens)
    (perm : tokens.Perm (t :: tokens')) : t < next ∧ t ∉ tokens' :=
  ⟨h.drawn t (perm.mem_iff.mpr List.mem_cons_self), (List.nodup_cons.mp (perm.nodup_iff.mp h.nodup)).1⟩

/-- Changing one list of a list of lists changes the elements of all of them by the same. -/
theorem flatten_set_perm {α : Type} {ls : List (List α)} {i : Nat} {l : List α} (h : ls[i]? = some l)
    (l' : List α) :
    ∃ rest, ls.flatten.Perm (l ++ rest) ∧ (ls.set i l').flatten.Perm (l' ++ rest) := by
  obtain ⟨hi, hget⟩ := List.getElem?_eq_some_iff.mp h
  refine ⟨(ls.eraseIdx i).flatten, ?_, ?_⟩
  · have hperm := (List.getElem_cons_eraseIdx_perm hi).symm.flatten
    rw [List.flatten_cons, hget] at hperm
    exact hperm
  · have hperm := (List.set_perm_cons_eraseIdx hi l').flatten
    rw [List.flatten_cons] at hperm
    exact hperm

/-- The same, counting one token among the images. -/
theorem count_flatten_set {α : Type} (f : α → Nat) {ls : List (List α)} {i : Nat} {l : List α}
    (h : ls[i]? = some l) (l' : List α) (t : Nat) :
    ((ls.set i l').flatten.map f).count t + (l.map f).count t
      = (ls.flatten.map f).count t + (l'.map f).count t := by
  obtain ⟨rest, hold, hnew⟩ := flatten_set_perm h l'
  have hold := (hold.map f).count_eq t
  have hnew := (hnew.map f).count_eq t
  rw [List.map_append, List.count_append] at hold hnew
  omega

end Frrpc.Lib
