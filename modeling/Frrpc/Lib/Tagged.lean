import Mathlib.Data.Multiset.OrderedMonoid

/-!
# `Lib.Tagged` — what the parts of a system hold, as one multiset

`tagged f parts` lists what every part holds, each item with the position of its part, and forgets the order.
How often an item occurs at a position is read off that part alone (`count_tagged`), so a change of the parts
is compared part by part.
-/

namespace Frrpc.Lib

variable {α β : Type} [DecidableEq β]

/-- Every item that a part holds, with the position of the part. -/
def tagged (f : α → List β) (parts : List α) : Multiset (Nat × β) :=
  ↑(parts.zipIdx.flatMap fun p => (f p.1).map fun b => (p.2, b))

theorem count_map_tag [BEq (Nat × β)] [LawfulBEq (Nat × β)] (bs : List β) (i j : Nat) (b : β) :
    (bs.map fun b => (j, b)).count (i, b) = if j = i then bs.count b else 0 := by
  split
  · next h =>
    subst h
    exact List.count_map_of_injective bs (fun b => (j, b)) (fun b b' h => (Prod.mk.inj h).2) b
  · next h =>
    refine List.count_eq_zero.mpr fun hmem => ?_
    obtain ⟨_, _, heq⟩ := List.mem_map.mp hmem
    exact h (Prod.mk.inj heq).1

theorem count_flatMap_zipIdx [BEq (Nat × β)] [LawfulBEq (Nat × β)] (f : α → List β) (parts : List α)
    (k i : Nat) (b : β) :
    ((parts.zipIdx k).flatMap fun p => (f p.1).map fun b => (p.2, b)).count (i, b)
      = if k ≤ i then ((parts[i - k]?.map f).getD []).count b else 0 := by
  induction parts generalizing k with
  | nil => simp
  | cons part parts ih =>
    rw [List.zipIdx_cons, List.flatMap_cons, List.count_append, ih (k + 1), count_map_tag]
    by_cases hki : k = i
    · -- the item's own part is the first one
      subst hki
      simp
    · by_cases hle : k ≤ i
      · obtain ⟨d, hd⟩ := Nat.exists_eq_add_of_lt (Nat.lt_of_le_of_ne hle hki)
        have hsub : i - k = d + 1 := by omega
        have hsub' : i - (k + 1) = d := by omega
        rw [if_neg hki, if_pos (by omega), if_pos hle, hsub, hsub', List.getElem?_cons_succ, Nat.zero_add]
      · rw [if_neg hki, if_neg (by omega), if_neg hle]

/-- **An item occurs at a position as often as the part there holds it.** -/
theorem count_tagged (f : α → List β) (parts : List α) (i : Nat) (b : β) :
    (tagged f parts).count (i, b) = ((parts[i]?.map f).getD []).count b := by
  rw [tagged, Multiset.coe_count]
  exact @count_flatMap_zipIdx α β _ instBEqOfDecidableEq inferInstance f parts 0 i b

end Frrpc.Lib
