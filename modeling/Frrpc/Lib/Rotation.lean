import Mathlib.Data.List.Perm.Basic
import Mathlib.Order.Interval.Finset.Nat

/-!
# `Lib.Rotation` — taking turns

`rotation n c k` are the positions of `k` turns among `n`, from the number `c` on: `c % n`, `(c + 1) % n` and so
on. Where the turns start does not matter: `n` turns in a row take each position once (`rotation_perm`), and
after any number of turns no position is more than one ahead of another (`rotation_balanced`).
-/

namespace Frrpc.Lib

/-- The positions of `k` turns among `n`, from the number `c` on. -/
def rotation (n c k : Nat) : List Nat := (List.range' c k).map (· % n)

theorem length_rotation (n c k : Nat) : (rotation n c k).length = k := by
  rw [rotation, List.length_map, List.length_range']

theorem rotation_succ (n c k : Nat) : rotation n c (k + 1) = c % n :: rotation n (c + 1) k := by
  rw [rotation, List.range'_succ, List.map_cons, rotation]

/-- Only the position of the first turn matters, not its number. -/
theorem rotation_mod (n c k : Nat) : rotation n (c % n) k = rotation n c k := by
  induction k generalizing c with
  | zero => rfl
  | succ k ih =>
    rw [rotation_succ, rotation_succ, Nat.mod_mod, ← ih (c % n + 1), ← ih (c + 1), Nat.mod_add_mod]

theorem rotation_add (n c k l : Nat) : rotation n c (k + l) = rotation n c k ++ rotation n (c + k) l := by
  rw [rotation, rotation, rotation, ← List.map_append, List.range'_append_1]

/-- `m` turns in a row, out of a rotation. -/
theorem rotation_window {n c k i m : Nat} (h : i + m ≤ k) :
    ((rotation n c k).drop i).take m = rotation n (c + i) m := by
  obtain ⟨l, rfl⟩ := Nat.exists_eq_add_of_le h
  rw [Nat.add_assoc, rotation_add, List.drop_left' (length_rotation n c i), rotation_add,
    List.take_left' (length_rotation n (c + i) m)]

/-- **`n` turns in a row take each position once.** -/
theorem rotation_perm (n c : Nat) : (rotation n c n).Perm (List.range n) := by
  have hmap := Nat.multiset_Ico_map_mod c n
  have hIco : Multiset.Ico c (c + n) = ↑(List.range' c n) := by
    show ((List.range' c (c + n - c) : List Nat) : Multiset Nat) = _
    rw [Nat.add_sub_cancel_left]
  rw [hIco, Multiset.map_coe, Multiset.range] at hmap
  exact Multiset.coe_eq_coe.mp hmap

/-- In fewer turns none is taken twice. -/
theorem count_rotation_le {n k : Nat} (hk : k ≤ n) (c p : Nat) : (rotation n c k).count p ≤ 1 := by
  have hnodup : (rotation n c n).Nodup := (rotation_perm n c).nodup_iff.mpr List.nodup_range
  obtain ⟨l, rfl⟩ := Nat.exists_eq_add_of_le hk
  rw [rotation_add] at hnodup
  exact List.nodup_iff_count_le_one.mp (List.nodup_append.mp hnodup).1 p

/-- **No position is more than one turn ahead of another.** -/
theorem rotation_balanced {n : Nat} (c k : Nat) {p q : Nat} (hq : q < n) :
    (rotation n c k).count p ≤ (rotation n c k).count q + 1 := by
  induction k using Nat.strong_induction_on generalizing c with
  | _ k ih =>
    by_cases hk : k ≤ n
    · exact Nat.le_trans (count_rotation_le hk c p) (Nat.le_add_left 1 _)
    · -- a whole round gives every position one turn
      obtain ⟨l, rfl⟩ := Nat.exists_eq_add_of_le (Nat.le_of_not_le hk)
      have hround : (rotation n c n).count q = 1 := by
        rw [(rotation_perm n c).count_eq, List.count_eq_one_of_mem List.nodup_range (List.mem_range.mpr hq)]
      have hle := count_rotation_le (Nat.le_refl n) c p
      have hrest := ih l (by omega) (c + n)
      rw [rotation_add, List.count_append, List.count_append]
      omega

end Frrpc.Lib
