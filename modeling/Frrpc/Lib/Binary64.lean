import Mathlib.Data.Nat.Log
import Mathlib.Tactic.Ring

/-!
# `Lib.Binary64` — integers in double precision

A double has a 53-bit significand, so of the integers around `n` only the multiples of `ulp n` are
doubles. `roundNat` is rounding to nearest, ties to even, of a natural number; a result of integer
arithmetic in double precision is exact when it is `Representable`.
-/

namespace Frrpc.Lib

/-- The distance between neighbouring doubles at `n`, never finer than one. -/
def ulp (n : Nat) : Nat := 2 ^ (Nat.log2 n - 52)

/-- Round to the nearest double, ties to the one with an even significand. -/
def roundNat (n : Nat) : Nat :=
  if 2 * (n % ulp n) < ulp n then n / ulp n * ulp n
  else if ulp n < 2 * (n % ulp n) then (n / ulp n + 1) * ulp n
  else (n / ulp n + n / ulp n % 2) * ulp n

/-- Rounding is symmetric about zero. -/
def roundInt (z : Int) : Int := if z < 0 then -(roundNat z.natAbs : Int) else roundNat z.natAbs

/-- `n` is a double. -/
def Representable (n : Nat) : Prop := ulp n ∣ n

instance (n : Nat) : Decidable (Representable n) := inferInstanceAs (Decidable (ulp n ∣ n))

theorem ulp_pos (n : Nat) : 0 < ulp n := Nat.two_pow_pos _

/-- **Rounding leaves exactly the representable numbers alone.** -/
theorem roundNat_eq_self_iff {n : Nat} : roundNat n = n ↔ Representable n := by
  constructor
  · intro h
    rw [Representable]
    unfold roundNat at h
    split at h
    · exact ⟨_, by rw [Nat.mul_comm]; exact h.symm⟩
    · split at h
      · exact ⟨_, by rw [Nat.mul_comm]; exact h.symm⟩
      · exact ⟨_, by rw [Nat.mul_comm]; exact h.symm⟩
  · intro h
    have hmod : n % ulp n = 0 := Nat.mod_eq_zero_of_dvd h
    rw [roundNat, hmod, if_pos (by simpa using ulp_pos n), Nat.div_mul_cancel h]

theorem representable_of_lt {n : Nat} (h : n < 2 ^ 53) : Representable n := by
  have hlog : Nat.log2 n - 52 = 0 := by
    rcases Nat.eq_zero_or_pos n with rfl | hpos
    · rfl
    · have := (Nat.log2_lt (by omega)).mpr h
      omega
  rw [Representable, ulp, hlog]
  exact Nat.one_dvd n

theorem ulp_le {n k : Nat} (h : n < 2 ^ (53 + k)) : ulp n ≤ 2 ^ k := by
  rcases Nat.eq_zero_or_pos n with rfl | hpos
  · exact Nat.one_le_two_pow
  · have hlog : Nat.log2 n < 53 + k := (Nat.log2_lt (by omega)).mpr h
    exact Nat.pow_le_pow_right (by decide) (by omega)

/-- Rounding up moves by less than the distance to the next double. -/
theorem roundNat_le (n : Nat) : roundNat n ≤ n + ulp n := by
  have hdiv : n / ulp n * ulp n ≤ n := Nat.div_mul_le_self n (ulp n)
  have hsucc : (n / ulp n + 1) * ulp n = n / ulp n * ulp n + ulp n := Nat.succ_mul _ _
  unfold roundNat
  split
  · omega
  · split
    · omega
    · have heven : n / ulp n + n / ulp n % 2 ≤ n / ulp n + 1 := by omega
      have := Nat.mul_le_mul_right (ulp n) heven
      omega

/-- A 53-bit number keeps being a double when it is scaled by a power of two. -/
theorem representable_mul_two_pow {m : Nat} (h : m < 2 ^ 53) (k : Nat) : Representable (m * 2 ^ k) := by
  rcases Nat.eq_zero_or_pos m with rfl | hpos
  · rw [Nat.zero_mul]; exact representable_of_lt (by decide)
  · have hlog : Nat.log2 (m * 2 ^ k) < 53 + k := by
      rw [Nat.log2_lt (Nat.pos_iff_ne_zero.mp (Nat.mul_pos hpos (Nat.two_pow_pos k))), Nat.pow_add]
      exact Nat.mul_lt_mul_of_pos_right h (Nat.two_pow_pos k)
    rw [Representable, ulp]
    exact Nat.dvd_trans (Nat.pow_dvd_pow 2 (by omega)) (Nat.dvd_mul_left _ _)

theorem roundInt_natCast (n : Nat) : roundInt n = roundNat n := by
  rw [roundInt, if_neg (by omega), Int.natAbs_natCast]

end Frrpc.Lib
