import Mathlib.Data.List.Basic
import Mathlib.Tactic.Ring

/-!
# `Lib.Bytes` — byte strings and fixed-width little-endian words

A byte string is a `List UInt8`. `le w n` lays the low `w` bytes of `n` out least significant first and
`ofLe` reads them back, so `ofLe (le w n) = n % 256 ^ w`. `window` is a bounds-checked read of `n` bytes
at a signed offset: an address outside the string has no value.
-/

namespace Frrpc.Lib

abbrev Bytes := List UInt8

/-- The low `w` bytes of `n`, least significant first. -/
def le : Nat → Nat → Bytes
  | 0, _ => []
  | w + 1, n => UInt8.ofNat n :: le w (n / 256)

/-- The number a little-endian byte string spells. -/
def ofLe : Bytes → Nat
  | [] => 0
  | b :: bs => b.toNat + 256 * ofLe bs

@[simp] theorem le_length (w n : Nat) : (le w n).length = w := by
  induction w generalizing n with
  | zero => rfl
  | succ w ih => simp [le, ih]

theorem ofLe_le (w n : Nat) : ofLe (le w n) = n % 256 ^ w := by
  induction w generalizing n with
  | zero => simp [le, ofLe, Nat.mod_one]
  | succ w ih =>
    have hbyte : (UInt8.ofNat n).toNat = n % 256 := UInt8.toNat_ofNat'
    rw [le, ofLe, hbyte, ih, Nat.pow_succ, Nat.mul_comm (256 ^ w) 256, Nat.mod_mul]

/-- **A word that fits its width survives the trip.** -/
theorem ofLe_le_of_lt {w n : Nat} (h : n < 256 ^ w) : ofLe (le w n) = n := by
  rw [ofLe_le, Nat.mod_eq_of_lt h]

theorem ofLe_lt (bs : Bytes) : ofLe bs < 256 ^ bs.length := by
  induction bs with
  | nil => simp [ofLe]
  | cons b bs ih =>
    have hb := b.toNat_lt
    rw [ofLe, List.length_cons, Nat.pow_succ]
    omega

/-! ## Bounds-checked reads -/

/-- The `n` bytes at offset `off`; an address outside the string has no value. -/
def window (bs : Bytes) (off : Int) (n : Nat) : Option Bytes :=
  if 0 ≤ off ∧ off + n ≤ bs.length then some ((bs.drop off.toNat).take n) else none

theorem window_neg {bs : Bytes} {off : Int} {n : Nat} (h : off < 0) : window bs off n = none := by
  unfold window
  rw [if_neg (by omega)]

/-- **A read that stays inside a piece of the string sees only that piece.** -/
theorem window_append (pre mid suf : Bytes) {off : Int} {i n : Nat}
    (hoff : off = pre.length + i) (hi : i + n ≤ mid.length) :
    window (pre ++ mid ++ suf) off n = some ((mid.drop i).take n) := by
  unfold window
  rw [if_pos (by simp only [List.length_append]; omega)]
  have hnat : off.toNat = pre.length + i := by omega
  rw [hnat, List.append_assoc, List.drop_append, List.drop_of_length_le (by omega),
    List.nil_append, Nat.add_sub_cancel_left, List.drop_append_of_le_length (by omega),
    List.take_append_of_le_length (by rw [List.length_drop]; omega)]

/-- A read has a value when it stays inside the string. -/
theorem window_isSome_iff {bs : Bytes} {off : Int} {n : Nat} :
    (window bs off n).isSome ↔ 0 ≤ off ∧ off + n ≤ bs.length := by
  unfold window
  split <;> simp_all

/-- A read inside the string does not see what follows it. -/
theorem window_append_right {bs : Bytes} {off : Int} {n : Nat} (h : 0 ≤ off ∧ off + n ≤ bs.length)
    (rest : Bytes) : window (bs ++ rest) off n = window bs off n := by
  unfold window
  rw [if_pos h, if_pos (by simp only [List.length_append]; omega),
    List.drop_append_of_le_length (by omega),
    List.take_append_of_le_length (by rw [List.length_drop]; omega)]

/-- The word of `w` bytes at offset `off`. -/
def wordAt (w : Nat) (bs : Bytes) (off : Int) : Option Nat := (window bs off w).map ofLe

theorem wordAt_neg {w : Nat} {bs : Bytes} {off : Int} (h : off < 0) : wordAt w bs off = none := by
  rw [wordAt, window_neg h]; rfl

theorem wordAt_append {w : Nat} (pre mid suf : Bytes) {off : Int} {i : Nat}
    (hoff : off = pre.length + i) (hi : i + w ≤ mid.length) :
    wordAt w (pre ++ mid ++ suf) off = some (ofLe ((mid.drop i).take w)) := by
  rw [wordAt, window_append pre mid suf hoff hi]; rfl

theorem wordAt_lt {w : Nat} {bs : Bytes} {off : Int} {n : Nat} (h : wordAt w bs off = some n) :
    n < 256 ^ w := by
  obtain ⟨word, hword, rfl⟩ := Option.map_eq_some_iff.mp h
  have hlen : word.length ≤ w := by
    unfold window at hword
    split at hword
    · cases hword; exact List.length_take_le ..
    · cases hword
  exact (ofLe_lt word).trans_le (Nat.pow_le_pow_right (by decide) hlen)

end Frrpc.Lib
