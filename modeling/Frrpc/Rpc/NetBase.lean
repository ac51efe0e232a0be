import Frrpc.Public.Net
import Frrpc.Public.Serializable

/-!
# `Rpc.NetBase` — what the endpoints share (`rpc_base_net.cpp`, `frrpc_function.h`)
-/

namespace Frrpc

open Lib

/-- `RpcBaseNet::GetAndCheckPacketSize` on the size word at `binary.buffer(offset)`. -/
def getAndCheckPacketSize (binary : Bytes) (offset : Int) : Except Failure Nat := do
  let size ← readNumber sizeofPacketSize binary offset
  if netPacketMaxSize ≤ size then throw .refused
  else if size = 0 then throw .refused
  else return size

/-- The loop of an endpoint's `OnReceive`, over the channel or server `σ`: while more than a size word is
    `left` (in terms of the `int32_t` offset and the `size_t` read size), handle `one` frame, which yields
    the size it declares, or nothing when it is incomplete. Both positions move on by the same amount, each
    in its own type. A frame is at least five bytes, so a buffer's length is fuel enough. -/
def receiveLoop {σ : Type} (left : Int → Nat → Nat)
    (one : σ → Int → Nat → Except Failure (Option (σ × Nat))) :
    Nat → σ → Int → Nat → Reception σ
  | 0, s, _, readSize => ⟨s, readSize, .error .undefined⟩
  | fuel + 1, s, offset, readSize =>
    if sizeofPacketSize < left offset readSize then
      match one s offset readSize with
      | .error e => ⟨s, readSize, .error e⟩
      | .ok none => ⟨s, readSize, .ok ()⟩
      | .ok (some (s, size)) =>
        receiveLoop left one fuel s (int32 (offset + (size + sizeofPacketSize)))
          (readSize + (size + sizeofPacketSize))
    else ⟨s, readSize, .ok ()⟩

/-- The loop of `GetNumberLength`; every round but the last divides a positive number by ten. -/
def getNumberLengthLoop : Nat → Nat → Nat → Nat
  | 0, length, _ => length
  | fuel + 1, length, integer =>
    if 0 < integer / 10 then getNumberLengthLoop fuel (length + 1) (integer / 10) else length + 1

/-- The number of decimal digits. -/
def getNumberLength (integer : Nat) : Nat := getNumberLengthLoop (integer + 1) 0 integer

/-- **The loop counts decimal digits**: from any start it adds the number of digits of `integer`. -/
theorem getNumberLengthLoop_spec {fuel integer : Nat} (hfuel : integer < fuel) (length : Nat) :
    ∃ k, getNumberLengthLoop fuel length integer = length + k ∧ 0 < k ∧
      ∀ e, 0 < e → (integer < 10 ^ e ↔ k ≤ e) := by
  induction fuel generalizing integer length with
  | zero => omega
  | succ fuel ih =>
    unfold getNumberLengthLoop
    split
    · rename_i hpos
      obtain ⟨k, hk, hkpos, hiff⟩ := @ih (integer / 10) (by omega) (length + 1)
      refine ⟨k + 1, by rw [hk]; omega, by omega, fun e he => ?_⟩
      obtain ⟨e, rfl⟩ := Nat.exists_eq_succ_of_ne_zero (Nat.pos_iff_ne_zero.mp he)
      have hdiv : integer < 10 ^ e.succ ↔ integer / 10 < 10 ^ e := by
        rw [Nat.div_lt_iff_lt_mul (by decide), Nat.pow_succ]
      rw [hdiv]
      rcases Nat.eq_zero_or_pos e with rfl | he'
      · simp only [Nat.pow_zero]; omega
      · rw [hiff e he']; omega
    · rename_i hzero
      refine ⟨1, rfl, by decide, fun e he => ⟨fun _ => he, fun _ => ?_⟩⟩
      have hten : 10 ^ 1 ≤ 10 ^ e := Nat.pow_le_pow_right (by decide) he
      omega

theorem lt_ten_pow_iff {integer e : Nat} (he : 0 < e) :
    integer < 10 ^ e ↔ getNumberLength integer ≤ e := by
  obtain ⟨k, hk, _, hiff⟩ := getNumberLengthLoop_spec (Nat.lt_succ_self integer) 0
  rw [getNumberLength, hk, hiff e he, Nat.zero_add]

theorem getNumberLength_pos (integer : Nat) : 0 < getNumberLength integer := by
  obtain ⟨k, hk, hpos, _⟩ := getNumberLengthLoop_spec (Nat.lt_succ_self integer) 0
  rw [getNumberLength, hk]; omega

end Frrpc
