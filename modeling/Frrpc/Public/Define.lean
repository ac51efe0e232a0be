import Frrpc.Lib.Bytes

/-!
# `Public.Define` — the shared integer types and limits (`public_define.h`, `route_define.h`)

Sizes and offsets are numbers with their narrowing written out: `uint16`, `uint32` and `int32` are what a
C++ assignment to the narrower type keeps. Functions that can fail return `Except Failure`.
-/

namespace Frrpc

open Lib

abbrev Socket := Int32
abbrev LinkID := UInt64
abbrev RpcRequestId := UInt64

abbrev ServiceName := String
abbrev ServiceAddr := String

def socketNull : Socket := 0
def rpcRequestIdNull : RpcRequestId := 0

def netPacketMaxSize : Nat := 4 * 1024

/-- `sizeof(PacketSize)`, `sizeof(NetInfoSize)` and `sizeof(RpcMetaSize)`. -/
def sizeofPacketSize : Nat := 4
def sizeofNetInfoSize : Nat := 2
def sizeofRpcMetaSize : Nat := 2

/-- Why a call yields nothing: it returned `false`, or it read outside a buffer or through a null pointer
    and has no defined behaviour at all. -/
inductive Failure where
  | refused | undefined
deriving DecidableEq, Repr

/-- What the code reports as `false`. -/
def orRefuse {α : Type} : Option α → Except Failure α
  | some a => .ok a
  | none => .error .refused

/-- What the code relies on without a check. -/
def orUndefined {α : Type} : Option α → Except Failure α
  | some a => .ok a
  | none => .error .undefined

@[simp] theorem ok_bind {α β : Type} (a : α) (f : α → Except Failure β) :
    (Except.ok a >>= f) = f a := rfl

@[simp] theorem error_bind {α β : Type} (e : Failure) (f : α → Except Failure β) :
    (Except.error e >>= f) = Except.error e := rfl

/-- A computation that succeeds ran each of its steps successfully. -/
theorem bind_eq_ok {α β : Type} {x : Except Failure α} {f : α → Except Failure β} {b : β} :
    x >>= f = .ok b ↔ ∃ a, x = .ok a ∧ f a = .ok b := by
  cases x with
  | ok a =>
    constructor
    · exact fun h => ⟨a, rfl, h⟩
    · rintro ⟨_, ha, hf⟩; cases ha; exact hf
  | error e =>
    constructor
    · intro h; cases h
    · rintro ⟨_, ha, _⟩; cases ha

theorem toOption_eq_some {α : Type} {x : Except Failure α} {a : α} : x.toOption = some a ↔ x = .ok a := by
  cases x with
  | ok b => exact ⟨fun h => congrArg Except.ok (Option.some.inj h), fun h => congrArg some (Except.ok.inj h)⟩
  | error e => exact ⟨nofun, nofun⟩

/-! ## Integer conversions -/

/-- Conversion to `uint16_t`. -/
def uint16 (n : Nat) : Nat := n % 2 ^ 16

/-- Conversion to `uint32_t`; subtraction in unsigned arithmetic is this of the difference. -/
def uint32 (n : Int) : Nat := (n % 2 ^ 32).toNat

/-- Conversion to `int32_t`, as two's complement. -/
def int32 (n : Int) : Int := (n + 2 ^ 31) % 2 ^ 32 - 2 ^ 31

theorem uint16_of_lt {n : Nat} (h : n < 2 ^ 16) : uint16 n = n := Nat.mod_eq_of_lt h

theorem uint32_of_lt {n : Nat} (h : n < 2 ^ 32) : uint32 n = n := by
  unfold uint32; omega

theorem int32_of_lt {n : Int} (h₀ : 0 ≤ n) (h : n < 2 ^ 31) : int32 n = n := by
  unfold int32; omega

/-- An offset that leaves the positive range comes back negative. -/
theorem int32_neg {n : Int} (h₀ : 2 ^ 31 ≤ n) (h : n < 2 ^ 32) : int32 n < 0 := by
  unfold int32; omega

/-! ## Reading a buffer -/

/-- The `n` bytes from `binary.buffer(off)` on. -/
def readBytes (binary : Bytes) (off : Int) (n : Nat) : Except Failure Bytes :=
  orUndefined (window binary off n)

/-- The `w`-byte number at `binary.buffer(off)`. -/
def readNumber (w : Nat) (binary : Bytes) (off : Int) : Except Failure Nat :=
  orUndefined (wordAt w binary off)

theorem readBytes_append {binary mid : Bytes} (pre suf : Bytes) {off : Int} {n : Nat}
    (h : binary = pre ++ mid ++ suf) (hoff : off = pre.length) (hn : n = mid.length) :
    readBytes binary off n = .ok mid := by
  rw [readBytes, h, hn, window_append pre mid suf (i := 0) (by omega) (by omega), List.drop_zero,
    List.take_length]
  rfl

theorem readNumber_append {binary : Bytes} (pre suf : Bytes) {w n : Nat} {off : Int}
    (h : binary = pre ++ le w n ++ suf) (hoff : off = pre.length) (hn : n < 256 ^ w) :
    readNumber w binary off = .ok n := by
  have hmid : (le w n).length = w := le_length w n
  rw [readNumber, h, wordAt_append pre (le w n) suf (i := 0) (by omega) (by omega), List.drop_zero,
    List.take_of_length_le (by omega), ofLe_le_of_lt hn]
  rfl

theorem readBytes_neg {n : Nat} {binary : Bytes} {off : Int} (h : off < 0) :
    readBytes binary off n = .error .undefined := by
  rw [readBytes, window_neg h]; rfl

theorem readNumber_neg {w : Nat} {binary : Bytes} {off : Int} (h : off < 0) :
    readNumber w binary off = .error .undefined := by
  rw [readNumber, wordAt_neg h]; rfl

end Frrpc
