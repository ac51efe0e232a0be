import Frrpc.Public.Define

/-!
# `Public.Net` — the network library (`frnet`, outside this repository)

The network library delivers events and takes packets to send. What a send returns is its own affair:
`FrNet` is any such behaviour, given the packets handed over before. A receiver reports through
`Reception`: its state after the call, how many bytes the library may drop, and whether to keep the
connection.
-/

namespace Frrpc

open Lib

abbrev ENetSendResult := Int32

/-- What the gateway asks of its `NetServer`; a packet pointer may be null. -/
inductive NetCall where
  | send (socket : Socket) (packet : Option Bytes)
  | disconnect (socket : Socket)
deriving DecidableEq, Repr

/-- The results of the network library; `clientSend` is the `NetClient` of connection `n`. -/
class FrNet where
  eNetSendResultOk : ENetSendResult
  serverSend : List NetCall → Socket → Option Bytes → ENetSendResult
  clientSend : (n : Nat) → List Bytes → Bytes → ENetSendResult

/-- A network that takes every packet. -/
@[reducible] def networkUp : FrNet := ⟨0, fun _ _ _ => 0, fun _ _ _ => 0⟩

/-- What an `OnReceive` leaves behind. -/
structure Reception (σ : Type) where
  state : σ
  readSize : Nat
  result : Except Failure Unit

/-- `binary.size() - n` in `size_t` arithmetic: below zero it wraps around. No buffer has `2 ^ 64` bytes, so
    nothing wraps at the other end. -/
def sizeSub (size : Nat) (n : Int) : Nat :=
  if n ≤ size then (size - n).toNat else (size - n + 2 ^ 64).toNat

theorem sizeSub_of_le {size n : Nat} (h : n ≤ size) : sizeSub size n = size - n := by
  unfold sizeSub; split <;> omega

/-- Conversion of an `int32_t` to `size_t`. -/
def sizeT (n : Int) : Nat := (n % 2 ^ 64).toNat

theorem sizeT_of_lt {n : Nat} (h : n < 2 ^ 31) : sizeT n = n := by
  unfold sizeT; omega

/-- A negative offset makes the buffer look longer than it is. -/
theorem lt_sizeSub_of_neg {size : Nat} {n : Int} (h : n < 0) : size < sizeSub size n := by
  unfold sizeSub; split <;> omega

/-- How the network library uses a receiver that pushes packets to a queue: a call with the unread bytes
    yields the packets it pushed and the number of bytes to drop, unless the connection is closed. -/
def Reception.toFeed {σ ο : Type} (queue : σ → List ο) (s : σ) (r : Reception σ) :
    Option (σ × List ο × Nat) :=
  match r.result with
  | .ok _ => some (r.state, (queue r.state).drop (queue s).length, r.readSize)
  | .error _ => none

end Frrpc
