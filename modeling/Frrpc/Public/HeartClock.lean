import Mathlib.Algebra.Order.Ring.Defs
import Frrpc.Lib.Machine
import Frrpc.Public.Heart

/-!
# `Public.HeartClock` — a server's check and a client's hearts in time

A server and one client run their loops against a clock. A round takes no time, a heart arrives when it is
sent, and `FrSleep` takes exactly its argument, so a loop that wakes up runs its round before the clock goes
on. The clock counts milliseconds in any ordered ring. Other threads add, delete and update sockets at any
time.
-/

namespace Frrpc

open Lib

/-- A loop: its `cur_times`, and when it wakes up. -/
structure HeartLoop (K : Type) where
  curTimes : Int64
  wake : K

/-- `log` and the calls of `Disconnect` begin when the client connects. -/
structure HeartClock (K : Type) where
  now : K
  server : HeartLoop K
  client : Option (HeartLoop K)
  check : HeartCheck
  log : List (K × RpcHeart.Event)

namespace HeartClock

inductive Event (K : Type) where
  /-- Time passes, while both loops sleep. -/
  | advance (time : K)
  | serverRound
  | connect
  | clientRound
  /-- What other threads do. -/
  | other (e : RpcHeart.Event)

variable {K : Type} [CommRing K] [LinearOrder K]

/-- `RunServer` is called at `start`. -/
def started (start : K) : HeartClock K := ⟨start, ⟨0, start⟩, none, .started, []⟩

def record (s : HeartClock K) (e : RpcHeart.Event) : HeartClock K :=
  { s with check := s.check.step e, log := s.log ++ [(s.now, e)] }

/-- The only checks are the server loop's, and a client that is connected sends nothing but its hearts. -/
def mayDo (s : HeartClock K) (socket : Socket) (e : RpcHeart.Event) : Bool :=
  e ≠ .checkTimeout && (s.client.isNone || e ≠ .updateSocket socket)

/-- The server, and the client at `socket`. -/
def step (timeout : Int64) (socket : Socket) (s : HeartClock K) : Event K → Option (HeartClock K)
  | .advance time =>
    if s.now ≤ time ∧ time ≤ s.server.wake ∧ s.client.all (fun client => time ≤ client.wake) then
      some { s with now := time }
    else none
  | .serverRound =>
    if s.server.wake = s.now then
      let (curTimes, checks) := RpcHeart.serverRound timeout s.server.curTimes
      let s := { s with server := ⟨curTimes, s.now + 1000⟩ }
      some (if checks then s.record .checkTimeout else s)
    else none
  -- the number of a new connection is not registered
  | .connect =>
    if s.client.isNone ∧ socket ∉ s.check.heart.socketArray then
      some { s with
        client := some ⟨0, s.now⟩
        check := ⟨s.check.heart.addSocket socket, []⟩
        log := [] }
    else none
  | .clientRound =>
    match s.client with
    | none => none
    | some client =>
      if client.wake = s.now then
        let (curTimes, sends) := RpcHeart.clientRound timeout client.curTimes
        let s := { s with client := some ⟨curTimes, s.now + 250⟩ }
        some (if sends then s.record (.updateSocket socket) else s)
      else none
  | .other e => if s.mayDo socket e then some (s.record e) else none

end HeartClock

end Frrpc
