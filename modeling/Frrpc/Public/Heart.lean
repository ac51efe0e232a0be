import Std.Data.ExtTreeSet.Lemmas
import Frrpc.Public.Define

/-!
# `Public.Heart` — heartbeat bookkeeping (`rpc_heart.h`, `rpc_heart.cpp`)

The sets a server keeps for its heartbeat check, which change only while the check runs on a server, and
the rounds of the two loops. `HeartCheck` is a server with its calls of `Disconnect`.
-/

namespace Frrpc

open Std

structure RpcHeart where
  running : Bool
  isClient : Bool
  waitHeartArray : ExtTreeSet Socket
  socketArray : ExtTreeSet Socket

namespace RpcHeart

def new : RpcHeart := ⟨false, true, ∅, ∅⟩

def runServer (h : RpcHeart) : RpcHeart := { h with isClient := false, running := true }

def delSocket (h : RpcHeart) (socket : Socket) : RpcHeart :=
  if h.running && !h.isClient then
    { h with
      waitHeartArray := h.waitHeartArray.erase socket, socketArray := h.socketArray.erase socket }
  else h

def addSocket (h : RpcHeart) (socket : Socket) : RpcHeart :=
  if h.running && !h.isClient then { h with socketArray := h.socketArray.insert socket } else h

def updateSocket (h : RpcHeart) (socket : Socket) : RpcHeart :=
  if h.running && !h.isClient && h.waitHeartArray.contains socket then
    { h with waitHeartArray := h.waitHeartArray.erase socket }
  else h

/-- The locked block of `RunServer`'s loop, with the sockets that it disconnects. -/
def checkTimeout (h : RpcHeart) : RpcHeart × List Socket :=
  let sockets := h.waitHeartArray.toList
  let socketArray := sockets.foldl (fun socketArray socket => socketArray.erase socket) h.socketArray
  ({ h with waitHeartArray := socketArray, socketArray }, sockets)

/-! ## The loops -/

/-- `if(++cur_times > limit){ cur_times = 0; … }`, with whether the branch is taken. -/
def countTimes (limit curTimes : Int64) : Int64 × Bool :=
  let curTimes := curTimes + 1
  if limit < curTimes then (0, true) else (curTimes, false)

def sleepTimeMs : Int64 := 250

/-- A round of `RunClient`'s loop; it sends a heart. -/
def clientRound (timeout curTimes : Int64) : Int64 × Bool :=
  let sleepTime := timeout * 1000 / sleepTimeMs / 4
  countTimes sleepTime curTimes

/-- A round of `RunServer`'s loop; it checks. -/
def serverRound (timeout curTimes : Int64) : Int64 × Bool := countTimes timeout curTimes

inductive Event where
  | addSocket (socket : Socket)
  | delSocket (socket : Socket)
  | updateSocket (socket : Socket)
  | checkTimeout
deriving DecidableEq, Repr

end RpcHeart

/-- A server's heart, and the sockets that it has called `Disconnect` on. -/
structure HeartCheck where
  heart : RpcHeart
  disconnected : List Socket

namespace HeartCheck

def started : HeartCheck := ⟨RpcHeart.new.runServer, []⟩

def step (s : HeartCheck) : RpcHeart.Event → HeartCheck
  | .addSocket socket => { s with heart := s.heart.addSocket socket }
  | .delSocket socket => { s with heart := s.heart.delSocket socket }
  | .updateSocket socket => { s with heart := s.heart.updateSocket socket }
  | .checkTimeout => ⟨s.heart.checkTimeout.1, s.disconnected ++ s.heart.checkTimeout.2⟩

/-- The calls in the order in which they get the lock. -/
def run (es : List RpcHeart.Event) : HeartCheck := es.foldl step started

end HeartCheck

end Frrpc
