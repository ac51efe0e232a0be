import Frrpc.Lib.TreeMap
import Frrpc.Public.Define

/-!
# `Route.Services` — the servers of one service (`RouteServiceInfos` of `route.h`, `route.cpp`)

`sockets_` lists the servers for balancing, `addr_2socket_` finds one by its address.
-/

namespace Frrpc

open Lib Std

structure RouteServiceInfos where
  sockets : List Socket
  addr2socket : ExtTreeMap ServiceAddr Socket
  curSendIndex : Int

namespace RouteServiceInfos

def new : RouteServiceInfos := ⟨[], ∅, 0⟩

def serviceSize (infos : RouteServiceInfos) : Nat := infos.sockets.length

/-- The next index, `(cur_send_index_ + 1) % sockets_.size()`: the remainder is taken in `size_t` and kept in
    an `int32_t`. -/
def nextSendIndex (infos : RouteServiceInfos) : Int :=
  int32 (int32 (infos.curSendIndex + 1) % 2 ^ 64 % infos.sockets.length)

/-- `none` is the exception of `sockets_.at`. -/
def getServiceSocket (infos : RouteServiceInfos) (serviceAddr : ServiceAddr) :
    Option (Socket × RouteServiceInfos) :=
  if infos.sockets = [] then some (socketNull, infos)
  else if serviceAddr = "" then do
    let index := infos.nextSendIndex
    if 0 ≤ index then
      let socket ← infos.sockets[index.toNat]?
      return (socket, { infos with curSendIndex := index })
    else none
  else some (infos.addr2socket[serviceAddr]?.getD socketNull, infos)

def addService (infos : RouteServiceInfos) (socket : Socket) (serviceAddr : ServiceAddr) :
    RouteServiceInfos × Bool :=
  if infos.addr2socket[serviceAddr]? = none then
    ({ infos with
      sockets := infos.sockets ++ [socket]
      addr2socket := infos.addr2socket.insertIfNew serviceAddr socket }, true)
  else (infos, false)

/-- One occurrence goes from each container. -/
def deleteService (infos : RouteServiceInfos) (socket : Socket) : RouteServiceInfos :=
  { infos with
    sockets := infos.sockets.erase socket
    addr2socket := eraseFirst (fun s => socket == s) infos.addr2socket }

end RouteServiceInfos

end Frrpc
