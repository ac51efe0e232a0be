import Frrpc.Route.Machine

/-!
# `Route.Start` — a gateway that is being started (`RpcRoute::Start` of `route.h`)

`Start` has two steps: it starts the net server, and then the heartbeat check. From the first one on the
network calls the gateway from threads of its own, and from the second one on the check's thread runs. The
log says what happened to which socket.
-/

namespace Frrpc

open Lib

namespace RpcRoute

/-- A gateway as it is constructed. -/
def new : RpcRoute := ⟨[], .new, ∅, ∅, ∅⟩

def runHeart (r : RpcRoute) : RpcRoute := { r with rpcHeart := r.rpcHeart.runServer }

/-- `Start` while nothing else happens, by the result of `net_server_->Start`. -/
def start (r : RpcRoute) (netStarted : Bool) : RpcRoute × Bool :=
  if netStarted then (r.runHeart, true) else (r, false)

theorem start_new : new.start true = (started, true) := rfl

/-- A check, with the sockets that it disconnects. -/
def checkHeart (r : RpcRoute) : RpcRoute × List Socket :=
  let (rpcHeart, sockets) := r.rpcHeart.checkTimeout
  (sockets.foldl netDisconnect { r with rpcHeart }, sockets)

end RpcRoute

/-- What happens to a socket. -/
inductive SocketEvent where
  | onConnect (socket : Socket)
  | onDisconnect (socket : Socket)
  /-- A check disconnects it. -/
  | heartTimeout (socket : Socket)
deriving DecidableEq, Repr

structure StartingRoute where
  route : RpcRoute
  /-- `net_server_->Start` has succeeded. -/
  listening : Bool
  log : List SocketEvent

namespace StartingRoute

def created : StartingRoute := ⟨.new, false, []⟩

inductive Event where
  /-- `net_server_->Start`, with its result. -/
  | netStart (netStarted : Bool)
  | runServer
  | onConnect (socket : Socket)
  | onReceive (socket : Socket) (binary : Bytes)
  | onDisconnect (socket : Socket)
  | onClose
  | checkTimeout

variable [Protobuf] [FrNet]

/-- An `OnReceive` with undefined behaviour has no successor; one that returns `false` has its effects. -/
def receive (s : StartingRoute) (socket : Socket) (binary : Bytes) : Option StartingRoute :=
  let reception := RpcRoute.onReceive (s.route, []) socket binary
  match reception.result with
  | .error .undefined => none
  | _ => some { s with route := reception.state.1 }

def step (s : StartingRoute) : Event → Option StartingRoute
  | .netStart netStarted => if s.listening then none else some { s with listening := netStarted }
  | .runServer =>
    if s.listening && !s.route.rpcHeart.running then some { s with route := s.route.runHeart } else none
  | .onConnect socket =>
    if s.listening then
      some { s with route := s.route.onConnect socket, log := s.log ++ [.onConnect socket] }
    else none
  | .onReceive socket binary => if s.listening then s.receive socket binary else none
  | .onDisconnect socket =>
    if s.listening then
      some { s with route := s.route.onDisconnect socket, log := s.log ++ [.onDisconnect socket] }
    else none
  | .onClose => if s.listening then some { s with route := s.route.onClose } else none
  | .checkTimeout =>
    if s.route.rpcHeart.running then
      let (route, sockets) := s.route.checkHeart
      some { s with route, log := s.log ++ sockets.map .heartTimeout }
    else none

/-- With nothing in between, the two steps are `Start`. -/
theorem exec_start :
    exec step created [.netStart true, .runServer] = some ⟨(RpcRoute.new.start true).1, true, []⟩ := rfl

end StartingRoute

end Frrpc
