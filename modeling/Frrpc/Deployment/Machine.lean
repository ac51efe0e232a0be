import Mathlib.Logic.Function.Basic
import Frrpc.Lib.RemoteCall
import Frrpc.Lib.Wire
import Frrpc.Route.Start
import Frrpc.Rpc.Pipeline
import Frrpc.Rpc.Push

/-!
# `Deployment.Machine` — gateways, channels and servers together

Any number of channels and servers are connected to any number of gateways, and the network moves bytes
between them. A connection is known by its gateway and its socket there; the socket can be given again when
both ends have seen the disconnect. What a process hands to the network the network takes packet by packet,
passes it on or loses it, and delivers it in pieces of any size; it calls an `OnReceive` with all unread bytes
and closes the connection if that returns `false`. Threads of a process take their steps in any order.

`trace` records what the users of the system see of a call: that it is sent, that a server executes it, that
the reply is sent, and that the callback is called with it. No step reads the trace.
-/

namespace Frrpc

open Lib

/-! ## Connections -/

/-- A connection, by its gateway and its socket there. -/
structure Addr where
  gateway : Nat
  socket : Socket
deriving DecidableEq, Repr

/-- Who has connected: a channel, or the client of a server for one of its gateways. -/
inductive Peer where
  | channel
  | server (index route : Nat)
deriving DecidableEq, Repr

/-- One end of a connection. -/
inductive Side where
  | idle | opened | closing | closed
deriving DecidableEq, Repr

/-- A connection. `taken` counts the packets of the peer that the network has taken. -/
structure Connection where
  peer : Option Peer
  gatewaySide : Side
  peerSide : Side
  up : Wire UInt8
  down : Wire UInt8
  taken : Nat
deriving DecidableEq, Repr

namespace Connection

def unused : Connection := ⟨none, .idle, .idle, .empty, .empty, 0⟩

/-- A connection that a peer has just made. -/
def made (peer : Peer) : Connection := { unused with peer := some peer, peerSide := .opened }

/-- The socket can be given: nobody has had it yet, or both ends have seen its disconnect. -/
def Free (connection : Connection) : Prop :=
  connection.peer = none ∨ (connection.gatewaySide = .closed ∧ connection.peerSide = .closed)

instance (connection : Connection) : Decidable connection.Free := inferInstanceAs (Decidable (_ ∨ _))

end Connection

/-- The parts of a deployment that do not change: the options of each channel and server, where a server's
    `gate_list` names its gateways by their numbers. -/
structure Site where
  channelOption : Addr → ChannelOption
  parseThreadNum : Addr → Nat
  channelWorkThreadNum : Addr → Nat
  gateList : Nat → List Nat
  serviceAddr : Nat → ServiceAddr
  serverWorkThreadNum : Nat → Nat

/-- The connection behind a link id of a server. -/
def Site.linkAddr (site : Site) (index : Nat) (linkId : LinkID) : Option Addr := do
  let routeLength := getNumberLength (site.gateList index).length
  let routeId ← getRouteID routeLength linkId
  let socket ← getSocket routeLength linkId
  let gateway ← (site.gateList index)[routeId.toNat]?
  return ⟨gateway, socket⟩

/-- What is seen of the calls: clients are connections, requests and replies are what is sent, and a call
    completes by the callback at an address of the client's memory. -/
abbrev CallEvent := RemoteCall.Event Addr RpcRequestId (RpcMeta × Bytes) (String × Option Bytes) Nat

/-- What a reply says: an error, or a response. -/
def answerOf (rpcMeta : RpcMeta) (body : Bytes) : String × Option Bytes :=
  (rpcMeta.rpcResponseMeta.error, if rpcMeta.rpcResponseMeta.error = "" then some body else none)

/-- `RpcHeart::static_heart_packet_`. -/
def heartPacket : Bytes := buildBinaryFromMessageNet ⟨eNetTypeHeart, []⟩

/-! ## A channel's process -/

/-- A channel with its threads; each parse thread has a batch of packets. -/
structure ChannelProcess where
  threads : ChannelThreads
  parseQueues : List (List RpcPacket)

namespace ChannelProcess

def started (option : ChannelOption) (parseThreadNum workThreadNum : Nat) : ChannelProcess :=
  ⟨.started option workThreadNum, List.replicate parseThreadNum []⟩

def rpcNet (p : ChannelProcess) : RpcChannelRoute := p.threads.channel.rpcNet

def setRpcNet (p : ChannelProcess) (rpcNet : RpcChannelRoute) : ChannelProcess :=
  { p with threads := { p.threads with channel := { p.threads.channel with rpcNet } } }

inductive Event where
  /-- A step of a thread that calls methods, cancels, registers callbacks, sweeps or calls callbacks. -/
  | threads (e : ChannelThreads.Event)
  /-- A parse thread without a batch takes one. -/
  | fetch (thread parseNumOnce : Nat)
  /-- A parse thread handles the next packet of its batch. -/
  | parse (thread : Nat)
  /-- `Channel::RegisterService`. -/
  | registerService (serviceName : ServiceName) (serviceAddr : ServiceAddr)
  /-- A heart of `RunClient`. -/
  | heart

variable [FrNet]

def fetch (p : ChannelProcess) (thread parseNumOnce : Nat) : Option ChannelProcess :=
  match p.parseQueues[thread]? with
  | some [] =>
    some { p.setRpcNet { p.rpcNet with packetQueue := p.rpcNet.packetQueue.drop parseNumOnce } with
      parseQueues := p.parseQueues.set thread (p.rpcNet.packetQueue.take parseNumOnce) }
  | _ => none

def parse (p : ChannelProcess) (thread : Nat) : Option ChannelProcess :=
  match p.parseQueues[thread]? with
  | some (package :: batch) =>
    (Pipeline.parsePacket p.threads package).map fun threads =>
      { threads, parseQueues := p.parseQueues.set thread batch }
  | _ => none

def step (p : ChannelProcess) : Event → Option ChannelProcess
  -- packets are handled by the parse threads
  | .threads (.requestPacket _) => none
  | .threads (.registerPacket _) => none
  | .threads e => (ChannelThreads.step p.threads e).map fun threads => { p with threads }
  | .fetch thread parseNumOnce => p.fetch thread parseNumOnce
  | .parse thread => p.parse thread
  | .registerService serviceName serviceAddr =>
    some (p.setRpcNet (p.rpcNet.registerService serviceName serviceAddr).1)
  | .heart => some (p.setRpcNet (p.rpcNet.clientSend heartPacket).1)

omit [FrNet] in
/-- What is seen of a step that is taken: a request that is sent, and the callback of a reply. -/
def seen (p : ChannelProcess) (addr : Addr) : Event → List CallEvent
  | .threads (.send index) =>
    match p.threads.invocations[index]? with
    | some ⟨method, requestId, _⟩ =>
      [.call addr requestId (p.threads.channel.requestMeta method requestId, method.request)]
    | none => []
  | .threads (.call thread) =>
    match p.threads.batches[thread]? with
    | some (callback :: _) =>
      -- neither a push nor a timeout is a reply
      if callback.cntl.requestId ≠ rpcRequestIdNull ∧ callback.cntl.error ≠ "request timeout" then
        [.complete addr callback.cntl.requestId (callback.cntl.error, callback.response) callback.ptr]
      else []
    | _ => []
  | _ => []

end ChannelProcess

/-! ## A server's process -/

/-- A work thread with its batch. -/
structure WorkThread where
  worker : ServerWorker
  packetQueue : List RpcPacket

/-- A server with its work threads and the clients that are started, by their route ids. -/
structure ServerProcess where
  server : Server
  threads : List WorkThread
  connected : List Nat

namespace ServerProcess

def started (gateways : Nat) (serviceAddr : ServiceAddr) (workThreadNum : Nat) : ServerProcess :=
  ⟨(ServerCalls.started gateways serviceAddr).server, List.replicate workThreadNum ⟨.started ∅, []⟩, []⟩

def setRpcNet (p : ServerProcess) (rpcNet : RpcServerRoute) : ServerProcess :=
  { p with server := { p.server with rpcNet } }

inductive Event where
  | addService (serviceName : ServiceName) (service : Service)
  /-- A work thread without a batch takes one. -/
  | fetch (thread : Nat)
  /-- A work thread takes the next packet of its batch, up to `CallMethod`. -/
  | work (thread : Nat)
  /-- A handler of a work thread. -/
  | handler (thread : Nat) (e : ServerWorker.Event)
  | sendRpcMessage (descriptor : ServiceDescriptor) (linkId : LinkID) (methodName : String) (response : Bytes)
  | sendRpcMessages (descriptor : ServiceDescriptor) (linkIds : List LinkID) (methodName : String)
      (response : Bytes)
  | disconnect (linkId : LinkID)
  /-- A heart of the `RunClient` of a gateway's client. -/
  | heart (route : Nat)

/-- `FetchMessageQueue(packet_queue, 50)`. -/
def fetch (p : ServerProcess) (thread : Nat) : Option ServerProcess :=
  match p.threads[thread]? with
  | some ⟨worker, []⟩ =>
    some { p.setRpcNet { p.server.rpcNet with packetQueue := p.server.rpcNet.packetQueue.drop 50 } with
      threads := p.threads.set thread ⟨worker, p.server.rpcNet.packetQueue.take 50⟩ }
  | _ => none

/-- All work threads look services up in the server's map. -/
def work (p : ServerProcess) (thread : Nat) : Option ServerProcess :=
  match p.threads[thread]? with
  | some ⟨worker, package :: packetQueue⟩ =>
    ({ worker with name2Service := p.server.name2Service }.step (.receive package)).map fun worker =>
      { p with threads := p.threads.set thread ⟨worker, packetQueue⟩ }
  | _ => none

variable [FrNet] [Serializer]

/-- The `Send`s of `SendResponse`. -/
def sendResponses (rpcNet : RpcServerRoute) (responses : List Response) : Option RpcServerRoute :=
  responses.foldlM (fun rpcNet response =>
    (rpcNet.send response.linkId response.rpcMeta response.body).map Prod.fst) rpcNet

def handler (p : ServerProcess) (thread : Nat) (e : ServerWorker.Event) : Option ServerProcess := do
  let workThread ← p.threads[thread]?
  let worker ← workThread.worker.step e
  let rpcNet ← sendResponses p.server.rpcNet (worker.sent.drop workThread.worker.sent.length)
  return { p.setRpcNet rpcNet with threads := p.threads.set thread { workThread with worker } }

omit [Serializer] in
def heart (p : ServerProcess) (route : Nat) : Option ServerProcess :=
  p.server.rpcNet.routeClientList[route]?.map fun client =>
    p.setRpcNet { p.server.rpcNet with
      routeClientList := p.server.rpcNet.routeClientList.set route (client.clientSend heartPacket).1 }

def step (p : ServerProcess) : Event → Option ServerProcess
  | .addService serviceName service =>
    some { p with server := (p.server.addService serviceName service).1 }
  | .fetch thread => p.fetch thread
  | .work thread => p.work thread
  -- packets come from the thread's batch
  | .handler _ (.receive _) => none
  | .handler thread e => p.handler thread e
  | .sendRpcMessage descriptor linkId methodName response =>
    (p.server.sendRpcMessage descriptor linkId methodName response).map fun (server, _) => { p with server }
  | .sendRpcMessages descriptor linkIds methodName response =>
    (p.server.sendRpcMessages descriptor linkIds methodName response).map fun (server, _) => { p with server }
  | .disconnect linkId => (p.server.disconnect linkId).map fun (server, _) => { p with server }
  | .heart route => p.heart route

omit [FrNet] [Serializer] in
/-- What is seen of a step of a work thread: the requests that it executes and the replies that it sends. -/
def seenAt (addrOf : LinkID → Option Addr) (worker worker' : ServerWorker) : List CallEvent :=
  ((worker'.invocations.drop worker.invocations.length).flatMap fun package =>
      (addrOf package.linkId).toList.map fun addr =>
        .execute addr package.rpcMeta.rpcRequestMeta.requestId (package.rpcMeta, package.binary.getD [])) ++
    (worker'.sent.drop worker.sent.length).flatMap fun response =>
      (addrOf response.linkId).toList.map fun addr =>
        .reply addr response.rpcMeta.rpcRequestMeta.requestId (answerOf response.rpcMeta response.body)

omit [FrNet] [Serializer] in
/-- What is seen of a step. -/
def seen (addrOf : LinkID → Option Addr) (p p' : ServerProcess) : List CallEvent :=
  (p.threads.zip p'.threads).flatMap fun (t, t') => seenAt addrOf t.worker t'.worker

end ServerProcess

/-! ## The deployment -/

/-- `carried` counts the calls of each gateway's net server that the network has carried out. -/
structure Deployment where
  routes : Nat → RpcRoute
  carried : Nat → Nat
  connections : Addr → Connection
  channels : Addr → ChannelProcess
  servers : Nat → ServerProcess
  trace : List CallEvent

namespace Deployment

/-- All processes have been started, and nobody is connected. -/
def started (site : Site) : Deployment where
  routes _ := .started
  carried _ := 0
  connections _ := .unused
  channels addr :=
    .started (site.channelOption addr) (site.parseThreadNum addr) (site.channelWorkThreadNum addr)
  servers index :=
    .started (site.gateList index).length (site.serviceAddr index) (site.serverWorkThreadNum index)
  trace := []

inductive Event where
  | connectChannel (addr : Addr)
  /-- The client of a server for one of its gateways connects. -/
  | connectServer (addr : Addr) (index route : Nat)
  /-- The gateway's `OnConnect`. -/
  | accept (addr : Addr)
  /-- The network takes the next packet of a peer. -/
  | takeUp (addr : Addr) (arrives : Bool)
  /-- The network carries out the next call of a gateway. -/
  | carry (gateway : Nat) (arrives : Bool)
  /-- The next bytes reach the gateway, and it handles what is unread. -/
  | receiveUp (addr : Addr) (n : Nat)
  /-- The next bytes reach the peer, and it handles what is unread. -/
  | receiveDown (addr : Addr) (n : Nat)
  /-- The gateway's `OnDisconnect`. -/
  | endUp (addr : Addr)
  /-- The peer's `OnDisconnect`. -/
  | endDown (addr : Addr)
  | checkHeart (gateway : Nat)
  | channel (addr : Addr) (e : ChannelProcess.Event)
  | server (index : Nat) (e : ServerProcess.Event)

def setConnection (s : Deployment) (addr : Addr) (connection : Connection) : Deployment :=
  { s with connections := Function.update s.connections addr connection }

def setRoute (s : Deployment) (gateway : Nat) (route : RpcRoute) : Deployment :=
  { s with routes := Function.update s.routes gateway route }

def setChannel (s : Deployment) (addr : Addr) (channel : ChannelProcess) : Deployment :=
  { s with channels := Function.update s.channels addr channel }

def setServer (s : Deployment) (index : Nat) (server : ServerProcess) : Deployment :=
  { s with servers := Function.update s.servers index server }

def see (s : Deployment) (events : List CallEvent) : Deployment := { s with trace := s.trace ++ events }

/-- The packets that the peer of a connection has handed to the network. -/
def handedOver (s : Deployment) (addr : Addr) : List Bytes :=
  match (s.connections addr).peer with
  | none => []
  | some .channel => (s.channels addr).rpcNet.sent
  | some (.server index route) =>
    ((s.servers index).server.rpcNet.routeClientList[route]?.map RpcServerRouteClient.sent).getD []

/-- The null socket is not given. A channel that gets a socket which was given before is a new process. -/
def connectChannel (site : Site) (s : Deployment) (addr : Addr) : Option Deployment :=
  let connection := s.connections addr
  if connection.Free ∧ addr.socket ≠ socketNull then
    let channel := if connection.peer = none then s.channels addr else .started (site.channelOption addr)
      (site.parseThreadNum addr) (site.channelWorkThreadNum addr)
    some ((s.setConnection addr (.made .channel)).setChannel addr
      (channel.setRpcNet (channel.rpcNet.onConnect addr.socket)))
  else none

def connectServer (site : Site) (s : Deployment) (addr : Addr) (index route : Nat) : Option Deployment :=
  let server := s.servers index
  if (s.connections addr).Free ∧ addr.socket ≠ socketNull ∧ (site.gateList index)[route]? = some addr.gateway ∧
      route ∉ server.connected then
    some ((s.setConnection addr (.made (.server index route))).setServer index
      { server with connected := server.connected ++ [route] })
  else none

def accept (s : Deployment) (addr : Addr) : Option Deployment :=
  if (s.connections addr).peer ≠ none ∧ (s.connections addr).gatewaySide = .idle then
    some ((s.setConnection addr { s.connections addr with gatewaySide := .opened }).setRoute addr.gateway
      ((s.routes addr.gateway).onConnect addr.socket))
  else none

def takeUp (s : Deployment) (addr : Addr) (arrives : Bool) : Option Deployment :=
  let connection := s.connections addr
  (s.handedOver addr)[connection.taken]?.map fun packet =>
    s.setConnection addr { connection with
      taken := connection.taken + 1
      up := if arrives then connection.up.send packet else connection.up }

/-- A packet for a socket that is not connected is lost, and so is a null pointer. -/
def carryCall (s : Deployment) (gateway : Nat) (arrives : Bool) : NetCall → Deployment
  | .send socket packet =>
    let addr : Addr := ⟨gateway, socket⟩
    let connection := s.connections addr
    if arrives ∧ connection.gatewaySide = .opened then
      s.setConnection addr { connection with down := connection.down.send (packet.getD []) }
    else s
  | .disconnect socket =>
    let addr : Addr := ⟨gateway, socket⟩
    let connection := s.connections addr
    if connection.gatewaySide = .opened then s.setConnection addr { connection with gatewaySide := .closing } else s

def carry (s : Deployment) (gateway : Nat) (arrives : Bool) : Option Deployment :=
  (s.routes gateway).netCalls[s.carried gateway]?.map fun call =>
    { s.carryCall gateway arrives call with
      carried := Function.update s.carried gateway (s.carried gateway + 1) }

def endDown (s : Deployment) (addr : Addr) : Option Deployment :=
  let connection := s.connections addr
  if connection.peerSide = .opened ∨ connection.peerSide = .closing then
    let s := s.setConnection addr { connection with peerSide := .closed }
    match connection.peer with
    | some .channel =>
      let channel := s.channels addr
      some (s.setChannel addr (channel.setRpcNet (channel.rpcNet.onDisconnect addr.socket)))
    | _ => some s
  else none

variable [FrNet]

def endUp (s : Deployment) (addr : Addr) : Option Deployment :=
  let connection := s.connections addr
  if connection.gatewaySide = .opened ∨ connection.gatewaySide = .closing then
    some ((s.setConnection addr { connection with gatewaySide := .closed }).setRoute addr.gateway
      ((s.routes addr.gateway).onDisconnect addr.socket))
  else none

/-- What the network does with a connection after an `OnReceive`; undefined behaviour has no successor. -/
def sideAfter : Except Failure Unit → Option Side
  | .ok _ => some .opened
  | .error .refused => some .closing
  | .error .undefined => none

def receiveUp (s : Deployment) (addr : Addr) (n : Nat) : Option Deployment :=
  let connection := s.connections addr
  if connection.gatewaySide = .opened then
    let up := connection.up.arrive n
    let reception := RpcRoute.onReceive (s.routes addr.gateway, []) addr.socket up.unread
    (sideAfter reception.result).map fun gatewaySide =>
      (s.setConnection addr { connection with up := up.drop reception.readSize, gatewaySide }).setRoute addr.gateway
        reception.state.1
  else none

def receiveDown (s : Deployment) (addr : Addr) (n : Nat) : Option Deployment :=
  let connection := s.connections addr
  if connection.peerSide = .opened then
    let down := connection.down.arrive n
    match connection.peer with
    | none => none
    | some .channel =>
      let channel := s.channels addr
      let reception := channel.rpcNet.onReceive down.unread
      (sideAfter reception.result).map fun peerSide =>
        (s.setConnection addr { connection with down := down.drop reception.readSize, peerSide }).setChannel addr
          (channel.setRpcNet reception.state)
    | some (.server index route) =>
      let server := s.servers index
      let reception := server.server.rpcNet.onReceive (UInt32.ofNat route) down.unread
      (sideAfter reception.result).map fun peerSide =>
        (s.setConnection addr { connection with down := down.drop reception.readSize, peerSide }).setServer index
          (server.setRpcNet reception.state)
  else none

variable [Serializer]

def step (site : Site) (s : Deployment) : Event → Option Deployment
  | .connectChannel addr => s.connectChannel site addr
  | .connectServer addr index route => s.connectServer site addr index route
  | .accept addr => s.accept addr
  | .takeUp addr arrives => s.takeUp addr arrives
  | .carry gateway arrives => s.carry gateway arrives
  | .receiveUp addr n => s.receiveUp addr n
  | .receiveDown addr n => s.receiveDown addr n
  | .endUp addr => s.endUp addr
  | .endDown addr => s.endDown addr
  | .checkHeart gateway => some (s.setRoute gateway (s.routes gateway).checkHeart.1)
  | .channel addr e =>
    if (s.connections addr).peer = some .channel then
      ((s.channels addr).step e).map fun channel =>
        (s.setChannel addr channel).see ((s.channels addr).seen addr e)
    else none
  | .server index e =>
    ((s.servers index).step e).map fun server =>
      (s.setServer index server).see (ServerProcess.seen (site.linkAddr index) (s.servers index) server)

end Deployment

end Frrpc
