import Std.Data.ExtTreeSet.Lemmas
import Frrpc.Lib.Binary64
import Frrpc.Rpc.NetBase

/-!
# `Rpc.NetServer` — a server's connections to its gateways (`net_server.h`, `net_server.cpp`)

A server keeps one client for each configured gateway; all of them push to the server's queue. A link id
packs a gateway index and a socket of that gateway into one number.
-/

namespace Frrpc

open Lib Std

abbrev RouteID := UInt32

/-! ## Link ids -/

/-- `route_id * pow(10, route_length_) + socket`, computed in double precision. A `LinkID` keeps the low 64
    bits of a result that it cannot hold. -/
def buildLinkID (routeLength : Nat) (routeId : RouteID) (socket : Socket) : LinkID :=
  let product := roundNat (routeId.toNat * 10 ^ routeLength)
  UInt64.ofInt (roundInt (product + socket.toInt))

/-- `(uint32_t)pow(10, route_length_)`; a power of ten beyond `uint32_t` has no such conversion. -/
def linkModulus (routeLength : Nat) : Option Nat :=
  if 10 ^ routeLength < 2 ^ 32 then some (10 ^ routeLength) else none

def getSocket (routeLength : Nat) (linkId : LinkID) : Option Socket :=
  (linkModulus routeLength).map (fun m => Int32.ofNat (linkId.toNat % m))

def getRouteID (routeLength : Nat) (linkId : LinkID) : Option RouteID :=
  (linkModulus routeLength).map (fun m => UInt32.ofNat (linkId.toNat / m))

/-! ## The client of one gateway -/

/-- `requests` records the route info of each route frame among `sent`. -/
structure RpcServerRouteClient where
  routeId : RouteID
  sent : List Bytes
  requests : List RouteNetInfo
deriving DecidableEq, Repr

structure RpcServerRoute where
  packetQueue : List RpcPacket
  routeClientList : List RpcServerRouteClient
  routeLength : Nat
deriving DecidableEq, Repr

/-- The constructor, for a list of `gateways` addresses. -/
def RpcServerRoute.new (gateways : Nat) : RpcServerRoute :=
  ⟨[], (List.range gateways).map (fun i => ⟨UInt32.ofNat i, [], []⟩), getNumberLength gateways⟩

def RpcServerRoute.pushMessageToQueue (s : RpcServerRoute) (packet : RpcPacket) : RpcServerRoute :=
  { s with packetQueue := s.packetQueue ++ [packet] }

namespace RpcServerRouteClient

def clientSend [FrNet] (c : RpcServerRouteClient) (packet : Bytes) : RpcServerRouteClient × Bool :=
  ({ c with sent := c.sent ++ [packet] },
    FrNet.clientSend c.routeId.toNat c.sent packet == FrNet.eNetSendResultOk)

/-- The sockets of the link ids that belong to this client's gateway. -/
def targetSockets (routeLength : Nat) (c : RpcServerRouteClient) : List LinkID → Option (List Socket)
  | [] => some []
  | linkId :: linkIds => do
    let routeId ← getRouteID routeLength linkId
    let socket ← getSocket routeLength linkId
    let sockets ← targetSockets routeLength c linkIds
    return if c.routeId = routeId then socket :: sockets else sockets

variable [Protobuf]

/-- The private `Send`: nothing goes out without a target. A frame that is not built goes nowhere either,
    and the result is `true`. -/
def sendTo [FrNet] [Serializer] (c : RpcServerRouteClient) (sockets : List Socket) (rpcMeta : RpcMeta)
    (body : Bytes) : RpcServerRouteClient × Bool :=
  if sockets = [] then (c, false)
  else
    let routeNetInfo : RouteNetInfo := ⟨false, "", sockets, socketNull⟩
    let netInfo : NetInfo := ⟨eNetTypeRoute, serialize routeNetInfo⟩
    if Serializer.serializes c.routeId.toNat netInfo rpcMeta body then
      { c with requests := c.requests ++ [routeNetInfo] }.clientSend
        (buildBinaryFromMessage netInfo rpcMeta body)
    else (c, true)

/-- Both public `Send`s: to one link id, or to each of a list. -/
def send [FrNet] [Serializer] (routeLength : Nat) (c : RpcServerRouteClient) (linkIds : List LinkID)
    (rpcMeta : RpcMeta) (body : Bytes) : Option (RpcServerRouteClient × Bool) :=
  (c.targetSockets routeLength linkIds).map (fun sockets => c.sendTo sockets rpcMeta body)

def sendRouteCmd [FrNet] (c : RpcServerRouteClient) (cmd : ERouteCmd) (cmdInfo : Bytes) :
    RpcServerRouteClient × Bool :=
  c.clientSend (buildBinaryFromMessageCmd cmd cmdInfo)

/-- The request `Disconnect` sends for a link id. -/
def disconnectRequest (routeLength : Nat) (linkId : LinkID) : Option ServerDisconnectChannel :=
  (getSocket routeLength linkId).map (fun socket => ⟨[socket]⟩)

def disconnect [FrNet] (routeLength : Nat) (c : RpcServerRouteClient) (linkId : LinkID) :
    Option (RpcServerRouteClient × Bool) :=
  (disconnectRequest routeLength linkId).map
    (fun request => c.sendRouteCmd eRouteCmdServerDisconnectChannel (serialize request))

def registerService [FrNet] (c : RpcServerRouteClient) (serviceName : ServiceName)
    (serviceAddr : ServiceAddr) : RpcServerRouteClient × Bool :=
  c.sendRouteCmd eRouteCmdServerServiceRegister
    (serialize (⟨serviceName, serviceAddr⟩ : RouteServiceInfo))

end RpcServerRouteClient

/-! ## Receiving from a gateway -/

namespace RpcServerRoute

variable [Protobuf]

/-- The packet is copied, which needs its binary, and gets the link id of the sender's gateway and socket. -/
def receiveRoutePacket (s : RpcServerRoute) (routeId : RouteID) (netInfo : NetInfo) (packet : RpcPacket) :
    Except Failure RpcServerRoute := do
  let routeNetInfo : RouteNetInfo ← orRefuse (parse netInfo.netBinary)
  let packetTmp ← packet.copy
  return s.pushMessageToQueue
    { packetTmp with linkId := buildLinkID s.routeLength routeId routeNetInfo.sourceSocket }

/-- No route command has a response a server would take. -/
def doRouteCmd (_s : RpcServerRoute) (netInfo : NetInfo) : Except Failure RpcServerRoute := do
  let _response : RouteCmdResponse ← orRefuse (parse netInfo.netBinary)
  throw .refused

def doRouteNotify (s : RpcServerRoute) (routeId : RouteID) (netInfo : NetInfo) :
    Except Failure RpcServerRoute := do
  let notify : RouteNotify ← orRefuse (parse netInfo.netBinary)
  if notify.type = eRouteNotifyTypeDisconnect then
    let disconnect : NotifyTypeDisconnect ← orRefuse (parse notify.data)
    return s.pushMessageToQueue
      (.new (buildLinkID s.routeLength routeId disconnect.socket) .disconnection)
  else return s

/-- The `switch` on the net type. -/
def dispatch (s : RpcServerRoute) (routeId : RouteID) (netInfo : NetInfo) (packet : RpcPacket) :
    Except Failure RpcServerRoute :=
  if netInfo.netType = eNetTypeRoute then s.receiveRoutePacket routeId netInfo packet
  else if netInfo.netType = eNetTypeRouteCmd then s.doRouteCmd netInfo
  else if netInfo.netType = eNetTypeRouteNotify then s.doRouteNotify routeId netInfo
  else if netInfo.netType = eNetTypeHeart then .ok s
  else .error .refused

/-- One frame: its size and what handling it makes of the server. `none` when it is incomplete; the size
    limits are checked after that. -/
def receiveOne (s : RpcServerRoute) (routeId : RouteID) (binary : Bytes) (offset : Int) (readSize : Nat) :
    Except Failure (Option (RpcServerRoute × Nat)) := do
  let size ← readNumber sizeofPacketSize binary offset
  if sizeSub binary.length readSize < size + sizeofPacketSize then return none
  else if netPacketMaxSize ≤ size then throw .refused
  else if size = 0 then throw .refused
  else
    let (netInfo, packet) ← getMessageFromBinary binary offset default (some (.new 0 .method))
    let s ← s.dispatch routeId netInfo (packet.getD (.new 0 .method))
    return some (s, size)

/-- `RpcServer_Route_Client::OnReceive` of gateway `routeId`, called with `read_size = 0`; the guard uses
    the offset, the size check the read size. -/
def onReceive (s : RpcServerRoute) (routeId : RouteID) (binary : Bytes) : Reception RpcServerRoute :=
  receiveLoop (fun offset _ => sizeSub binary.length offset)
    (fun s offset readSize => s.receiveOne routeId binary offset readSize) (binary.length + 1) s 0 0

/-! ## Sending to the gateways -/

/-- The loop of `RegisterService`: every gateway is asked, also after one that could not be. -/
def registerEach [FrNet] (serviceName : ServiceName) (serviceAddr : ServiceAddr) :
    List RpcServerRouteClient → List RpcServerRouteClient × Bool
  | [] => ([], true)
  | client :: clients =>
    let (client, sent) := client.registerService serviceName serviceAddr
    let (clients, ret) := registerEach serviceName serviceAddr clients
    (client :: clients, sent && ret)

def registerService [FrNet] (s : RpcServerRoute) (serviceName : ServiceName) (serviceAddr : ServiceAddr) :
    RpcServerRoute × Bool :=
  let (routeClientList, ret) := registerEach serviceName serviceAddr s.routeClientList
  ({ s with routeClientList }, ret)

/-- The gateway client a link id belongs to, if there is one. -/
def getRouteClient (s : RpcServerRoute) (linkId : LinkID) : Option (Option RpcServerRouteClient) :=
  (getRouteID s.routeLength linkId).map (fun routeId => s.routeClientList[routeId.toNat]?)

variable [FrNet] [Serializer]

/-- `route_client_list_[route_id]->Send(link_ids, …)`, with `client` at that place. -/
def sendVia (s : RpcServerRoute) (routeId : RouteID) (client : RpcServerRouteClient) (linkIds : List LinkID)
    (rpcMeta : RpcMeta) (body : Bytes) : Option (RpcServerRoute × Bool) :=
  (client.send s.routeLength linkIds rpcMeta body).map fun (client, ret) =>
    ({ s with routeClientList := s.routeClientList.set routeId.toNat client }, ret)

/-- `Send` to one link id. -/
def send (s : RpcServerRoute) (linkId : LinkID) (rpcMeta : RpcMeta) (body : Bytes) :
    Option (RpcServerRoute × Bool) := do
  let routeId ← getRouteID s.routeLength linkId
  match s.routeClientList[routeId.toNat]? with
  | none => return (s, false)
  | some client => s.sendVia routeId client [linkId] rpcMeta body

/-- A `bool` compared with the network library's enumeration: as 0 or 1. -/
def equalsOk (ret : Bool) : Bool := (if ret then 1 else 0 : ENetSendResult) == FrNet.eNetSendResultOk

/-- The loop over the gateway indices of the link ids; an index without a gateway is skipped. -/
def sendEach (linkIds : List LinkID) (rpcMeta : RpcMeta) (body : Bytes) :
    List RouteID → RpcServerRoute → Bool → Option (RpcServerRoute × Bool)
  | [], s, ret => some (s, ret)
  | routeId :: routeIds, s, ret =>
    match s.routeClientList[routeId.toNat]? with
    | none => sendEach linkIds rpcMeta body routeIds s ret
    | some client => do
      let (s, sent) ← s.sendVia routeId client linkIds rpcMeta body
      sendEach linkIds rpcMeta body routeIds s (ret && equalsOk sent)

/-- The set of the gateway indices of a list of link ids. -/
def routeIds (routeLength : Nat) (linkIds : List LinkID) : Option (ExtTreeSet RouteID) :=
  linkIds.foldlM (fun ids linkId => (getRouteID routeLength linkId).map ids.insert) ∅

/-- `Send` to a list of link ids. -/
def sendAll (s : RpcServerRoute) (linkIds : List LinkID) (rpcMeta : RpcMeta) (body : Bytes) :
    Option (RpcServerRoute × Bool) := do
  let ids ← routeIds s.routeLength linkIds
  sendEach linkIds rpcMeta body ids.toList s (!ids.isEmpty)

end RpcServerRoute

end Frrpc
