import Frrpc.Public.Heart
import Frrpc.Public.Net
import Frrpc.Public.Serializable
import Frrpc.Route.Services

/-!
# `Route.Route` — the gateway (`RpcRoute` of `route.h`, `route.cpp`)

Functions that change the gateway return its new state; those that also return a `bool` return both, since
a handler that fails may have changed something before. `none` stands for undefined behaviour: a read
outside the buffer, or the exception of `sockets_.at`. `netCalls` records what the gateway asked of its
`NetServer`.
-/

namespace Frrpc

open Lib Std

structure RpcRoute where
  netCalls : List NetCall
  rpcHeart : RpcHeart
  service2info : ExtTreeMap ServiceName RouteServiceInfos
  serviceSocket2name : ExtTreeMap Socket ServiceName
  channelServiceRegister : ExtTreeMap Socket (ExtTreeMap ServiceName Socket)

namespace RpcRoute

/-- A gateway as `Start` leaves it, with the heartbeat check running. -/
def started : RpcRoute := ⟨[], RpcHeart.new.runServer, ∅, ∅, ∅⟩

def netSend [FrNet] (r : RpcRoute) (socket : Socket) (packet : Option Bytes) : RpcRoute × Bool :=
  ({ r with netCalls := r.netCalls ++ [.send socket packet] },
    FrNet.serverSend r.netCalls socket packet == FrNet.eNetSendResultOk)

def netDisconnect (r : RpcRoute) (socket : Socket) : RpcRoute :=
  { r with netCalls := r.netCalls ++ [.disconnect socket] }

/-! ## The service registry -/

def isServiceSocket (r : RpcRoute) (socket : Socket) : Bool := r.serviceSocket2name.contains socket

/-- The socket is recorded under its first service name, also when the address is taken. -/
def addService (r : RpcRoute) (socket : Socket) (serviceName : ServiceName) (serviceAddr : ServiceAddr) :
    RpcRoute × Bool :=
  let infos := r.service2info[serviceName]?.getD .new
  let (infos, ret) := infos.addService socket serviceAddr
  ({ r with
    serviceSocket2name := r.serviceSocket2name.insertIfNew socket serviceName
    service2info := r.service2info.insert serviceName infos }, ret)

/-- The service is looked up under the recorded name; an emptied service is dropped. -/
def deleteService (r : RpcRoute) (socket : Socket) : RpcRoute × Bool :=
  match r.serviceSocket2name[socket]? with
  | none => (r, false)
  | some serviceName =>
    match r.service2info[serviceName]? with
    -- the recorded name stays
    | none => (r, false)
    | some infos =>
      let infos := infos.deleteService socket
      ({ r with
        service2info :=
          if infos.serviceSize = 0 then r.service2info.erase serviceName
          else r.service2info.insert serviceName infos
        serviceSocket2name := r.serviceSocket2name.erase socket }, true)

/-- A lookup without an address moves the service's send index. -/
def findServiceSocket (r : RpcRoute) (serviceName : ServiceName) (serviceAddr : ServiceAddr) :
    Option (Socket × RpcRoute) :=
  match r.service2info[serviceName]? with
  | none => some (socketNull, r)
  | some infos => do
    let (socket, infos) ← infos.getServiceSocket serviceAddr
    return (socket, { r with service2info := r.service2info.insert serviceName infos })

/-- The server a channel is bound to for a service, if any. -/
def binding (r : RpcRoute) (channelSocket : Socket) (serviceName : ServiceName) : Option Socket :=
  r.channelServiceRegister[channelSocket]?.bind (·[serviceName]?)

def getServerSocket (r : RpcRoute) (channelSocket : Socket) (serviceName : ServiceName) :
    Option (Socket × RpcRoute) :=
  match r.binding channelSocket serviceName with
  | some socket => some (socket, r)
  | none => r.findServiceSocket serviceName ""

/-- An existing binding is kept: `insert` does not overwrite. -/
def bindChannel (r : RpcRoute) (channelSocket : Socket) (serviceName : ServiceName) (serverSocket : Socket) :
    RpcRoute :=
  let bindings := r.channelServiceRegister[channelSocket]?.getD ∅
  { r with
    channelServiceRegister :=
      r.channelServiceRegister.insert channelSocket (bindings.insertIfNew serviceName serverSocket) }

/-! ## Commands -/

variable [Protobuf]

def serverServiceRegister (r : RpcRoute) (socket : Socket) (binary : Bytes) : RpcRoute × Bool :=
  match (parse binary : Option RouteServiceInfo) with
  | none => (r, false)
  | some info => r.addService socket info.name info.addr

def serverServiceCancel (r : RpcRoute) (socket : Socket) (_binary : Bytes) : RpcRoute × Bool :=
  r.deleteService socket

def serverDisconnectChannelFunc (r : RpcRoute) (socket : Socket) (binary : Bytes) : RpcRoute × Bool :=
  match (parse binary : Option ServerDisconnectChannel) with
  | none => (r, false)
  | some request =>
    if r.isServiceSocket socket then (request.channelSocket.foldl netDisconnect r, true)
    else (r, false)

def registerChannelService (r : RpcRoute) (socket : Socket) (binary : Bytes) :
    Option (RpcRoute × Bool) :=
  match (parse binary : Option ChannelServiceRegister) with
  | none => some (r, false)
  | some register => do
    let (serverSocket, r) ← r.findServiceSocket register.serviceName register.serviceAddr
    if serverSocket = socketNull then return (r, false)
    else return (r.bindChannel socket register.serviceName serverSocket, true)

/-! ## The handlers of `OnReceive` -/

/-- The net info of the frame at `offset`, with all offsets in `int32_t`. -/
def getNetInfo (binary : Bytes) (offset : Int) : Except Failure NetInfo := do
  let curOffset := int32 (sizeofPacketSize + offset)
  let netSize ← readNumber sizeofNetInfoSize binary curOffset
  let curOffset := int32 (curOffset + sizeofNetInfoSize)
  if 0 < netSize then parseFromArray binary curOffset netSize else throw .refused

/-- The frame at `offset` with another net info. A net info that does not fit its size field does not
    serialize into it, and there is no packet. -/
def buildSendPacket (binary : Bytes) (offset : Int) (netInfo : NetInfo) : Except Failure Bytes := do
  let originalSize ← readNumber sizeofPacketSize binary offset
  let originalNetInfoSize ← readNumber sizeofNetInfoSize binary (offset + sizeofPacketSize)
  let copyOffset := int32 (offset + sizeofPacketSize + sizeofNetInfoSize + originalNetInfoSize)
  let copySize := uint32 (originalSize - sizeofNetInfoSize - originalNetInfoSize)
  let curNetInfoSize := uint16 (byteSize netInfo)
  let packetSize := uint32 (originalSize + curNetInfoSize - originalNetInfoSize)
  if byteSize netInfo ≤ curNetInfoSize then
    let rest ← readBytes binary copyOffset copySize
    return le sizeofPacketSize packetSize ++ (le sizeofNetInfoSize curNetInfoSize
      ++ (serialize netInfo ++ rest))
  else throw .refused

/-- Send one packet to several sockets; failures are only logged. -/
def sendAll [FrNet] (r : RpcRoute) (targets : List Socket) (packet : Option Bytes) : RpcRoute :=
  targets.foldl (fun r target => (r.netSend target packet).1) r

/-- The packet that `RouteProcess` makes of a channel's frame: the same frame, with the source socket
    stamped into its net info. -/
def channelPacket (binary : Bytes) (offset : Int) (netInfo : NetInfo) (routeNetInfo : RouteNetInfo)
    (socket : Socket) : Except Failure Bytes :=
  buildSendPacket binary offset
    { netInfo with netBinary := serialize { routeNetInfo with sourceSocket := socket } }

/-- A packet pointer: what is refused is a null pointer. -/
def packetPtr (packet : Except Failure Bytes) : Option (Option Bytes) :=
  match packet with
  | .ok packet => some (some packet)
  | .error .refused => some none
  | .error .undefined => none

def routeProcess [FrNet] (r : RpcRoute) (socket : Socket) (binary : Bytes) (offset : Int)
    (netInfo : NetInfo) : Option (RpcRoute × Bool) :=
  match (parse netInfo.netBinary : Option RouteNetInfo) with
  | none => some (r, false)
  | some routeNetInfo =>
    if routeNetInfo.isChannelPacket then do
      -- the packet's own targets are dropped; `SOCKET_NULL` is sent to like any other
      let (target, r) ← r.getServerSocket socket routeNetInfo.serviceName
      let packet ← packetPtr (channelPacket binary offset netInfo routeNetInfo socket)
      return (r.sendAll [target] packet, true)
    else do
      -- a server's packet goes out as it came in
      let size ← (readNumber sizeofPacketSize binary offset).toOption
      let packet ← (readBytes binary offset (sizeofPacketSize + size)).toOption
      return (r.sendAll routeNetInfo.targetSockets (some packet), true)

def commandProcess (r : RpcRoute) (socket : Socket) (netInfo : NetInfo) : Option (RpcRoute × Bool) :=
  match (parse netInfo.netBinary : Option RouteCmdRequest) with
  | none => some (r, false)
  | some request =>
    if request.cmd = eRouteCmdServerServiceRegister then
      some (r.serverServiceRegister socket request.requestBinary)
    else if request.cmd = eRouteCmdServerServiceCancel then
      some (r.serverServiceCancel socket request.requestBinary)
    else if request.cmd = eRouteCmdServerDisconnectChannel then
      some (r.serverDisconnectChannelFunc socket request.requestBinary)
    else if request.cmd = eRouteCmdChannelServiceRegister then
      r.registerChannelService socket request.requestBinary
    else some (r, false)

/-- The frame goes back to its sender. -/
def heartProcess [FrNet] (r : RpcRoute) (socket : Socket) (binary : Bytes) (offset : Int) :
    Option (RpcRoute × Bool) := do
  let size ← (readNumber sizeofPacketSize binary offset).toOption
  let packet ← (readBytes binary offset (size + sizeofPacketSize)).toOption
  return r.netSend socket (some packet)

/-- The handlers `OnReceive` chooses from. -/
inductive Handler where
  | route | command | heart
deriving DecidableEq, Repr

/-- The `switch` on the net type. -/
def handlerOf (netType : ENetType) : Option Handler :=
  if netType = eNetTypeRoute then some .route
  else if netType = eNetTypeRouteCmd then some .command
  else if netType = eNetTypeHeart then some .heart
  else none

def handle [FrNet] (handler : Handler) (r : RpcRoute) (socket : Socket) (binary : Bytes) (offset : Int)
    (netInfo : NetInfo) : Option (RpcRoute × Bool) :=
  match handler with
  | .route => r.routeProcess socket binary offset netInfo
  | .command => r.commandProcess socket netInfo
  | .heart => r.heartProcess socket binary offset

/-- One call of a handler: which one, with what net info, for which bytes. -/
structure Dispatch where
  handler : Handler
  netInfo : NetInfo
  frame : Bytes
deriving DecidableEq, Repr

/-- The gateway, and the handler calls it has made. -/
abbrev Logged := RpcRoute × List Dispatch

/-- The loop of `OnReceive`. `read_size` is set behind the loop only. A frame is at least five bytes, so
    the buffer's length is fuel enough. -/
def onReceiveLoop [FrNet] (socket : Socket) (binary : Bytes) : Nat → Logged → Int → Reception Logged
  | 0, s, _ => ⟨s, 0, .error .undefined⟩
  | fuel + 1, (r, log), curOffset =>
    if sizeofPacketSize < sizeSub binary.length curOffset then
      match readNumber sizeofPacketSize binary curOffset with
      | .error e => ⟨(r, log), 0, .error e⟩
      | .ok size =>
        if netPacketMaxSize ≤ size then ⟨(r, log), 0, .error .refused⟩
        else if size = 0 then ⟨(r, log), 0, .error .refused⟩
        else
          let curPacketSize := uint32 (size + sizeofPacketSize)
          -- the last frame is incomplete: the ones before it stay unread too
          if sizeSub binary.length curOffset < curPacketSize then ⟨(r, log), 0, .ok ()⟩
          else
            match getNetInfo binary curOffset with
            | .error e => ⟨(r, log), 0, .error e⟩
            | .ok netInfo =>
              match handlerOf netInfo.netType with
              | none => ⟨(r, log), 0, .error .refused⟩
              | some handler =>
                let frame := (window binary curOffset curPacketSize).getD []
                let log := log ++ [⟨handler, netInfo, frame⟩]
                match handle handler r socket binary curOffset netInfo with
                -- the handler's changes stay, also when it fails
                | none => ⟨(r, log), 0, .error .undefined⟩
                | some (r, false) => ⟨(r, log), 0, .error .refused⟩
                | some (r, true) =>
                  onReceiveLoop socket binary fuel (r, log) (int32 (curOffset + curPacketSize))
    else ⟨(r, log), sizeT curOffset, .ok ()⟩

def updateSocket (r : RpcRoute) (socket : Socket) : RpcRoute :=
  { r with rpcHeart := r.rpcHeart.updateSocket socket }

/-- `OnReceive`, called with `read_size = 0`. -/
def onReceive [FrNet] (s : Logged) (socket : Socket) (binary : Bytes) : Reception Logged :=
  onReceiveLoop socket binary (binary.length + 1) (s.1.updateSocket socket, s.2) 0

/-! ## Connection events -/

omit [Protobuf]

def onConnect (r : RpcRoute) (socket : Socket) : RpcRoute :=
  { r with rpcHeart := r.rpcHeart.addSocket socket }

/-- A service loses its registration, any other socket its bindings. -/
def onDisconnect (r : RpcRoute) (socket : Socket) : RpcRoute :=
  let r := { r with rpcHeart := r.rpcHeart.delSocket socket }
  if r.isServiceSocket socket then (r.deleteService socket).1
  else { r with channelServiceRegister := r.channelServiceRegister.erase socket }

/-- The bindings stay. -/
def onClose (r : RpcRoute) : RpcRoute := { r with service2info := ∅, serviceSocket2name := ∅ }

end RpcRoute

end Frrpc
