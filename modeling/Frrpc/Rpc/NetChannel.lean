import Frrpc.Rpc.NetBase

/-!
# `Rpc.NetChannel` — the client's connection to the gateway (`net_channel.h`, `net_channel.cpp`)

`RpcChannelRoute` keeps the queue of received packets and the packets handed to the network client.
-/

namespace Frrpc

open Lib

structure RpcChannelRoute where
  packetQueue : List RpcPacket
  sent : List Bytes
deriving DecidableEq, Repr

namespace RpcChannelRoute

def pushMessageToQueue (c : RpcChannelRoute) (packet : RpcPacket) : RpcChannelRoute :=
  { c with packetQueue := c.packetQueue ++ [packet] }

def clientSend [FrNet] (c : RpcChannelRoute) (packet : Bytes) : RpcChannelRoute × Bool :=
  ({ c with sent := c.sent ++ [packet] },
    FrNet.clientSend 0 c.sent packet == FrNet.eNetSendResultOk)

def disconnect (c : RpcChannelRoute) (linkId : LinkID) : RpcChannelRoute × Bool :=
  (c.pushMessageToQueue (.new linkId .disconnection), true)

variable [Protobuf]

def registerService [FrNet] (c : RpcChannelRoute) (serviceName : ServiceName)
    (serviceAddr : ServiceAddr) : RpcChannelRoute × Bool :=
  c.clientSend (buildBinaryFromMessageCmd eRouteCmdChannelServiceRegister
    (serialize (⟨serviceName, serviceAddr⟩ : ChannelServiceRegister)))

/-- The net info `Send` puts before a meta. -/
def sendNetInfo (rpcMeta : RpcMeta) : NetInfo :=
  ⟨eNetTypeRoute, serialize (⟨true, rpcMeta.serviceName, [], socketNull⟩ : RouteNetInfo)⟩

def send [FrNet] (c : RpcChannelRoute) (rpcMeta : RpcMeta) (body : Bytes) : RpcChannelRoute × Bool :=
  c.clientSend (buildBinaryFromMessage (sendNetInfo rpcMeta) rpcMeta body)

/-- The `switch` on the net type. -/
def dispatch (c : RpcChannelRoute) (netInfo : NetInfo) (packet : RpcPacket) :
    Except Failure RpcChannelRoute :=
  if netInfo.netType = eNetTypeRoute then .ok (c.pushMessageToQueue packet)
  else if netInfo.netType = eNetTypeHeart then .ok c
  else if netInfo.netType = eNetTypeRouteCmd then .ok c
  else .error .refused

/-- One frame: its size and what handling it makes of the channel. `none` when it is incomplete. -/
def receiveOne (c : RpcChannelRoute) (binary : Bytes) (offset : Int) (readSize : Nat) :
    Except Failure (Option (RpcChannelRoute × Nat)) := do
  let size ← getAndCheckPacketSize binary offset
  if sizeSub binary.length readSize < size + sizeofPacketSize then return none
  else
    let (netInfo, packet) ← getMessageFromBinary binary offset default (some (.new 0 .method))
    let c ← c.dispatch netInfo (packet.getD (.new 0 .method))
    return some (c, size)

/-- `OnReceive`, called with `read_size = 0`; the guard and the size check use the read size. -/
def onReceive (c : RpcChannelRoute) (binary : Bytes) : Reception RpcChannelRoute :=
  receiveLoop (fun _ readSize => sizeSub binary.length readSize)
    (fun c offset readSize => c.receiveOne binary offset readSize) (binary.length + 1) c 0 0

def onConnect (c : RpcChannelRoute) (socket : Socket) : RpcChannelRoute :=
  c.pushMessageToQueue (.new socket.toInt64.toUInt64 .connection)

def onDisconnect (c : RpcChannelRoute) (socket : Socket) : RpcChannelRoute :=
  c.pushMessageToQueue (.new socket.toInt64.toUInt64 .disconnection)

end RpcChannelRoute

end Frrpc
