import Frrpc.Public.Define
import Frrpc.Lib.Protobuf.Codec

/-!
# `Pb.Message` — the messages of `net.proto`, `route.proto` and `frrpc.proto`

A message type is a structure with the fields of its `.proto` declaration; enumerations are open in proto3,
so an enumeration field holds any `int32` and the declared values are named constants.

How a message becomes bytes is the protocol-buffer library's business, which is not part of this
repository: `Protobuf` collects one codec (`Lib.PbMessage`) for each message, and the model is written for
any such collection. `Pb.Wire` builds the one the generated code uses.
-/

namespace Frrpc

open Lib

/-! ## `net.proto` -/

abbrev ENetType := Int32

def eNetTypeTmp : ENetType := 0
def eNetTypeRoute : ENetType := 0x1
def eNetTypeSpecial : ENetType := 0xEF
def eNetTypeRouteCmd : ENetType := 0xF1
def eNetTypeHeart : ENetType := 0xF2
def eNetTypeRouteNotify : ENetType := 0xF4

structure NetInfo where
  netType : ENetType
  netBinary : Bytes
deriving DecidableEq, Repr, Inhabited

/-! ## `route.proto` -/

abbrev ERouteCmd := Int32

def eRouteCmdChannelServiceRegister : ERouteCmd := 1
def eRouteCmdServerDisconnectChannel : ERouteCmd := 2
def eRouteCmdServerServiceRegister : ERouteCmd := 3
def eRouteCmdServerServiceCancel : ERouteCmd := 4

structure RouteNetInfo where
  isChannelPacket : Bool
  serviceName : ServiceName
  targetSockets : List Socket
  sourceSocket : Socket
deriving DecidableEq, Repr, Inhabited

structure RouteCmdRequest where
  cmd : ERouteCmd
  requestBinary : Bytes
deriving DecidableEq, Repr, Inhabited

structure RouteCmdResponse where
  cmd : ERouteCmd
deriving DecidableEq, Repr, Inhabited

structure ChannelServiceRegister where
  serviceName : ServiceName
  serviceAddr : ServiceAddr
deriving DecidableEq, Repr, Inhabited

structure ServerDisconnectChannel where
  channelSocket : List Socket
deriving DecidableEq, Repr, Inhabited

structure RouteServiceInfo where
  name : ServiceName
  addr : ServiceAddr
deriving DecidableEq, Repr, Inhabited

abbrev ERouteNotifyType := Int32

def eRouteNotifyTypeDisconnect : ERouteNotifyType := 1

structure RouteNotify where
  type : ERouteNotifyType
  data : Bytes
deriving DecidableEq, Repr, Inhabited

structure NotifyTypeDisconnect where
  socket : Socket
deriving DecidableEq, Repr, Inhabited

/-! ## `frrpc.proto` -/

/-- The events a packet can carry; this enumeration is only ever set by the library itself. -/
inductive ERpcEvent where
  | tmp | method | connection | disconnection
deriving DecidableEq, Repr, Inhabited

structure RpcRequestMeta where
  requestId : RpcRequestId
deriving DecidableEq, Repr, Inhabited

structure RpcResponseMeta where
  error : String
  failed : Bool
deriving DecidableEq, Repr, Inhabited

/-- A message field has presence; its accessor returns the default message when it is absent. -/
structure RpcMeta where
  serviceName : ServiceName
  methodIndex : Int32
  requestMeta : Option RpcRequestMeta
  responseMeta : Option RpcResponseMeta
  compressType : Int32
deriving DecidableEq, Repr, Inhabited

def RpcMeta.rpcRequestMeta (m : RpcMeta) : RpcRequestMeta := m.requestMeta.getD default

def RpcMeta.rpcResponseMeta (m : RpcMeta) : RpcResponseMeta := m.responseMeta.getD default

/-! ## Codecs -/

/-- The codecs of all messages; a net info contains its binary. -/
class Protobuf where
  netInfo : PbMessage NetInfo
  routeNetInfo : PbMessage RouteNetInfo
  routeCmdRequest : PbMessage RouteCmdRequest
  routeCmdResponse : PbMessage RouteCmdResponse
  channelServiceRegister : PbMessage ChannelServiceRegister
  serverDisconnectChannel : PbMessage ServerDisconnectChannel
  routeServiceInfo : PbMessage RouteServiceInfo
  routeNotify : PbMessage RouteNotify
  notifyTypeDisconnect : PbMessage NotifyTypeDisconnect
  rpcMeta : PbMessage RpcMeta
  netBinary_length_le : ∀ m : NetInfo, m.netBinary.length ≤ (netInfo.serialize m).length

attribute [reducible, instance] Protobuf.netInfo Protobuf.routeNetInfo Protobuf.routeCmdRequest
  Protobuf.routeCmdResponse Protobuf.channelServiceRegister Protobuf.serverDisconnectChannel
  Protobuf.routeServiceInfo Protobuf.routeNotify Protobuf.notifyTypeDisconnect Protobuf.rpcMeta

end Frrpc
