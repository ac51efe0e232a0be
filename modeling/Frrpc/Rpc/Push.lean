import Frrpc.Rpc.AddService
import Frrpc.Rpc.Register

/-!
# `Rpc.Push` — messages that no client asked for (`Server::SendRpcMessage`, `Server::Disconnect`)

A server names a method of one of its services and sends a message to the channels of some link ids; the
channels that have registered a callback for the method run it. Both sides number the methods of a service
by the same descriptor, which is generated code: `ServiceDescriptor` is a service's method names.
-/

namespace Frrpc

open Lib Std

/-- `GetDescriptor()` of a service. -/
structure ServiceDescriptor where
  name : ServiceName
  methodNames : List String
deriving DecidableEq, Repr

/-- `FindMethodByName(method_name)->index()`; for a name that is not there the pointer is null. -/
def ServiceDescriptor.methodIndex (descriptor : ServiceDescriptor) (methodName : String) : Option Int32 :=
  (descriptor.methodNames.idxOf? methodName).map Int32.ofNat

/-! ## The server -/

/-- The meta of a push; its request id is null. -/
def pushMeta (serviceName : ServiceName) (methodIndex : Int32) : RpcMeta :=
  ⟨serviceName, methodIndex, some ⟨rpcRequestIdNull⟩, none, 0⟩

namespace RpcServerRoute

variable [Protobuf] [FrNet]

def disconnect (s : RpcServerRoute) (linkId : LinkID) : Option (RpcServerRoute × Bool) := do
  let routeId ← getRouteID s.routeLength linkId
  match s.routeClientList[routeId.toNat]? with
  | none => return (s, false)
  | some client => do
    let (client, ret) ← client.disconnect s.routeLength linkId
    return ({ s with routeClientList := s.routeClientList.set routeId.toNat client }, ret)

end RpcServerRoute

namespace Server

variable [Protobuf] [FrNet] [Serializer]

/-- Both `SendRpcMessage`s, by the `Send` that they use; the service is looked up first. -/
def sendPush (s : Server) (descriptor : ServiceDescriptor) (methodName : String)
    (send : RpcServerRoute → RpcMeta → Option (RpcServerRoute × Bool)) : Option (Server × Bool) :=
  match getServiceFromName s.name2Service descriptor.name with
  | none => some (s, false)
  | some _ => do
    let methodIndex ← descriptor.methodIndex methodName
    let (rpcNet, ret) ← send s.rpcNet (pushMeta descriptor.name methodIndex)
    return ({ s with rpcNet }, ret)

/-- `SendRpcMessage` to one link id. -/
def sendRpcMessage (s : Server) (descriptor : ServiceDescriptor) (linkId : LinkID) (methodName : String)
    (response : Bytes) : Option (Server × Bool) :=
  s.sendPush descriptor methodName fun rpcNet rpcMeta => rpcNet.send linkId rpcMeta response

/-- `SendRpcMessage` to a list of link ids. -/
def sendRpcMessages (s : Server) (descriptor : ServiceDescriptor) (linkIds : List LinkID)
    (methodName : String) (response : Bytes) : Option (Server × Bool) :=
  s.sendPush descriptor methodName fun rpcNet rpcMeta => rpcNet.sendAll linkIds rpcMeta response

omit [Serializer] in
def disconnect (s : Server) (linkId : LinkID) : Option (Server × Bool) :=
  (s.rpcNet.disconnect linkId).map fun (rpcNet, ret) => ({ s with rpcNet }, ret)

end Server

/-! ## The channel -/

/-- The key under which `RegisterCallback` puts a function for a method of a stub. -/
def registerKey (descriptor : ServiceDescriptor) (methodName : String) : Option String :=
  (descriptor.methodIndex methodName).map (convertMethodKey descriptor.name)

end Frrpc
