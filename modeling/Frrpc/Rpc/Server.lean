import Std.Data.ExtTreeMap.Lemmas
import Frrpc.Lib.Machine
import Frrpc.Public.Serializable

/-!
# `Rpc.Server` — the work thread of a server (`server.h`, `server.cpp`, `controller.h`)

A work thread makes one controller, one message and one permanent closure, and uses them for all requests:
it sets the link, parses the packet into the message, calls the service, and clears both afterwards. A
handler keeps the closure and may run it as often and as late as it likes. `none` stands for undefined
behaviour: a null binary that is dereferenced, or a method index out of range.
-/

namespace Frrpc

open Lib Std

def rpcLinkIdNull : LinkID := 0

/-- A method of a service, by the bodies that its request type parses. -/
structure MethodDescriptor where
  parses : Bytes → Bool

structure Service where
  methods : List MethodDescriptor

/-- `GetDescriptor()->method(index)`. -/
def Service.method (service : Service) (index : Int32) : Option MethodDescriptor :=
  if 0 ≤ index.toInt then service.methods[index.toInt.toNat]? else none

/-- `GetServiceFromName` in `name_2service_`. -/
def getServiceFromName (name2Service : ExtTreeMap ServiceName Service) (serviceName : ServiceName) :
    Option Service := name2Service[serviceName]?

structure ServerController where
  linkId : LinkID
  error : String
deriving DecidableEq, Repr

namespace ServerController

def reset (_cntl : ServerController) : ServerController := ⟨rpcLinkIdNull, ""⟩

def failed (cntl : ServerController) : Bool := cntl.error ≠ ""

end ServerController

/-- The request as it was parsed, and the response as it would be serialized; null pointers are `none`. -/
structure RpcMessage where
  rpcMeta : RpcMeta
  methodDescriptor : Option MethodDescriptor
  request : Option Bytes
  response : Option Bytes

namespace RpcMessage

def clear : RpcMessage := ⟨default, none, none, none⟩

def isCompleted (m : RpcMessage) : Bool :=
  m.rpcMeta.rpcRequestMeta.requestId ≠ rpcRequestIdNull && m.methodDescriptor.isSome && m.request.isSome
    && m.response.isSome

end RpcMessage

/-- The message after `ParseBinary`, and its result. -/
def parseBinary (name2Service : ExtTreeMap ServiceName Service) (packet : RpcPacket) :
    Option (RpcMessage × Bool) :=
  match getServiceFromName name2Service packet.rpcMeta.serviceName with
  | none => some (.clear, false)
  | some service => do
    let methodDescriptor ← service.method packet.rpcMeta.methodIndex
    let binary ← packet.binary
    let message : RpcMessage :=
      if methodDescriptor.parses binary then ⟨packet.rpcMeta, some methodDescriptor, some binary, some []⟩
      else .clear
    return (message, message.isCompleted)

/-! ## The work thread -/

/-- What is handed to `rpc_net_->Send`, with the `CallMethod` invocation for which the closure was run. -/
structure Response where
  invocation : Nat
  linkId : LinkID
  rpcMeta : RpcMeta
  body : Bytes
deriving DecidableEq, Repr

/-- A work thread: its controller and message, the packets for which `CallMethod` was invoked, the
    invocation that has not returned, and the runs of the closure with what they sent. -/
structure ServerWorker where
  name2Service : ExtTreeMap ServiceName Service
  cntl : ServerController
  rpcMessage : RpcMessage
  invocations : List RpcPacket
  current : Option Nat
  runs : List Nat
  sent : List Response

namespace ServerWorker

def started (name2Service : ExtTreeMap ServiceName Service) : ServerWorker :=
  ⟨name2Service, ⟨rpcLinkIdNull, ""⟩, .clear, [], none, [], []⟩

inductive Event where
  /-- The next packet, up to the call of `CallMethod`. -/
  | receive (package : RpcPacket)
  /-- The handler fails its controller. -/
  | setFailed (reason : String)
  /-- The handler fills its response. -/
  | respond (body : Bytes)
  /-- The handler of this invocation runs the closure. -/
  | run (invocation : Nat)
  /-- `CallMethod` returns. -/
  | finish

/-- One round of the loop, up to `CallMethod`. -/
def receive (s : ServerWorker) (package : RpcPacket) : Option ServerWorker := do
  let s := { s with cntl := { s.cntl with linkId := package.linkId } }
  if package.netEvent = .method then
    let (rpcMessage, parsed) ← parseBinary s.name2Service package
    if parsed then
      return { s with
        rpcMessage
        invocations := s.invocations ++ [package]
        current := some s.invocations.length }
    -- the controller is not reset
    else return { s with rpcMessage }
  else return s

/-- `Server::SendResponse`, on the controller and the message of the thread. -/
def sendResponse (s : ServerWorker) (invocation : Nat) : ServerWorker :=
  if s.cntl.linkId = rpcLinkIdNull then s
  else if !s.rpcMessage.isCompleted then s
  else
    let rpcMeta := { s.rpcMessage.rpcMeta with responseMeta := some ⟨s.cntl.error, s.cntl.failed⟩ }
    let rpcMessage := { s.rpcMessage with rpcMeta }
    { s with
      rpcMessage
      sent := s.sent ++ [⟨invocation, s.cntl.linkId, rpcMeta, rpcMessage.response.getD []⟩] }

def step (s : ServerWorker) : Event → Option ServerWorker
  | .receive package => if s.current = none then s.receive package else none
  | .setFailed reason =>
    if s.current = none then none else some { s with cntl := { s.cntl with error := reason } }
  | .respond body =>
    if s.current = none then none
    else some { s with rpcMessage := { s.rpcMessage with response := some body } }
  | .run invocation =>
    -- a handler has the closure once it was called
    if invocation < s.invocations.length then
      some { s.sendResponse invocation with runs := s.runs ++ [invocation] }
    else none
  | .finish =>
    if s.current = none then none
    else some { s with cntl := s.cntl.reset, rpcMessage := .clear, current := none }

end ServerWorker

end Frrpc
