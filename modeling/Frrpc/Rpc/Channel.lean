import Std.Data.ExtTreeMap.Lemmas
import Frrpc.Rpc.NetChannel

/-!
# `Rpc.Channel` — requests of a client (`channel.h`, `channel.cpp`, `callback.cpp`, `controller.h`)

A request waits in `request_callback_` under its id until a response, its timeout or a cancel takes it out;
what was answered goes to `already_callback_queue_` for the work threads. `CallMethod` is given by its four
steps, which other threads may come between. `none` stands for undefined behaviour: a null binary that is
dereferenced, or a mutex that is locked twice.
-/

namespace Frrpc

open Lib Std

/-- Closures are told apart by a number. -/
abbrev Closure := Nat

structure ChannelController where
  isSync : Bool
  requestId : RpcRequestId
  error : String
deriving DecidableEq, Repr

namespace ChannelController

def failed (cntl : ChannelController) : Bool := cntl.error ≠ ""

def setFailed (cntl : ChannelController) (reason : String) : ChannelController :=
  { cntl with error := reason }

theorem failed_iff (cntl : ChannelController) : cntl.failed = true ↔ cntl.error ≠ "" := decide_eq_true_iff

end ChannelController

/-- The object behind a `ChannelCallback*`, at the address `ptr`. `response` is what the response message
    was last told to parse. -/
structure ChannelCallback where
  ptr : Nat
  cntl : ChannelController
  response : Option Bytes
  callback : Option Closure
deriving DecidableEq, Repr

def ChannelCallback.setFailed (c : ChannelCallback) (reason : String) : ChannelCallback :=
  { c with cntl := c.cntl.setFailed reason }

@[simp] theorem ChannelCallback.setFailed_ptr (c : ChannelCallback) (reason : String) :
    (c.setFailed reason).ptr = c.ptr := rfl

/-- A callback registered for a server's pushes, by the function it calls. -/
structure CallbackInfo where
  function : Closure
deriving DecidableEq, Repr

structure RequestTimeoutEvent where
  timeout : Int
  requestId : RpcRequestId
deriving DecidableEq, Repr

structure ChannelOption where
  compressType : Int32
  requestTimeout : Int32
deriving DecidableEq, Repr

/-- The arguments of `CallMethod`. `isSync` is that of the controller, if it is a `ChannelController`;
    `response` tells whether the pointer is not null. -/
structure MethodCall where
  serviceName : ServiceName
  methodIndex : Int32
  isSync : Option Bool
  request : Bytes
  response : Bool
  done : Option Closure
deriving DecidableEq, Repr

structure Channel where
  initSuccess : Bool
  option : ChannelOption
  rpcNet : RpcChannelRoute
  requestId : RpcRequestId
  requestCallback : ExtTreeMap RpcRequestId ChannelCallback
  registerCallback : ExtTreeMap String CallbackInfo
  alreadyCallbackQueue : List ChannelCallback
  timeoutEvents : List RequestTimeoutEvent
  /-- The address of the next `new ChannelCallback`. -/
  nextPtr : Nat

def convertMethodKey (serviceName : ServiceName) (methodIndex : Int32) : String :=
  serviceName ++ "." ++ toString methodIndex.toInt

namespace Channel

/-- A channel as `StartRoute` leaves it. -/
def started (option : ChannelOption) : Channel := ⟨true, option, ⟨[], []⟩, 0, ∅, ∅, [], [], 0⟩

/-! ## `CallMethod` -/

/-- The checks before anything is done. -/
def admits (c : Channel) (method : MethodCall) : Bool :=
  c.initSuccess && method.response &&
    match method.isSync with
    | none => false
    | some isSync => isSync || method.done.isSome

/-- `++request_id_`, an atomic `uint64_t`. -/
def allocate (c : Channel) : Channel := { c with requestId := c.requestId + 1 }

/-- The insertion under the lock; it is refused when the id is pending already. -/
def insertCallback (c : Channel) (method : MethodCall) (requestId : RpcRequestId) : Option Channel :=
  if c.requestCallback.contains requestId then none
  else
    let callback : ChannelCallback :=
      ⟨c.nextPtr, ⟨method.isSync.getD false, requestId, ""⟩, none, method.done⟩
    some { c with
      requestCallback := c.requestCallback.insertIfNew requestId callback
      nextPtr := c.nextPtr + 1 }

/-- The meta of a request. -/
def requestMeta (c : Channel) (method : MethodCall) (requestId : RpcRequestId) : RpcMeta :=
  ⟨method.serviceName, method.methodIndex, some ⟨requestId⟩, none, c.option.compressType⟩

def sendRequest [Protobuf] [FrNet] (c : Channel) (method : MethodCall) (requestId : RpcRequestId) :
    Channel × Bool :=
  let (rpcNet, ret) := c.rpcNet.send (c.requestMeta method requestId) method.request
  ({ c with rpcNet }, ret)

/-- The event carries the member `request_id_`, read when it is pushed. -/
def pushTimeout (c : Channel) (localTimeMs : Int) : Channel :=
  { c with
    timeoutEvents := c.timeoutEvents ++ [⟨localTimeMs + c.option.requestTimeout.toInt, c.requestId⟩] }

/-! ## Completion -/

/-- Queue the callback and erase its entry. -/
def finish (c : Channel) (requestId : RpcRequestId) (callback : ChannelCallback) : Channel :=
  { c with
    alreadyCallbackQueue := c.alreadyCallbackQueue ++ [callback]
    requestCallback := c.requestCallback.erase requestId }

/-- `int request_id = …` keeps 32 bits, and the lookup converts them back with their sign. -/
def requestKey (requestId : RpcRequestId) : RpcRequestId :=
  requestId.toUInt32.toInt32.toInt64.toUInt64

/-- The response is parsed through `package->binary`, unless it reports an error. -/
def doRequestPacket (c : Channel) (package : RpcPacket) : Option Channel :=
  let requestId := requestKey package.rpcMeta.rpcRequestMeta.requestId
  match c.requestCallback[requestId]? with
  -- a late response, or one that was answered already
  | none => some c
  | some callback =>
    let callback := callback.setFailed package.rpcMeta.rpcResponseMeta.error
    if callback.cntl.failed then some (c.finish requestId callback)
    else do
      let binary ← package.binary
      return c.finish requestId { callback with response := some binary }

/-- A push makes a callback of its own. -/
def doRegisterPacket (c : Channel) (package : RpcPacket) : Option Channel :=
  match c.registerCallback[convertMethodKey package.rpcMeta.serviceName package.rpcMeta.methodIndex]? with
  | none => some c
  | some info => do
    let binary ← package.binary
    let callback : ChannelCallback :=
      ⟨c.nextPtr, ⟨false, rpcRequestIdNull, package.rpcMeta.rpcResponseMeta.error⟩, some binary,
        some info.function⟩
    return { c with
      alreadyCallbackQueue := c.alreadyCallbackQueue ++ [callback]
      nextPtr := c.nextPtr + 1 }

/-- The entry of a due timeout event, if it is still there. -/
def expire (c : Channel) (requestId : RpcRequestId) : Channel :=
  match c.requestCallback[requestId]? with
  | none => c
  | some callback => c.finish requestId (callback.setFailed "request timeout")

/-- The loop of `ClearTimeoutRequest`; it stops at the first event that is not due. -/
def clearTimeoutLoop (curTime : Int) : List RequestTimeoutEvent → Channel → Channel
  | [], c => { c with timeoutEvents := [] }
  | event :: events, c =>
    -- the later events wait for this one, due or not
    if curTime < event.timeout then { c with timeoutEvents := event :: events }
    else clearTimeoutLoop curTime events (c.expire event.requestId)

def clearTimeoutRequest (c : Channel) (curTime : Int) : Channel :=
  clearTimeoutLoop curTime c.timeoutEvents c

def cancelRequest (c : Channel) (requestId : RpcRequestId) : Channel × Bool :=
  if c.requestCallback.contains requestId then
    ({ c with requestCallback := c.requestCallback.erase requestId }, true)
  else (c, false)

/-- The callback that a cancel drops; nothing deletes it. -/
def droppedBy (c : Channel) (requestId : RpcRequestId) : List Nat :=
  (c.requestCallback[requestId]?.map ChannelCallback.ptr).toList

/-- A key that is there already is deleted first, which locks the mutex again. -/
def registerCallbackInfo (c : Channel) (callbackKey : String) (info : CallbackInfo) : Option Channel :=
  if !c.initSuccess then some c
  else if c.registerCallback.contains callbackKey then none
  else some { c with registerCallback := c.registerCallback.insertIfNew callbackKey info }

end Channel

end Frrpc
