import Frrpc.Rpc.Machine

/-!
# `Rpc.Cancel` — cancelling an asynchronous request (`ChannelController::StartCancel`, `NotifyOnCancel`)

One asynchronous request and its controller, on a channel whose threads do anything else. A work thread that
has called the request's callback deletes it, and the controller with it; using the controller after that is
undefined.
-/

namespace Frrpc

open Lib

/-- The fields of a `ChannelController` that a cancel uses. -/
structure CancelController where
  isCancel : Bool
  requestId : RpcRequestId
  callback : Option Closure
deriving DecidableEq, Repr

namespace CancelController

def new : CancelController := ⟨false, rpcRequestIdNull, none⟩

def setRequestId (cntl : CancelController) (requestId : RpcRequestId) : CancelController :=
  { cntl with requestId }

def notifyOnCancel (cntl : CancelController) (callback : Closure) : CancelController :=
  { cntl with callback := some callback }

/-- The controller and its channel afterwards, and the closure that is run. -/
def startCancel (cntl : CancelController) (channel : Option Channel) :
    Except String (CancelController × Channel × Option Closure) :=
  match channel with
  | none => .error "channel is null. can not cancel request."
  | some channel =>
    let cntl := { cntl with isCancel := true }
    let (channel, ret) := channel.cancelRequest cntl.requestId
    if ret && cntl.requestId ≠ rpcRequestIdNull then
      .ok ({ cntl with requestId := rpcRequestIdNull }, channel, cntl.callback)
    else .ok (cntl, channel, none)

end CancelController

/-- The threads of a channel and a controller, with the invocation of its request and the callback that this
    one made, the closure that `NotifyOnCancel` was given, the closures that were run for it, and whether a
    `StartCancel` has taken the callback out of the map. -/
structure CancelThreads where
  threads : ChannelThreads
  cntl : CancelController
  index : Option Nat
  ptr : Option Nat
  deleted : Bool
  notified : Option Closure
  ran : List Closure
  cancelled : Bool

namespace CancelThreads

/-- A new controller, of a channel that has just started. -/
def started (option : ChannelOption) (workThreadNum : Nat) : CancelThreads :=
  ⟨.started option workThreadNum, .new, none, none, false, none, [], false⟩

inductive Event where
  /-- A step of the channel's threads. -/
  | threads (e : ChannelThreads.Event)
  /-- The controller's request: `CallMethod` up to the id. -/
  | callMethod (method : MethodCall)
  | notifyOnCancel (callback : Closure)
  | startCancel
  /-- A work thread deletes the callback that it has called. -/
  | delete

/-- The callback that an invocation has just inserted. -/
def inserted (threads : ChannelThreads) (index : Nat) : Option Nat :=
  match threads.invocations[index]? with
  | some ⟨_, _, .inserted ptr⟩ => some ptr
  | _ => none

/-- The request's callback has been called. -/
def completed (s : CancelThreads) : Bool :=
  s.threads.called.any fun callback => s.ptr = some callback.ptr

/-- A cancel takes the request's callback out of the map. -/
def drops (s : CancelThreads) (requestId : RpcRequestId) : Bool :=
  s.ptr.any fun ptr => ptr ∈ s.threads.channel.droppedBy requestId

def callMethod (s : CancelThreads) (method : MethodCall) : CancelThreads :=
  if s.threads.channel.admits method then
    let threads := s.threads.allocate method
    { s with
      threads
      index := some s.threads.invocations.length
      cntl := s.cntl.setRequestId threads.channel.requestId }
  else s

/-- The controller was made with its channel. -/
def startCancel (s : CancelThreads) : Option CancelThreads :=
  match s.cntl.startCancel (some s.threads.channel) with
  | .error _ => none
  | .ok (cntl, channel, callback) => some { s with
      threads := { s.threads with channel }
      cntl
      ran := s.ran ++ callback.toList
      cancelled := s.cancelled || s.drops s.cntl.requestId }

variable [Protobuf] [FrNet]

def step (s : CancelThreads) : Event → Option CancelThreads
  | .threads (.insert index) =>
    (ChannelThreads.step s.threads (.insert index)).map fun threads =>
      { s with threads, ptr := if s.index = some index then inserted threads index else s.ptr }
  | .threads (.cancel requestId) =>
    -- another controller's, which is not for this request
    if s.drops requestId then none
    else (ChannelThreads.step s.threads (.cancel requestId)).map fun threads => { s with threads }
  | .threads e => (ChannelThreads.step s.threads e).map fun threads => { s with threads }
  | .callMethod method =>
    if s.index = none ∧ method.isSync = some false then some (s.callMethod method) else none
  -- `NotifyOnCancel` must be called no more than once
  | .notifyOnCancel callback =>
    if s.deleted = false ∧ s.notified = none then
      some { s with cntl := s.cntl.notifyOnCancel callback, notified := some callback }
    else none
  | .startCancel => if s.deleted then none else s.startCancel
  | .delete => if s.completed ∧ s.deleted = false then some { s with deleted := true } else none

end CancelThreads

end Frrpc
