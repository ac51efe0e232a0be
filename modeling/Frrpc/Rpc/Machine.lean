import Frrpc.Lib.Machine
import Frrpc.Rpc.Channel

/-!
# `Rpc.Machine` — the threads of a channel

Any number of `CallMethod` invocations, parse threads and work threads share one channel. A step is one
body that runs under `mutex_request_map_`, or one of the unlocked steps of an invocation: taking the id,
sending, and pushing the timeout event. A work thread takes a batch from the queue and calls its callbacks
one by one; `called` records these calls. Packets, times and batch sizes are arbitrary.
-/

namespace Frrpc

open Lib

/-- How far an invocation of `CallMethod` has come. Once its event is pushed it returns, or waits for the
    callback at `ptr` if it is synchronous. -/
inductive Stage where
  | allocated
  | inserted (ptr : Nat)
  | sent (ptr : Nat)
  | scheduled (ptr : Nat) (localTimeMs : Int)
  | returned
deriving DecidableEq, Repr

structure Invocation where
  method : MethodCall
  requestId : RpcRequestId
  stage : Stage
deriving DecidableEq, Repr

/-- A channel with its invocations, in the order they took their ids, and its work threads' batches. -/
structure ChannelThreads where
  channel : Channel
  invocations : List Invocation
  batches : List (List ChannelCallback)
  called : List ChannelCallback

namespace ChannelThreads

/-- A started channel with this many work threads. -/
def started (option : ChannelOption) (workThreadNum : Nat) : ChannelThreads :=
  ⟨.started option, [], List.replicate workThreadNum [], []⟩

inductive Event where
  /-- `CallMethod` up to the id. -/
  | allocate (method : MethodCall)
  | insert (index : Nat)
  | send (index : Nat)
  | schedule (index : Nat) (localTimeMs : Int)
  | requestPacket (package : RpcPacket)
  | registerPacket (package : RpcPacket)
  | clearTimeout (curTime : Int)
  | cancel (requestId : RpcRequestId)
  | registerCallback (callbackKey : String) (info : CallbackInfo)
  /-- A work thread without a batch takes one. -/
  | pop (thread : Nat) (dealMsgNumOnce : Nat)
  /-- A work thread calls the next callback of its batch. -/
  | call (thread : Nat)

def setStage (s : ChannelThreads) (index : Nat) (invocation : Invocation) (stage : Stage) :
    ChannelThreads :=
  { s with invocations := s.invocations.set index { invocation with stage } }

/-- An invocation that passes the checks takes an id; one that does not returns. -/
def allocate (s : ChannelThreads) (method : MethodCall) : ChannelThreads :=
  if s.channel.admits method then
    let channel := s.channel.allocate
    { s with channel, invocations := s.invocations ++ [⟨method, channel.requestId, .allocated⟩] }
  else s

def insert (s : ChannelThreads) (index : Nat) : Option ChannelThreads :=
  match s.invocations[index]? with
  | some ⟨method, requestId, .allocated⟩ =>
    match s.channel.insertCallback method requestId with
    -- the id is pending: the call returns, and is neither sent nor timed
    | none => some (s.setStage index ⟨method, requestId, .allocated⟩ .returned)
    | some channel =>
      some ({ s with channel }.setStage index ⟨method, requestId, .allocated⟩
        (.inserted s.channel.nextPtr))
  | _ => none

def pushTimeout (s : ChannelThreads) (index : Nat) (localTimeMs : Int) : Option ChannelThreads :=
  match s.invocations[index]? with
  | some ⟨method, requestId, .sent ptr⟩ =>
    some ({ s with channel := s.channel.pushTimeout localTimeMs }.setStage index
      ⟨method, requestId, .sent ptr⟩ (.scheduled ptr localTimeMs))
  | _ => none

def pop (s : ChannelThreads) (thread dealMsgNumOnce : Nat) : Option ChannelThreads :=
  match s.batches[thread]? with
  | some [] => some { s with
      channel := { s.channel with
        alreadyCallbackQueue := s.channel.alreadyCallbackQueue.drop dealMsgNumOnce }
      batches := s.batches.set thread (s.channel.alreadyCallbackQueue.take dealMsgNumOnce) }
  | _ => none

def call (s : ChannelThreads) (thread : Nat) : Option ChannelThreads :=
  match s.batches[thread]? with
  | some (callback :: batch) =>
    some { s with batches := s.batches.set thread batch, called := s.called ++ [callback] }
  | _ => none

variable [Protobuf] [FrNet]

/-- An invocation whose `Send` fails returns. -/
def send (s : ChannelThreads) (index : Nat) : Option ChannelThreads :=
  match s.invocations[index]? with
  | some ⟨method, requestId, .inserted ptr⟩ =>
    let (channel, ret) := s.channel.sendRequest method requestId
    some ({ s with channel }.setStage index ⟨method, requestId, .inserted ptr⟩
      (if ret then .sent ptr else .returned))
  | _ => none

def step (s : ChannelThreads) : Event → Option ChannelThreads
  | .allocate method => some (s.allocate method)
  | .insert index => s.insert index
  | .send index => s.send index
  | .schedule index localTimeMs => s.pushTimeout index localTimeMs
  | .requestPacket package => (s.channel.doRequestPacket package).map fun channel => { s with channel }
  | .registerPacket package => (s.channel.doRegisterPacket package).map fun channel => { s with channel }
  | .clearTimeout curTime => some { s with channel := s.channel.clearTimeoutRequest curTime }
  | .cancel requestId => some { s with channel := (s.channel.cancelRequest requestId).1 }
  | .registerCallback callbackKey info =>
    (s.channel.registerCallbackInfo callbackKey info).map fun channel => { s with channel }
  | .pop thread dealMsgNumOnce => s.pop thread dealMsgNumOnce
  | .call thread => s.call thread

end ChannelThreads

end Frrpc
