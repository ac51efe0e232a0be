import Frrpc.Rpc.Machine

/-!
# `Rpc.Pipeline` — from the wire to the callbacks (`Channel::InitThreads`)

With one parse thread and one work thread, a packet passes four queues: the receive queue, the parse
thread's batch, the ready queue and the work thread's batch. The parse thread works off its batch and then
sweeps the timeouts; calls, cancels and registrations come from other threads. `queued` records every push
to the ready queue, with the index of the packet that caused it, or none for a timeout.
-/

namespace Frrpc

open Lib

/-- `IsRequestMode`: a response, and not a push. -/
def isRequestMode (package : RpcPacket) : Bool :=
  package.rpcMeta.rpcRequestMeta.requestId ≠ rpcRequestIdNull

/-- A channel's threads with the parse thread's batch, all packets that were received, how many of them were
    parsed, and the pushes to the ready queue. -/
structure Pipeline where
  threads : ChannelThreads
  parseQueue : List RpcPacket
  received : List RpcPacket
  parsed : Nat
  queued : List (ChannelCallback × Option Nat)

namespace Pipeline

/-- One parse thread and one work thread, which is the default. -/
def started (option : ChannelOption) : Pipeline := ⟨.started option 1, [], [], 0, []⟩

inductive Event where
  /-- `OnReceive` pushes a packet. -/
  | receive (package : RpcPacket)
  /-- The parse thread without a batch takes one. -/
  | fetch (parseNumOnce : Nat)
  /-- The parse thread handles the next packet of its batch. -/
  | parse
  /-- The timeout sweep, the work thread, and the steps of other threads. -/
  | threads (e : ChannelThreads.Event)

/-- The packets that wait to be fetched. -/
def packetQueue (s : Pipeline) : List RpcPacket := s.threads.channel.rpcNet.packetQueue

def setPacketQueue (s : Pipeline) (packetQueue : List RpcPacket) : Pipeline :=
  { s with threads := { s.threads with channel := { s.threads.channel with
      rpcNet := { s.threads.channel.rpcNet with packetQueue } } } }

/-- What was pushed to the ready queue. -/
def pushes (threads threads' : ChannelThreads) (trigger : Option Nat) :
    List (ChannelCallback × Option Nat) :=
  (threads'.channel.alreadyCallbackQueue.drop threads.channel.alreadyCallbackQueue.length).map
    fun callback => (callback, trigger)

variable [Protobuf] [FrNet]

/-- The body of the parse loop; a network event calls no callback of the channel's. -/
def parsePacket (threads : ChannelThreads) (package : RpcPacket) : Option ChannelThreads :=
  if package.netEvent = .method then
    if isRequestMode package then ChannelThreads.step threads (.requestPacket package)
    else ChannelThreads.step threads (.registerPacket package)
  else some threads

def step (s : Pipeline) : Event → Option Pipeline
  | .receive package =>
    some { s.setPacketQueue (s.packetQueue ++ [package]) with received := s.received ++ [package] }
  | .fetch parseNumOnce =>
    if s.parseQueue = [] then
      some { s.setPacketQueue (s.packetQueue.drop parseNumOnce) with
        parseQueue := s.packetQueue.take parseNumOnce }
    else none
  | .parse =>
    match s.parseQueue with
    | [] => none
    | package :: parseQueue =>
      (parsePacket s.threads package).map fun threads =>
        { s with
          threads
          parseQueue
          parsed := s.parsed + 1
          queued := s.queued ++ pushes s.threads threads (some s.parsed) }
  -- these two are the parse thread's
  | .threads (.requestPacket _) => none
  | .threads (.registerPacket _) => none
  | .threads (.clearTimeout curTime) =>
    if s.parseQueue = [] then
      (ChannelThreads.step s.threads (.clearTimeout curTime)).map fun threads =>
        { s with threads, queued := s.queued ++ pushes s.threads threads none }
    else none
  | .threads e => (ChannelThreads.step s.threads e).map fun threads => { s with threads }

/-- Nothing is left to be parsed or called. -/
def Drained (s : Pipeline) : Prop :=
  s.packetQueue = [] ∧ s.parseQueue = [] ∧ s.threads.channel.alreadyCallbackQueue = [] ∧
    s.threads.batches.flatten = []

end Pipeline

end Frrpc
