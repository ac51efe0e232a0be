import Frrpc.Rpc.Pipeline
import Frrpc.Rpc.Correctness.Expire

/-!
# `Rpc.Correctness.Order` — the four queues are one

The callbacks that were called, the work thread's batch and the ready queue, in this order, form one line:
a pop and a call only move its marks, and a push goes to its end (`Flow`). Only the parse thread pushes, so
the line is what it pushed, in the order of the packets that it parsed; and what it parsed, its batch and
the receive queue are the packets in the order of their arrival (`Traced`). So the callbacks run in the order
of their packets (`message_order`), and the queues can be drained at any time (`drainable`).
-/

namespace Frrpc

open Lib Std

/-- The callback reports what the packet carries. -/
def Reports (package : RpcPacket) (callback : ChannelCallback) : Prop :=
  callback.cntl.error = package.rpcMeta.rpcResponseMeta.error ∧
    (package.rpcMeta.rpcResponseMeta.error = "" → callback.response = package.binary)

namespace Channel

/-! ## Pushes to the ready queue -/

/-- A response pushes one callback at most. -/
theorem doRequestPacket_pushes {c c' : Channel} {package : RpcPacket}
    (h : c.doRequestPacket package = some c') :
    ∃ new : Option ChannelCallback, c'.alreadyCallbackQueue = c.alreadyCallbackQueue ++ new.toList ∧
      (∀ callback ∈ new, Reports package callback) ∧ c'.rpcNet = c.rpcNet ∧
      c'.registerCallback = c.registerCallback := by
  unfold doRequestPacket at h
  dsimp only at h
  split at h
  · obtain rfl := Option.some.inj h
    exact ⟨none, (List.append_nil _).symm, nofun, rfl, rfl⟩
  · next callback _ =>
    split at h
    · next hfailed =>
      obtain rfl := Option.some.inj h
      refine ⟨some (callback.setFailed package.rpcMeta.rpcResponseMeta.error), rfl, ?_, rfl, rfl⟩
      rintro _ ⟨⟩
      exact ⟨rfl, fun hnone => absurd hnone ((ChannelController.failed_iff _).mp hfailed)⟩
    · obtain ⟨binary, hbinary, h⟩ := Option.bind_eq_some_iff.mp h
      obtain rfl := Option.some.inj h
      refine ⟨some _, rfl, ?_, rfl, rfl⟩
      rintro _ ⟨⟩
      exact ⟨rfl, fun _ => hbinary.symm⟩

/-- **A push with a registered key pushes one callback**, any other none. -/
theorem doRegisterPacket_pushes {c c' : Channel} {package : RpcPacket}
    (h : c.doRegisterPacket package = some c') :
    ∃ new : Option ChannelCallback, c'.alreadyCallbackQueue = c.alreadyCallbackQueue ++ new.toList ∧
      (∀ callback ∈ new, Reports package callback) ∧ c'.rpcNet = c.rpcNet ∧
      c'.registerCallback = c.registerCallback ∧
      (c.registerCallback[convertMethodKey package.rpcMeta.serviceName package.rpcMeta.methodIndex]? ≠ none →
        new ≠ none) := by
  unfold doRegisterPacket at h
  split at h
  · next hnone =>
    obtain rfl := Option.some.inj h
    exact ⟨none, (List.append_nil _).symm, nofun, rfl, rfl, fun hkey => absurd hnone hkey⟩
  · obtain ⟨binary, hbinary, h⟩ := Option.bind_eq_some_iff.mp h
    obtain rfl := Option.some.inj h
    refine ⟨some _, rfl, ?_, rfl, rfl, fun _ => Option.some_ne_none _⟩
    rintro _ ⟨⟩
    exact ⟨rfl, fun _ => hbinary.symm⟩

/-- The queue grows at its end, and the rest of the pipeline is left alone. -/
def Extends (c c' : Channel) : Prop :=
  (∃ new, c'.alreadyCallbackQueue = c.alreadyCallbackQueue ++ new) ∧ c'.rpcNet = c.rpcNet ∧
    c'.registerCallback = c.registerCallback

theorem extends_expire (c : Channel) (requestId : RpcRequestId) : Extends c (c.expire requestId) := by
  unfold expire
  split
  · exact ⟨⟨[], (List.append_nil _).symm⟩, rfl, rfl⟩
  · exact ⟨⟨_, rfl⟩, rfl, rfl⟩

theorem Extends.trans {c c' c'' : Channel} (h : Extends c c') (h' : Extends c' c'') : Extends c c'' := by
  obtain ⟨⟨new, hqueue⟩, hnet, hregister⟩ := h
  obtain ⟨⟨new', hqueue'⟩, hnet', hregister'⟩ := h'
  refine ⟨⟨new ++ new', ?_⟩, hnet'.trans hnet, hregister'.trans hregister⟩
  rw [hqueue', hqueue, List.append_assoc]

/-- A sweep pushes the callbacks that are due. -/
theorem extends_clearTimeoutRequest (c : Channel) (curTime : Int) :
    Extends c (c.clearTimeoutRequest curTime) :=
  clearTimeoutRequest_rel (fun _ _ => ⟨⟨[], (List.append_nil _).symm⟩, rfl, rfl⟩) extends_expire
    (fun _ _ _ => .trans) c curTime

end Channel

namespace ChannelThreads

/-! ## The line -/

/-- The callbacks in the order in which they are called. -/
def line (s : ChannelThreads) : List ChannelCallback :=
  s.called ++ (s.batches.flatten ++ s.channel.alreadyCallbackQueue)

/-- What a step does to the line of one work thread; the receive queue is left alone, and a registered key
    stays registered. -/
structure Flow (s s' : ChannelThreads) (new : List ChannelCallback) : Prop where
  batches : s'.batches.length = s.batches.length
  line : s.batches.length = 1 → s'.line = s.line ++ new
  packets : s'.channel.rpcNet.packetQueue = s.channel.rpcNet.packetQueue
  registered : ∀ key : String, s.channel.registerCallback[key]? ≠ none →
    s'.channel.registerCallback[key]? ≠ none

/-- A push to the ready queue. -/
theorem Flow.of_queue {s s' : ChannelThreads} {new : List ChannelCallback} (hcalled : s'.called = s.called)
    (hbatches : s'.batches = s.batches)
    (hqueue : s'.channel.alreadyCallbackQueue = s.channel.alreadyCallbackQueue ++ new)
    (hpackets : s'.channel.rpcNet.packetQueue = s.channel.rpcNet.packetQueue)
    (hregister : s'.channel.registerCallback = s.channel.registerCallback) : Flow s s' new := by
  refine ⟨by rw [hbatches], ?_, hpackets, ?_⟩
  · intro _
    rw [ChannelThreads.line, ChannelThreads.line, hcalled, hbatches, hqueue]
    simp only [List.append_assoc]
  · intro key hkey
    rw [hregister]
    exact hkey

/-- A step that pushes nothing. -/
theorem Flow.of_same {s s' : ChannelThreads} (hcalled : s'.called = s.called)
    (hbatches : s'.batches = s.batches)
    (hqueue : s'.channel.alreadyCallbackQueue = s.channel.alreadyCallbackQueue)
    (hpackets : s'.channel.rpcNet.packetQueue = s.channel.rpcNet.packetQueue)
    (hregister : s'.channel.registerCallback = s.channel.registerCallback) : Flow s s' [] :=
  .of_queue hcalled hbatches (hqueue.trans (List.append_nil _).symm) hpackets hregister

/-- The only batch. -/
theorem batches_eq {batches : List (List ChannelCallback)} {thread : Nat} {batch : List ChannelCallback}
    (hone : batches.length = 1) (h : batches[thread]? = some batch) : thread = 0 ∧ batches = [batch] := by
  obtain ⟨only, rfl⟩ := List.length_eq_one_iff.mp hone
  have hzero : thread = 0 := Nat.lt_one_iff.mp (List.getElem?_eq_some_iff.mp h).1
  subst hzero
  exact ⟨rfl, congrArg (fun b => [b]) (Option.some.inj h)⟩

theorem flow_pop {s s' : ChannelThreads} {thread dealMsgNumOnce : Nat}
    (h : s.pop thread dealMsgNumOnce = some s') : Flow s s' [] := by
  obtain ⟨hempty, batch, queue, hqueue, rfl⟩ := pop_cases h
  refine ⟨List.length_set, ?_, rfl, fun _ hkey => hkey⟩
  intro hone
  obtain ⟨rfl, hbatches⟩ := batches_eq hone hempty
  simp [line, hbatches, hqueue]

theorem flow_call {s s' : ChannelThreads} {thread : Nat} (h : s.call thread = some s') : Flow s s' [] := by
  obtain ⟨callback, batch, hget, rfl⟩ := call_cases h
  refine ⟨List.length_set, ?_, rfl, fun _ hkey => hkey⟩
  intro hone
  obtain ⟨rfl, hbatches⟩ := batches_eq hone hget
  simp [line, hbatches]

theorem flow_registerCallback {s : ChannelThreads} {channel : Channel} {callbackKey : String}
    {info : CallbackInfo} (h : s.channel.registerCallbackInfo callbackKey info = some channel) :
    Flow s { s with channel } [] := by
  unfold Channel.registerCallbackInfo at h
  split at h
  · obtain rfl := Option.some.inj h
    exact .of_same rfl rfl rfl rfl rfl
  · split at h
    · cases h
    · obtain rfl := Option.some.inj h
      refine ⟨rfl, fun _ => (List.append_nil _).symm, rfl, ?_⟩
      intro key hkey
      show (s.channel.registerCallback.insertIfNew callbackKey info)[key]? ≠ none
      rw [getElem?_insertIfNew_eq]
      split
      · exact Option.some_ne_none _
      · exact hkey

section

variable [Protobuf] [FrNet]

theorem flow_send {s s' : ChannelThreads} {index : Nat} (h : s.send index = some s') : Flow s s' [] := by
  unfold send at h
  split at h
  · obtain rfl := Option.some.inj h
    exact .of_same rfl rfl rfl rfl rfl
  · cases h

/-- **The steps that push nothing.** -/
theorem step_flow {s s' : ChannelThreads} {e : Event} (h : step s e = some s')
    (hrequest : ∀ package, e ≠ .requestPacket package) (hregister : ∀ package, e ≠ .registerPacket package)
    (htimeout : ∀ curTime, e ≠ .clearTimeout curTime) : Flow s s' [] := by
  cases e with
  | allocate method =>
    obtain rfl := Option.some.inj h
    rw [allocate]
    split
    · exact .of_same rfl rfl rfl rfl rfl
    · exact .of_same rfl rfl rfl rfl rfl
  | insert index =>
    obtain ⟨_, _, _, ⟨_, rfl⟩ | ⟨_, rfl⟩⟩ := insert_cases h
    · exact .of_same rfl rfl rfl rfl rfl
    · exact .of_same rfl rfl rfl rfl rfl
  | send index => exact flow_send h
  | schedule index localTimeMs =>
    obtain ⟨_, _, _, _, rfl⟩ := pushTimeout_cases h
    exact .of_same rfl rfl rfl rfl rfl
  | requestPacket package => exact absurd rfl (hrequest package)
  | registerPacket package => exact absurd rfl (hregister package)
  | clearTimeout curTime => exact absurd rfl (htimeout curTime)
  | cancel requestId =>
    obtain rfl := Option.some.inj h
    rcases s.channel.cancelRequest_cases requestId with ⟨_, heq⟩ | ⟨_, _, heq⟩
    · rw [heq]
      exact .of_same rfl rfl rfl rfl rfl
    · rw [heq]
      exact .of_same rfl rfl rfl rfl rfl
  | registerCallback callbackKey info =>
    obtain ⟨channel, hregisters, rfl⟩ := Option.map_eq_some_iff.mp h
    exact flow_registerCallback hregisters
  | pop thread dealMsgNumOnce => exact flow_pop h
  | call thread => exact flow_call h

theorem flow_clearTimeout {s s' : ChannelThreads} {curTime : Int}
    (h : step s (.clearTimeout curTime) = some s') :
    ∃ new, Flow s s' new ∧ s'.channel.alreadyCallbackQueue = s.channel.alreadyCallbackQueue ++ new := by
  obtain rfl := Option.some.inj h
  obtain ⟨⟨new, hqueue⟩, hnet, hregister⟩ :=
    s.channel.extends_clearTimeoutRequest curTime
  refine ⟨new, .of_queue rfl rfl hqueue ?_ hregister, hqueue⟩
  exact congrArg RpcChannelRoute.packetQueue hnet

/-- **A packet pushes one callback at most**, which reports what it carries. -/
theorem flow_parsePacket {s s' : ChannelThreads} {package : RpcPacket}
    (h : Pipeline.parsePacket s package = some s') :
    ∃ new : Option ChannelCallback, Flow s s' new.toList ∧
      s'.channel.alreadyCallbackQueue = s.channel.alreadyCallbackQueue ++ new.toList ∧
      (∀ callback ∈ new, Reports package callback) ∧
      (package.netEvent = .method → isRequestMode package = false →
        s.channel.registerCallback[convertMethodKey package.rpcMeta.serviceName
          package.rpcMeta.methodIndex]? ≠ none → new ≠ none) := by
  unfold Pipeline.parsePacket at h
  split at h
  · split at h
    · next hrequest =>
      obtain ⟨channel, hpacket, rfl⟩ := Option.map_eq_some_iff.mp h
      obtain ⟨new, hqueue, hreports, hnet, hregister⟩ := Channel.doRequestPacket_pushes hpacket
      refine ⟨new, .of_queue rfl rfl hqueue (congrArg RpcChannelRoute.packetQueue hnet) hregister, hqueue,
        hreports, ?_⟩
      intro _ hpush
      rw [hpush] at hrequest
      cases hrequest
    · obtain ⟨channel, hpacket, rfl⟩ := Option.map_eq_some_iff.mp h
      obtain ⟨new, hqueue, hreports, hnet, hregister, hkey⟩ := Channel.doRegisterPacket_pushes hpacket
      exact ⟨new, .of_queue rfl rfl hqueue (congrArg RpcChannelRoute.packetQueue hnet) hregister, hqueue,
        hreports, fun _ _ => hkey⟩
  · next hevent =>
    obtain rfl := Option.some.inj h
    exact ⟨none, .of_same rfl rfl rfl rfl rfl, (List.append_nil _).symm, nofun,
      fun hmethod => absurd hmethod hevent⟩

end

end ChannelThreads

namespace Pipeline

/-! ## The invariant -/

/-- The packets that a list of pushes came from. -/
def triggers (queued : List (ChannelCallback × Option Nat)) : List Nat := queued.filterMap Prod.snd

/-- The line is what was pushed, in the order of the parsed packets; what was not parsed yet waits in the
    order of its arrival. -/
structure Traced (s : Pipeline) : Prop where
  single : s.threads.batches.length = 1
  fifo : s.threads.line = s.queued.map Prod.fst
  parsed_le : s.parsed ≤ s.received.length
  waiting : s.received.drop s.parsed = s.parseQueue ++ s.packetQueue
  sorted : (triggers s.queued).Pairwise (· < ·)
  early : ∀ k ∈ triggers s.queued, k < s.parsed
  reports : ∀ callback k, (callback, some k) ∈ s.queued →
    ∃ package, s.received[k]? = some package ∧ Reports package callback

theorem traced_started (option : ChannelOption) : (started option).Traced := by
  refine ⟨rfl, rfl, Nat.le_refl 0, rfl, List.Pairwise.nil, ?_, ?_⟩
  · intro k hk
    cases hk
  · intro callback k hk
    cases hk

theorem pushes_eq {threads threads' : ChannelThreads} {new : List ChannelCallback} (trigger : Option Nat)
    (h : threads'.channel.alreadyCallbackQueue = threads.channel.alreadyCallbackQueue ++ new) :
    pushes threads threads' trigger = new.map fun callback => (callback, trigger) := by
  rw [pushes, h, List.drop_left]

theorem triggers_append (queued queued' : List (ChannelCallback × Option Nat)) :
    triggers (queued ++ queued') = triggers queued ++ triggers queued' := List.filterMap_append

/-- A sweep has no packet. -/
theorem triggers_none (new : List ChannelCallback) :
    triggers (new.map fun callback => (callback, (none : Option Nat))) = [] := by
  induction new with
  | nil => rfl
  | cons callback new ih => exact ih

/-- **A push without a packet** goes to the end of the line. -/
theorem traced_threads {s : Pipeline} {threads : ChannelThreads} {new : List ChannelCallback}
    (h : s.Traced) (hflow : ChannelThreads.Flow s.threads threads new) :
    Traced { s with threads, queued := s.queued ++ new.map fun callback => (callback, none) } := by
  refine ⟨hflow.batches.trans h.single, ?_, h.parsed_le, ?_, ?_, ?_, ?_⟩
  · show threads.line = (s.queued ++ _).map Prod.fst
    rw [hflow.line h.single, h.fifo, List.map_append, List.map_map]
    exact congrArg _ (List.map_id _).symm
  · show s.received.drop s.parsed = s.parseQueue ++ threads.channel.rpcNet.packetQueue
    rw [hflow.packets]
    exact h.waiting
  · show (triggers (s.queued ++ _)).Pairwise _
    rw [triggers_append, triggers_none, List.append_nil]
    exact h.sorted
  · intro k hk
    have hk : k ∈ triggers (s.queued ++ new.map fun callback => (callback, none)) := hk
    rw [triggers_append, triggers_none, List.append_nil] at hk
    exact h.early k hk
  · intro callback k hmem
    rcases List.mem_append.mp hmem with hold | hnew
    · exact h.reports callback k hold
    · obtain ⟨_, _, heq⟩ := List.mem_map.mp hnew
      cases heq

/-- The packet that is parsed next. -/
theorem Traced.next {s : Pipeline} (h : s.Traced) {package : RpcPacket} {parseQueue : List RpcPacket}
    (hqueue : s.parseQueue = package :: parseQueue) :
    s.received[s.parsed]? = some package ∧ s.parsed < s.received.length ∧
      s.received.drop (s.parsed + 1) = parseQueue ++ s.packetQueue := by
  have hwaiting := h.waiting
  rw [hqueue, List.cons_append] at hwaiting
  have hget : (s.received.drop s.parsed)[0]? = some package := by
    rw [hwaiting]
    rfl
  rw [List.getElem?_drop] at hget
  refine ⟨hget, (List.getElem?_eq_some_iff.mp hget).1, ?_⟩
  rw [← List.drop_drop, hwaiting]
  rfl

/-- **A parsed packet pushes after all packets before it.** -/
theorem traced_parse {s : Pipeline} {threads : ChannelThreads} {package : RpcPacket}
    {parseQueue : List RpcPacket} {new : Option ChannelCallback} (h : s.Traced)
    (hqueue : s.parseQueue = package :: parseQueue)
    (hflow : ChannelThreads.Flow s.threads threads new.toList)
    (hreports : ∀ callback ∈ new, Reports package callback) :
    Traced { s with
      threads
      parseQueue
      parsed := s.parsed + 1
      queued := s.queued ++ new.toList.map fun callback => (callback, some s.parsed) } := by
  obtain ⟨hget, hlt, hrest⟩ := h.next hqueue
  have hnew : ∀ k ∈ triggers (new.toList.map fun callback => (callback, some s.parsed)), k = s.parsed := by
    intro k hk
    obtain ⟨entry, hentry, hsnd⟩ := List.mem_filterMap.mp hk
    obtain ⟨_, _, rfl⟩ := List.mem_map.mp hentry
    exact (Option.some.inj hsnd).symm
  refine ⟨hflow.batches.trans h.single, ?_, hlt, ?_, ?_, ?_, ?_⟩
  · show threads.line = (s.queued ++ _).map Prod.fst
    rw [hflow.line h.single, h.fifo, List.map_append, List.map_map]
    exact congrArg _ (List.map_id _).symm
  · show s.received.drop (s.parsed + 1) = parseQueue ++ threads.channel.rpcNet.packetQueue
    rw [hflow.packets]
    exact hrest
  · show (triggers (s.queued ++ _)).Pairwise _
    rw [triggers_append, List.pairwise_append]
    refine ⟨h.sorted, ?_, ?_⟩
    · cases new with
      | none => exact List.Pairwise.nil
      | some callback => exact List.pairwise_singleton _ _
    · intro k hk k' hk'
      rw [hnew k' hk']
      exact h.early k hk
  · intro k hk
    have hk : k ∈ triggers (s.queued ++ new.toList.map fun callback => (callback, some s.parsed)) := hk
    rw [triggers_append] at hk
    rcases List.mem_append.mp hk with hold | hlast
    · exact Nat.lt_succ_of_lt (h.early k hold)
    · rw [hnew k hlast]
      exact Nat.lt_succ_self _
  · intro callback k hmem
    rcases List.mem_append.mp hmem with hold | hlast
    · exact h.reports callback k hold
    · obtain ⟨pushed, hpushed, heq⟩ := List.mem_map.mp hlast
      obtain ⟨rfl, hk⟩ := Prod.mk.inj heq
      obtain rfl := Option.some.inj hk
      exact ⟨package, hget, hreports pushed (Option.mem_toList.mp hpushed)⟩

theorem traced_receive {s : Pipeline} (h : s.Traced) (package : RpcPacket) :
    Traced { s.setPacketQueue (s.packetQueue ++ [package]) with received := s.received ++ [package] } := by
  refine ⟨h.single, h.fifo, ?_, ?_, h.sorted, h.early, ?_⟩
  · show s.parsed ≤ (s.received ++ [package]).length
    rw [List.length_append]
    exact Nat.le_add_right_of_le h.parsed_le
  · show (s.received ++ [package]).drop s.parsed = s.parseQueue ++ (s.packetQueue ++ [package])
    rw [List.drop_append_of_le_length h.parsed_le, h.waiting, List.append_assoc]
  · intro callback k hmem
    obtain ⟨package', hget, hreports⟩ := h.reports callback k hmem
    refine ⟨package', ?_, hreports⟩
    show (s.received ++ [package])[k]? = some package'
    rw [List.getElem?_append_left (List.getElem?_eq_some_iff.mp hget).1]
    exact hget

theorem traced_fetch {s : Pipeline} (h : s.Traced) (hidle : s.parseQueue = []) (parseNumOnce : Nat) :
    Traced { s.setPacketQueue (s.packetQueue.drop parseNumOnce) with
      parseQueue := s.packetQueue.take parseNumOnce } := by
  refine ⟨h.single, h.fifo, h.parsed_le, ?_, h.sorted, h.early, h.reports⟩
  show s.received.drop s.parsed = s.packetQueue.take parseNumOnce ++ s.packetQueue.drop parseNumOnce
  rw [h.waiting, hidle, List.take_append_drop]
  rfl

section

variable [Protobuf] [FrNet]

/-- **What a step of the pipeline does**: receive, fetch, parse one packet, or push what has no packet. -/
inductive PipelineStep (s : Pipeline) : Pipeline → Prop where
  | receive (package : RpcPacket) : PipelineStep s
      { s.setPacketQueue (s.packetQueue ++ [package]) with received := s.received ++ [package] }
  | fetch (parseNumOnce : Nat) (idle : s.parseQueue = []) : PipelineStep s
      { s.setPacketQueue (s.packetQueue.drop parseNumOnce) with
        parseQueue := s.packetQueue.take parseNumOnce }
  | parse {package : RpcPacket} {parseQueue : List RpcPacket} {threads : ChannelThreads}
      {new : Option ChannelCallback} (queue : s.parseQueue = package :: parseQueue)
      (flow : ChannelThreads.Flow s.threads threads new.toList)
      (reports : ∀ callback ∈ new, Reports package callback)
      (pushed : package.netEvent = .method → isRequestMode package = false →
        s.threads.channel.registerCallback[convertMethodKey package.rpcMeta.serviceName
          package.rpcMeta.methodIndex]? ≠ none → new ≠ none) : PipelineStep s
      { s with
        threads
        parseQueue
        parsed := s.parsed + 1
        queued := s.queued ++ new.toList.map fun callback => (callback, some s.parsed) }
  | threads {threads : ChannelThreads} {new : List ChannelCallback}
      (flow : ChannelThreads.Flow s.threads threads new) : PipelineStep s
      { s with threads, queued := s.queued ++ new.map fun callback => (callback, none) }

theorem pipelineStep {s s' : Pipeline} {e : Event} (h : step s e = some s') : PipelineStep s s' := by
  cases e with
  | receive package =>
    obtain rfl := Option.some.inj h
    exact .receive package
  | fetch parseNumOnce =>
    simp only [step] at h
    split at h
    · next hidle =>
      obtain rfl := Option.some.inj h
      exact .fetch parseNumOnce hidle
    · cases h
  | parse =>
    simp only [step] at h
    split at h
    · cases h
    · next package parseQueue hqueue =>
      obtain ⟨threads, hparse, rfl⟩ := Option.map_eq_some_iff.mp h
      obtain ⟨new, hflow, hpushes, hreports, hpushed⟩ := ChannelThreads.flow_parsePacket hparse
      rw [pushes_eq _ hpushes]
      exact .parse hqueue hflow hreports hpushed
  | threads e =>
    by_cases hsweep : ∃ curTime, e = .clearTimeout curTime
    · obtain ⟨curTime, rfl⟩ := hsweep
      simp only [step] at h
      split at h
      · obtain ⟨threads, hstep, rfl⟩ := Option.map_eq_some_iff.mp h
        obtain ⟨new, hflow, hpushes⟩ := ChannelThreads.flow_clearTimeout hstep
        rw [pushes_eq _ hpushes]
        exact .threads hflow
      · cases h
    · -- the other steps push nothing
      have hmap : (ChannelThreads.step s.threads e).map (fun threads => { s with threads }) = some s' := by
        cases e with
        | requestPacket package => cases h
        | registerPacket package => cases h
        | clearTimeout curTime => exact absurd ⟨curTime, rfl⟩ hsweep
        | allocate _ | insert _ | send _ | schedule _ _ | cancel _ | registerCallback _ _ | pop _ _
        | call _ => exact h
      obtain ⟨threads, hstep, rfl⟩ := Option.map_eq_some_iff.mp hmap
      have hflow : ChannelThreads.Flow s.threads threads [] := by
        apply ChannelThreads.step_flow hstep
        · rintro package rfl
          cases h
        · rintro package rfl
          cases h
        · intro curTime heq
          exact hsweep ⟨curTime, heq⟩
      have hpipeline := PipelineStep.threads (s := s) hflow
      rw [List.map_nil, List.append_nil] at hpipeline
      exact hpipeline

theorem traced_step {s s' : Pipeline} {e : Event} (h : s.Traced) (hstep : step s e = some s') :
    s'.Traced := by
  cases pipelineStep hstep with
  | receive package => exact traced_receive h package
  | fetch parseNumOnce hidle => exact traced_fetch h hidle parseNumOnce
  | parse hqueue hflow hreports _ => exact traced_parse h hqueue hflow hreports
  | threads hflow => exact traced_threads h hflow

theorem traced_reachable {option : ChannelOption} {s : Pipeline}
    (hrun : Reaches step anyStep (started option) s) : s.Traced := by
  apply hrun.invariant (traced_started option)
  intro s e s' _ h hstep
  exact traced_step h hstep

/-! ## Order -/

omit [Protobuf] [FrNet]

/-- The callbacks that the work thread has run, with the packets that triggered them. -/
def ran (s : Pipeline) : List (ChannelCallback × Option Nat) := s.queued.take s.threads.called.length

/-- **The callbacks run in the order of their packets**: the packets that triggered the callbacks that were
    run are a subsequence of the received ones, without a repetition, and each callback reports its packet. -/
def InOrder (s : Pipeline) : Prop :=
  s.ran.map Prod.fst = s.threads.called ∧ (triggers s.ran).Pairwise (· < ·) ∧
    ∀ callback k, (callback, some k) ∈ s.ran →
      ∃ package, s.received[k]? = some package ∧ Reports package callback

/-- A server push. -/
def IsPush (package : RpcPacket) : Prop := package.netEvent = .method ∧ isRequestMode package = false

def Registered (s : Pipeline) (package : RpcPacket) : Prop :=
  s.threads.channel.registerCallback[convertMethodKey package.rpcMeta.serviceName
    package.rpcMeta.methodIndex]? ≠ none

theorem Traced.inOrder {s : Pipeline} (h : s.Traced) : s.InOrder := by
  refine ⟨?_, ?_, ?_⟩
  · rw [ran, List.map_take, ← h.fifo, ChannelThreads.line, List.take_left]
  · apply List.Pairwise.sublist _ h.sorted
    exact (List.take_sublist _ _).filterMap _
  · intro callback k hmem
    exact h.reports callback k (List.mem_of_mem_take hmem)

/-- With all queues empty, everything was parsed and everything that was pushed has run. -/
theorem Traced.drained {s : Pipeline} (h : s.Traced) (hdrained : s.Drained) :
    s.parsed = s.received.length ∧ s.ran = s.queued := by
  obtain ⟨hpackets, hparse, hready, hwork⟩ := hdrained
  constructor
  · have hrest := h.waiting
    rw [hparse, hpackets] at hrest
    exact Nat.le_antisymm h.parsed_le (List.drop_eq_nil_iff.mp hrest)
  · have hline := congrArg List.length h.fifo
    rw [ChannelThreads.line, hwork, hready, List.length_map, List.append_nil, List.append_nil] at hline
    rw [ran, hline, List.take_length]

/-- What was registered at some time stays registered, and pushes that are parsed from then on push their
    callback. -/
structure Pushes (s₀ s : Pipeline) : Prop where
  registered : ∀ key : String, s₀.threads.channel.registerCallback[key]? ≠ none →
    s.threads.channel.registerCallback[key]? ≠ none
  pushed : ∀ k package, s.received[k]? = some package → IsPush package → s₀.parsed ≤ k →
    s₀.Registered package → k < s.parsed → k ∈ triggers s.queued

theorem pushes_refl (s : Pipeline) : Pushes s s :=
  ⟨fun _ h => h, fun _ _ _ _ hle _ hlt => absurd (Nat.lt_of_le_of_lt hle hlt) (Nat.lt_irrefl _)⟩

variable [Protobuf] [FrNet]

theorem pushes_step {s₀ s s' : Pipeline} {e : Event} (htraced : s.Traced) (h : Pushes s₀ s)
    (hstep : step s e = some s') : Pushes s₀ s' := by
  cases pipelineStep hstep with
  | receive package =>
    refine ⟨h.registered, ?_⟩
    intro k package' hget hpush hle hregistered hlt
    have hget : (s.received ++ [package])[k]? = some package' := hget
    rw [List.getElem?_append_left (Nat.lt_of_lt_of_le hlt htraced.parsed_le)] at hget
    exact h.pushed k package' hget hpush hle hregistered hlt
  | fetch parseNumOnce hidle => exact ⟨h.registered, h.pushed⟩
  | @parse package parseQueue threads new hqueue hflow _ hpushed =>
    refine ⟨fun key hkey => hflow.registered key (h.registered key hkey), ?_⟩
    intro k package' hget hpush hle hregistered hlt
    show k ∈ triggers (s.queued ++ new.toList.map fun callback => (callback, some s.parsed))
    rw [triggers_append]
    rcases Nat.lt_succ_iff_lt_or_eq.mp hlt with hbefore | rfl
    · exact List.mem_append_left _ (h.pushed k package' hget hpush hle hregistered hbefore)
    · -- the packet that was parsed
      apply List.mem_append_right
      have hsame : s.received[s.parsed]? = some package' := hget
      rw [(htraced.next hqueue).1] at hsame
      obtain rfl := Option.some.inj hsame
      obtain ⟨callback, rfl⟩ := Option.ne_none_iff_exists'.mp
        (hpushed hpush.1 hpush.2 (h.registered _ hregistered))
      exact List.mem_singleton.mpr rfl
  | @threads threads new hflow =>
    refine ⟨fun key hkey => hflow.registered key (h.registered key hkey), ?_⟩
    intro k package hget hpush hle hregistered hlt
    show k ∈ triggers (s.queued ++ new.map fun callback => (callback, none))
    rw [triggers_append, triggers_none, List.append_nil]
    exact h.pushed k package hget hpush hle hregistered hlt

/-- **Message order is preserved from the wire to the callbacks**, with one parse thread and one work thread,
    whatever is received, fetched, parsed, swept, cancelled and called in whatever order. Once all queues are
    drained, a push whose key was registered before it was parsed has triggered exactly one callback. -/
theorem message_order {option : ChannelOption} {s s' : Pipeline}
    (hrun : Reaches step anyStep (started option) s) (hrun' : Reaches step anyStep s s') :
    s'.InOrder ∧ (s'.Drained → ∀ k package, s'.received[k]? = some package → IsPush package →
      s.parsed ≤ k → s.Registered package → (triggers s'.ran).count k = 1) := by
  have htraced := traced_reachable (hrun.trans hrun')
  refine ⟨htraced.inOrder, ?_⟩
  intro hdrained k package hget hpush hle hregistered
  have hpushes : s'.Traced ∧ Pushes s s' := by
    apply hrun'.invariant ⟨traced_reachable hrun, pushes_refl s⟩
    rintro s₁ e s₂ _ ⟨htraced, hpushes⟩ hstep
    exact ⟨traced_step htraced hstep, pushes_step htraced hpushes hstep⟩
  obtain ⟨hparsed, hran⟩ := htraced.drained hdrained
  have hlt : k < s'.parsed := by
    rw [hparsed]
    exact (List.getElem?_eq_some_iff.mp hget).1
  rw [hran]
  apply List.count_eq_one_of_mem
  · exact htraced.sorted.imp Nat.ne_of_lt
  · exact hpushes.2.pushed k package hget hpush hle hregistered hlt

/-! ## Draining -/

/-- A packet with a binary can be parsed. -/
theorem parsePacket_isSome {threads : ChannelThreads} {package : RpcPacket} (h : package.binary ≠ none) :
    ∃ threads', parsePacket threads package = some threads' := by
  obtain ⟨binary, hbinary⟩ := Option.ne_none_iff_exists'.mp h
  unfold parsePacket
  split
  · split
    · simp only [ChannelThreads.step, Channel.doRequestPacket, hbinary]
      split
      · exact ⟨_, rfl⟩
      · split <;> exact ⟨_, rfl⟩
    · simp only [ChannelThreads.step, Channel.doRegisterPacket, hbinary]
      split <;> exact ⟨_, rfl⟩
  · exact ⟨threads, rfl⟩

/-- The parse thread works off its batch. -/
theorem parse_all (parseQueue : List RpcPacket) {s : Pipeline} (hqueue : s.parseQueue = parseQueue)
    (hbinary : ∀ package ∈ parseQueue, package.binary ≠ none) :
    ∃ s', Reaches step anyStep s s' ∧ s'.parseQueue = [] ∧ s'.received = s.received ∧
      s'.packetQueue = s.packetQueue ∧ s'.threads.batches.length = s.threads.batches.length := by
  induction parseQueue generalizing s with
  | nil => exact ⟨s, .refl s, hqueue, rfl, rfl, rfl⟩
  | cons package parseQueue ih =>
    obtain ⟨threads, hparse⟩ : ∃ threads, parsePacket s.threads package = some threads :=
      parsePacket_isSome (hbinary package List.mem_cons_self)
    obtain ⟨_, hflow, _⟩ := ChannelThreads.flow_parsePacket hparse
    have hstep : step s .parse = some { s with
        threads
        parseQueue
        parsed := s.parsed + 1
        queued := s.queued ++ pushes s.threads threads (some s.parsed) } := by
      simp only [step, hqueue, hparse, Option.map_some]
    obtain ⟨s', hrun, hempty, hreceived, hpackets, hbatches⟩ :=
      ih (s := { s with threads, parseQueue, parsed := _, queued := _ }) rfl
        fun package hmem => hbinary package (List.mem_cons_of_mem _ hmem)
    refine ⟨s', (Reaches.snoc (.refl s) trivial hstep).trans hrun, hempty, hreceived, ?_, ?_⟩
    · exact hpackets.trans hflow.packets
    · exact hbatches.trans hflow.batches

/-- What the work thread leaves alone. -/
structure SameInput (s s' : Pipeline) : Prop where
  received : s'.received = s.received
  packetQueue : s'.packetQueue = s.packetQueue
  parseQueue : s'.parseQueue = s.parseQueue

/-- The work thread calls its batch. -/
theorem call_all (batch : List ChannelCallback) {s : Pipeline} (hbatch : s.threads.batches = [batch]) :
    ∃ s', Reaches step anyStep s s' ∧ SameInput s s' ∧ s'.threads.batches = [[]] ∧
      s'.threads.channel.alreadyCallbackQueue = s.threads.channel.alreadyCallbackQueue := by
  induction batch generalizing s with
  | nil => exact ⟨s, .refl s, ⟨rfl, rfl, rfl⟩, hbatch, rfl⟩
  | cons callback batch ih =>
    have hstep : step s (.threads (.call 0)) = some { s with threads := { s.threads with
        batches := [batch], called := s.threads.called ++ [callback] } } := by
      simp [step, ChannelThreads.step, ChannelThreads.call, hbatch]
    obtain ⟨s', hrun, hsame, hempty, hready⟩ :=
      ih (s := { s with threads := { s.threads with batches := [batch], called := _ } }) rfl
    exact ⟨s', (Reaches.snoc (.refl s) trivial hstep).trans hrun,
      ⟨hsame.received, hsame.packetQueue, hsame.parseQueue⟩, hempty, hready⟩

/-- The work thread calls its batch and all that is ready. -/
theorem work_all {s : Pipeline} (hone : s.threads.batches.length = 1) :
    ∃ s', Reaches step anyStep s s' ∧ SameInput s s' ∧ s'.threads.batches = [[]] ∧
      s'.threads.channel.alreadyCallbackQueue = [] := by
  obtain ⟨batch, hbatch⟩ := List.length_eq_one_iff.mp hone
  obtain ⟨s₁, hrun₁, hsame₁, hempty₁, _⟩ := call_all batch hbatch
  have hpop : step s₁ (.threads (.pop 0 s₁.threads.channel.alreadyCallbackQueue.length)) =
      some { s₁ with threads := { s₁.threads with
        channel := { s₁.threads.channel with alreadyCallbackQueue := [] }
        batches := [s₁.threads.channel.alreadyCallbackQueue] } } := by
    simp [step, ChannelThreads.step, ChannelThreads.pop, hempty₁]
  obtain ⟨s₂, hrun₂, hsame₂, hempty₂, hready₂⟩ := call_all s₁.threads.channel.alreadyCallbackQueue
    (s := { s₁ with threads := { s₁.threads with
      channel := { s₁.threads.channel with alreadyCallbackQueue := [] }, batches := _ } }) rfl
  refine ⟨s₂, (hrun₁.snoc trivial hpop).trans hrun₂, ⟨?_, ?_, ?_⟩, hempty₂, hready₂⟩
  · exact hsame₂.received.trans hsame₁.received
  · exact hsame₂.packetQueue.trans hsame₁.packetQueue
  · exact hsame₂.parseQueue.trans hsame₁.parseQueue

/-- **The queues can be drained**, from every reachable state whose packets have a binary. -/
theorem drainable {option : ChannelOption} {s : Pipeline} (hrun : Reaches step anyStep (started option) s)
    (hbinary : ∀ package ∈ s.received, package.binary ≠ none) :
    ∃ s', Reaches step anyStep s s' ∧ s'.received = s.received ∧ s'.Drained := by
  have htraced := traced_reachable hrun
  -- what waits was received
  have hwaiting : ∀ package ∈ s.parseQueue ++ s.packetQueue, package.binary ≠ none := by
    intro package hmem
    rw [← htraced.waiting] at hmem
    exact hbinary package (List.mem_of_mem_drop hmem)
  obtain ⟨s₁, hrun₁, hidle₁, hreceived₁, hpackets₁, hbatches₁⟩ := parse_all s.parseQueue rfl
    fun package hmem => hwaiting package (List.mem_append_left _ hmem)
  have hfetch : step s₁ (.fetch s.packetQueue.length) =
      some { s₁.setPacketQueue [] with parseQueue := s.packetQueue } := by
    simp [step, hidle₁, hpackets₁]
  obtain ⟨s₂, hrun₂, hidle₂, hreceived₂, hpackets₂, hbatches₂⟩ :=
    parse_all (s := { s₁.setPacketQueue [] with parseQueue := s.packetQueue }) s.packetQueue rfl
      fun package hmem => hwaiting package (List.mem_append_right _ hmem)
  obtain ⟨s₃, hrun₃, hsame₃, hempty₃, hready₃⟩ :=
    work_all (hbatches₂.trans (hbatches₁.trans htraced.single))
  refine ⟨s₃, ((hrun₁.snoc trivial hfetch).trans hrun₂).trans hrun₃, ?_, ?_, ?_, hready₃, ?_⟩
  · exact hsame₃.received.trans (hreceived₂.trans hreceived₁)
  · exact hsame₃.packetQueue.trans hpackets₂
  · exact hsame₃.parseQueue.trans hidle₂
  · rw [hempty₃]
    rfl

end

section

attribute [local instance] networkUp

def push (binary : Bytes) : RpcPacket := ⟨0, .method, ⟨"S", 0, none, none, 0⟩, some binary⟩

/-- Two pushes in two batches, with calls between them. -/
def twoPushes : List Event :=
  [.receive (push [1]), .fetch 1, .receive (push [2]), .parse, .threads (.pop 0 1), .fetch 1, .parse,
    .threads (.call 0), .threads (.clearTimeout 0), .threads (.pop 0 20), .threads (.call 0)]

theorem message_order_twoPushes :
    ∃ s, Reaches step anyStep (started ⟨0, 1000⟩) s ∧ s.Drained ∧ s.received = [push [1], push [2]] ∧
      s.InOrder ∧ (triggers s.ran).count 1 = 1 := by
  obtain ⟨s₀, hregister, hregistered, hparsed⟩ :
      ∃ s₀, exec step (started ⟨0, 1000⟩) [.threads (.registerCallback "S.0" ⟨7⟩)] = some s₀ ∧
        s₀.threads.channel.registerCallback["S.0"]? = some ⟨7⟩ ∧ s₀.parsed = 0 := by
    refine ⟨_, rfl, ?_, rfl⟩
    decide
  have hresult : (exec step (started ⟨0, 1000⟩)
        ([.threads (.registerCallback "S.0" ⟨7⟩)] ++ twoPushes)).map (fun s =>
          (s.received, s.packetQueue, s.parseQueue, s.threads.channel.alreadyCallbackQueue,
            s.threads.batches.flatten)) = some ([push [1], push [2]], [], [], [], []) := by
    decide
  obtain ⟨s, hexec, hs⟩ := Option.map_eq_some_iff.mp hresult
  simp only [Prod.mk.injEq] at hs
  obtain ⟨hreceived, hdrained⟩ := hs
  rw [exec_append, hregister] at hexec
  have hrun := reaches_exec hregister
  have hrun' : Reaches step anyStep s₀ s := reaches_exec hexec
  obtain ⟨hinOrder, honce⟩ := message_order hrun hrun'
  have hget : s.received[1]? = some (push [2]) := by
    rw [hreceived]
    rfl
  have hkey : s₀.Registered (push [2]) := by
    show s₀.threads.channel.registerCallback["S.0"]? ≠ none
    rw [hregistered]
    exact Option.some_ne_none _
  refine ⟨s, hrun.trans hrun', hdrained, hreceived, hinOrder, ?_⟩
  apply honce hdrained 1 _ hget ⟨rfl, rfl⟩ _ hkey
  rw [hparsed]
  exact Nat.zero_le 1

end

end Pipeline

end Frrpc
