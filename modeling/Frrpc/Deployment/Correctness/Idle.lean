import Frrpc.Deployment.Correctness.Line
import Frrpc.Rpc.Correctness.Request

/-!
# `Deployment.Correctness.Idle` — a call through an idle channel and an idle server

Nothing waits in an idle process but older requests. A call, or a packet that comes in, goes through its queues
one thread after the other, and leaves it idle again: `exists_call`, `exists_complete`, `exists_notify` and
`exists_serve` give the steps of each party's turn.
-/

namespace Frrpc

open Lib Std

/-! ## An idle channel -/

/-- Nothing is queued in the channel, its first threads have no batch, and the pending requests are older than
    the next id. -/
structure ChannelProcess.Idle (ch : ChannelProcess) : Prop where
  queue : ch.rpcNet.packetQueue = []
  ready : ch.threads.channel.alreadyCallbackQueue = []
  parse : ch.parseQueues[0]? = some []
  batch : ch.threads.batches[0]? = some []
  pending : ∀ (key : RpcRequestId) callback, ch.threads.channel.requestCallback[key]? = some callback →
    key.toNat ≤ ch.threads.channel.requestId.toNat

/-- The next id, as long as ids are `int`s. -/
theorem toNat_next {id : RpcRequestId} (h : id.toNat + 1 < 2 ^ 31) : (id + 1).toNat = id.toNat + 1 := by
  rw [UInt64.toNat_add, UInt64.toNat_one]
  omega

theorem next_ne_null {id : RpcRequestId} (h : id.toNat + 1 < 2 ^ 31) : id + 1 ≠ rpcRequestIdNull := by
  intro hzero
  have hnat := toNat_next h
  rw [hzero] at hnat
  exact absurd hnat.symm (Nat.succ_ne_zero _)

theorem requestKey_next {id : RpcRequestId} (h : id.toNat + 1 < 2 ^ 31) : Channel.requestKey (id + 1) = id + 1 :=
  (Channel.requestKey_eq_iff (id + 1)).mpr (Or.inl ((toNat_next h).trans_lt h))

namespace ChannelThreads

/-- Calling a method whose insertion succeeds. -/
theorem exists_call_of_insert [FrNet] {s : ChannelThreads} {method : MethodCall} {c : Channel}
    (hadmits : s.channel.admits method = true)
    (hinsert : s.channel.allocate.insertCallback method s.channel.allocate.requestId = some c) :
    ∃ n s₁ s₂ s₃, step s (.allocate method) = some s₁ ∧ step s₁ (.insert n) = some s₂ ∧
      step s₂ (.send n) = some s₃ ∧ s₂.channel = c ∧
      s₂.invocations[n]? = some ⟨method, s.channel.allocate.requestId, .inserted s.channel.nextPtr⟩ ∧
      s₃.channel = (c.sendRequest method s.channel.allocate.requestId).1 ∧ s₃.batches = s.batches := by
  let id := s.channel.allocate.requestId
  let s₁ : ChannelThreads := { s with
    channel := s.channel.allocate
    invocations := s.invocations ++ [⟨method, id, .allocated⟩] }
  let s₂ : ChannelThreads := { s₁ with
    channel := c
    invocations := s.invocations ++ [⟨method, id, .inserted s.channel.nextPtr⟩] }
  have hallocate : s.allocate method = s₁ := by
    rw [allocate, if_pos hadmits]
  have hinserted : s₁.insert s.invocations.length = some s₂ := by
    have hget : s₁.invocations[s.invocations.length]? = some ⟨method, id, .allocated⟩ :=
      List.getElem?_concat_length
    have hinsert' : s₁.channel.insertCallback method id = some c := hinsert
    rw [insert, hget]
    simp only [hinsert']
    simp [setStage, s₁, s₂, Channel.allocate]
  have hget : s₂.invocations[s.invocations.length]? = some ⟨method, id, .inserted s.channel.nextPtr⟩ :=
    List.getElem?_concat_length
  obtain ⟨s₃, hsend⟩ : ∃ s₃, step s₂ (.send s.invocations.length) = some s₃ := by
    rw [step, send, hget]
    exact ⟨_, rfl⟩
  obtain ⟨invocation, hinvocation, hchannel, hbatches⟩ := send_channel hsend
  obtain rfl := Option.some.inj (hget.symm.trans hinvocation)
  exact ⟨s.invocations.length, s₁, s₂, s₃, congrArg some hallocate, hinserted, hsend, rfl, hget, hchannel, hbatches⟩

end ChannelThreads

namespace ChannelProcess

variable [FrNet] {ch : ChannelProcess}

/-- A step of the threads that is the process's own. -/
theorem step_threads_eq {e : ChannelThreads.Event} {s : ChannelThreads}
    (hown : ch.step (.threads e) = (ChannelThreads.step ch.threads e).map fun threads => { ch with threads })
    (h : ChannelThreads.step ch.threads e = some s) : ch.step (.threads e) = some { ch with threads := s } := by
  rw [hown, h]
  rfl

/-- What a call leaves behind: the request has gone out, and its callback waits. -/
structure Called (ch ch' : ChannelProcess) (method : MethodCall) : Prop where
  idle : ch'.Idle
  initSuccess : ch'.threads.channel.initSuccess = ch.threads.channel.initSuccess
  option : ch'.threads.channel.option = ch.threads.channel.option
  requestId : ch'.threads.channel.requestId = ch.threads.channel.requestId + 1
  nextPtr : ch'.threads.channel.nextPtr = ch.threads.channel.nextPtr + 1
  sent : ch'.rpcNet.sent = ch.rpcNet.sent ++
    [(requestParts (ch.threads.channel.requestMeta method (ch.threads.channel.requestId + 1)) method.request).bytes]
  waiting : ∃ callback, ch'.threads.channel.requestCallback[ch.threads.channel.requestId + 1]? = some callback ∧
    callback.Waits (ch.threads.channel.requestId + 1) ∧ callback.ptr = ch.threads.channel.nextPtr

/-- **A call goes out**, when its id is not taken. -/
theorem Idle.exists_call (h : ch.Idle) {method : MethodCall}
    (hadmits : ch.threads.channel.admits method = true) (hid : ch.threads.channel.requestId.toNat + 1 < 2 ^ 31) :
    ∃ n p₁ p₂ p₃, ch.step (.threads (.allocate method)) = some p₁ ∧ p₁.step (.threads (.insert n)) = some p₂ ∧
      p₂.step (.threads (.send n)) = some p₃ ∧ ch.Called p₃ method ∧
      p₂.threads.channel.option = ch.threads.channel.option ∧
      p₂.threads.invocations[n]? =
        some ⟨method, ch.threads.channel.requestId + 1, .inserted ch.threads.channel.nextPtr⟩ := by
  let id := ch.threads.channel.requestId + 1
  let callback : ChannelCallback :=
    ⟨ch.threads.channel.nextPtr, ⟨method.isSync.getD false, id, ""⟩, none, method.done⟩
  have hlt : ch.threads.channel.requestId.toNat < id.toNat := by
    rw [toNat_next hid]
    exact Nat.lt_succ_self _
  -- the pending requests have smaller ids
  have hfree : ch.threads.channel.requestCallback[id]? = none := by
    refine Option.eq_none_iff_forall_not_mem.mpr fun old hold => ?_
    exact absurd (h.pending id old hold) (Nat.not_le.mpr hlt)
  have hinsert : ch.threads.channel.allocate.insertCallback method id = some { ch.threads.channel.allocate with
      requestCallback := ch.threads.channel.requestCallback.insertIfNew id callback
      nextPtr := ch.threads.channel.nextPtr + 1 } := by
    have hcontains : ch.threads.channel.allocate.requestCallback.contains id = false := by
      rw [ExtTreeMap.contains_eq_isSome_getElem?]
      exact congrArg Option.isSome hfree
    rw [Channel.insertCallback, hcontains]
    rfl
  obtain ⟨n, s₁, s₂, s₃, hallocate, hinserted, hsent, hchannel₂, hget, hchannel, hbatches⟩ :=
    ChannelThreads.exists_call_of_insert hadmits hinsert
  refine ⟨n, { ch with threads := s₁ }, { ch with threads := s₂ }, { ch with threads := s₃ }, ?_, ?_, ?_, ?_, ?_,
    hget⟩
  · exact step_threads_eq rfl hallocate
  · exact step_threads_eq rfl hinserted
  · exact step_threads_eq rfl hsent
  · have hpending : ∀ key : RpcRequestId, s₃.channel.requestCallback[key]? =
        if id = key ∧ ch.threads.channel.requestCallback[key]? = none then some callback
        else ch.threads.channel.requestCallback[key]? := fun key => by
      rw [hchannel]
      exact getElem?_insertIfNew_eq ch.threads.channel.requestCallback id callback key
    refine ⟨⟨?_, ?_, h.parse, hbatches ▸ h.batch, fun key other hother => ?_⟩,
      (congrArg Channel.initSuccess hchannel :), (congrArg Channel.option hchannel :),
      (congrArg Channel.requestId hchannel :), (congrArg Channel.nextPtr hchannel :),
      (congrArg (fun c => c.rpcNet.sent) hchannel :), callback, ?_, ⟨rfl, rfl, rfl⟩, rfl⟩
    · exact (congrArg (fun c => c.rpcNet.packetQueue) hchannel).trans h.queue
    · exact (congrArg Channel.alreadyCallbackQueue hchannel).trans h.ready
    · have hle : key.toNat ≤ id.toNat := by
        have hother := (hpending key).symm.trans hother
        split at hother
        · next hkey => exact Nat.le_of_eq (congrArg UInt64.toNat hkey.1.symm)
        · exact (h.pending key other hother).trans (Nat.le_of_lt hlt)
      exact hle.trans (Nat.le_of_eq (congrArg (fun c => c.requestId.toNat) hchannel.symm))
    · exact (hpending id).trans (if_pos ⟨rfl, hfree⟩)
  · rw [hchannel₂]
    rfl

end ChannelProcess

/-! ## A reply comes in -/

/-- What was set is there. -/
theorem getElem?_set_of_getElem? {α : Type} {l : List α} {i : Nat} {a : α} (h : l[i]? = some a) (b : α) :
    (l.set i b)[i]? = some b :=
  List.getElem?_set_self (List.getElem?_eq_some_iff.mp h).1

/-- A list that is set to what it was. -/
theorem set_set_of_getElem? {α : Type} {l : List α} {i : Nat} {a : α} (h : l[i]? = some a) (b : α) :
    (l.set i b).set i a = l := by
  obtain ⟨hlt, rfl⟩ := List.getElem?_eq_some_iff.mp h
  rw [List.set_set, List.set_getElem_self]

/-- **A reply finishes its request**: the callback carries what the reply says. -/
theorem Channel.exists_doRequestPacket {c : Channel} {package : RpcPacket} {callback : ChannelCallback}
    (hentry : c.requestCallback[requestKey package.rpcMeta.rpcRequestMeta.requestId]? = some callback)
    (hwaits : callback.Waits (requestKey package.rpcMeta.rpcRequestMeta.requestId))
    (hanswer : package.rpcMeta.rpcResponseMeta.error ≠ "" ∨ package.binary ≠ none) :
    ∃ done, c.doRequestPacket package = some (c.finish (requestKey package.rpcMeta.rpcRequestMeta.requestId) done) ∧
      done.ptr = callback.ptr ∧ done.cntl.requestId = requestKey package.rpcMeta.rpcRequestMeta.requestId ∧
      (done.cntl.error, done.response) = answerOf package.rpcMeta (package.binary.getD []) := by
  simp only [doRequestPacket, hentry]
  split
  · next hfailed =>
    have herror : package.rpcMeta.rpcResponseMeta.error ≠ "" := (ChannelController.failed_iff _).mp hfailed
    refine ⟨_, rfl, rfl, hwaits.requestId, ?_⟩
    rw [answerOf, if_neg herror, ← hwaits.response]
    rfl
  · next hfailed =>
    have herror : package.rpcMeta.rpcResponseMeta.error = "" :=
      not_not.mp fun hne => hfailed ((ChannelController.failed_iff _).mpr hne)
    obtain ⟨binary, hbinary⟩ := Option.ne_none_iff_exists'.mp (hanswer.resolve_left (not_not.mpr herror))
    rw [hbinary]
    refine ⟨_, rfl, rfl, hwaits.requestId, ?_⟩
    rw [answerOf, if_pos herror]
    rfl

namespace ChannelProcess

variable [FrNet] {ch : ChannelProcess}

/-- The channel's state that a packet has led to, behind the call of the callback that got ready. -/
def calledBack (ch : ChannelProcess) (channel : Channel) (done : ChannelCallback) : ChannelProcess :=
  { ch with threads := { ch.threads with
      channel := { channel with alreadyCallbackQueue := [] }
      called := ch.threads.called ++ [done] } }

/-- A packet that has come in is fetched. -/
theorem Idle.step_fetch (h : ch.Idle) (package : RpcPacket) :
    (ch.setRpcNet (ch.rpcNet.pushMessageToQueue package)).step (.fetch 0 1)
      = some { ch with parseQueues := ch.parseQueues.set 0 [package] } := by
  have hempty : ({ ch.rpcNet with packetQueue := [] } : RpcChannelRoute) = ch.rpcNet := by
    rw [← h.queue]
  have hparse : (ch.setRpcNet (ch.rpcNet.pushMessageToQueue package)).parseQueues[0]? = some [] := h.parse
  have hqueue : (ch.setRpcNet (ch.rpcNet.pushMessageToQueue package)).rpcNet.packetQueue = [package] := by
    show ch.rpcNet.packetQueue ++ [package] = _
    rw [h.queue, List.nil_append]
  show ChannelProcess.fetch _ 0 1 = _
  rw [ChannelProcess.fetch, hparse, hqueue]
  exact congrArg (fun rpcNet => some { ch.setRpcNet rpcNet with parseQueues := ch.parseQueues.set 0 [package] })
    hempty

/-- It is parsed. -/
theorem Idle.step_parse (h : ch.Idle) {package : RpcPacket} {threads : ChannelThreads}
    (hpacket : Pipeline.parsePacket ch.threads package = some threads) :
    ({ ch with parseQueues := ch.parseQueues.set 0 [package] } : ChannelProcess).step (.parse 0)
      = some { ch with threads } := by
  have hbatch : (ch.parseQueues.set 0 [package])[0]? = some [package] :=
    getElem?_set_of_getElem? h.parse [package]
  show ChannelProcess.parse _ 0 = _
  rw [ChannelProcess.parse, hbatch]
  simp only [hpacket, set_set_of_getElem? h.parse]
  rfl

/-- A network event is taken, and calls nothing. -/
theorem Idle.step_event (h : ch.Idle) {package : RpcPacket} (hevent : package.netEvent ≠ .method) :
    ({ ch with parseQueues := ch.parseQueues.set 0 [package] } : ChannelProcess).step (.parse 0) = some ch :=
  h.step_parse (if_neg hevent)

/-- **A packet from which a callback gets ready** goes through the queues, and the callback is called. -/
theorem Idle.exists_callback (h : ch.Idle) {package : RpcPacket} {channel : Channel} {done : ChannelCallback}
    (hpacket : Pipeline.parsePacket ch.threads package = some { ch.threads with channel })
    (hready : channel.alreadyCallbackQueue = [done]) :
    ∃ p₁ p₂ p₃, (ch.setRpcNet (ch.rpcNet.pushMessageToQueue package)).step (.fetch 0 1) = some p₁ ∧
      p₁.step (.parse 0) = some p₂ ∧ p₂.step (.threads (.pop 0 1)) = some p₃ ∧
      p₃.step (.threads (.call 0)) = some (ch.calledBack channel done) ∧
      p₃.threads.batches[0]? = some [done] := by
  let p₂ : ChannelProcess := { ch with threads := { ch.threads with channel } }
  let p₃ : ChannelProcess := { ch with threads := { ch.threads with
    channel := { channel with alreadyCallbackQueue := [] }
    batches := ch.threads.batches.set 0 [done] } }
  have hpop : p₂.step (.threads (.pop 0 1)) = some p₃ := by
    refine step_threads_eq rfl ?_
    rw [ChannelThreads.step, ChannelThreads.pop, h.batch]
    simp only [p₂, hready]
    rfl
  have hthread : p₃.threads.batches[0]? = some [done] := getElem?_set_of_getElem? h.batch [done]
  have hcall : p₃.step (.threads (.call 0)) = some (ch.calledBack channel done) := by
    refine step_threads_eq rfl ?_
    rw [ChannelThreads.step, ChannelThreads.call, hthread]
    simp only [p₃, set_set_of_getElem? h.batch]
  exact ⟨_, p₂, p₃, h.step_fetch package, h.step_parse hpacket, hpop, hcall, hthread⟩

/-- What a completion leaves behind. -/
structure Completed (ch ch' : ChannelProcess) : Prop where
  idle : ch'.Idle
  initSuccess : ch'.threads.channel.initSuccess = ch.threads.channel.initSuccess
  option : ch'.threads.channel.option = ch.threads.channel.option
  requestId : ch'.threads.channel.requestId = ch.threads.channel.requestId
  nextPtr : ch'.threads.channel.nextPtr = ch.threads.channel.nextPtr
  sent : ch'.rpcNet.sent = ch.rpcNet.sent

/-- **A reply that has come in completes its call.** -/
theorem Idle.exists_complete (h : ch.Idle) (addr : Addr) {package : RpcPacket} {callback : ChannelCallback}
    {id : RpcRequestId} (hmethod : package.netEvent = .method)
    (hid : package.rpcMeta.rpcRequestMeta.requestId = id) (hnull : id ≠ rpcRequestIdNull)
    (hkey : Channel.requestKey id = id) (hentry : ch.threads.channel.requestCallback[id]? = some callback)
    (hwaits : callback.Waits id)
    (hanswer : package.rpcMeta.rpcResponseMeta.error ≠ "" ∨ package.binary ≠ none)
    (htimeout : package.rpcMeta.rpcResponseMeta.error ≠ "request timeout") :
    ∃ p₁ p₂ p₃ p₄, (ch.setRpcNet (ch.rpcNet.pushMessageToQueue package)).step (.fetch 0 1) = some p₁ ∧
      p₁.step (.parse 0) = some p₂ ∧ p₂.step (.threads (.pop 0 1)) = some p₃ ∧
      p₃.step (.threads (.call 0)) = some p₄ ∧ ch.Completed p₄ ∧
      p₃.seen addr (.threads (.call 0))
        = [.complete addr id (answerOf package.rpcMeta (package.binary.getD [])) callback.ptr] := by
  rw [← hkey, ← hid] at hentry hwaits
  obtain ⟨done, hfinish, hptr, hdone, hsays⟩ := Channel.exists_doRequestPacket hentry hwaits hanswer
  rw [hid, hkey] at hfinish hdone
  have hmode : isRequestMode package = true := decide_eq_true (hid ▸ hnull)
  have hpacket : Pipeline.parsePacket ch.threads package
      = some { ch.threads with channel := ch.threads.channel.finish id done } := by
    rw [Pipeline.parsePacket, if_pos hmethod, if_pos hmode, ChannelThreads.step, hfinish]
    rfl
  have hready : (ch.threads.channel.finish id done).alreadyCallbackQueue = [done] := by
    show ch.threads.channel.alreadyCallbackQueue ++ [done] = _
    rw [h.ready, List.nil_append]
  obtain ⟨p₁, p₂, p₃, hfetch, hparse, hpop, hcall, hthread⟩ := h.exists_callback hpacket hready
  refine ⟨p₁, p₂, p₃, _, hfetch, hparse, hpop, hcall,
    ⟨⟨h.queue, rfl, h.parse, h.batch, ?_⟩, rfl, rfl, rfl, rfl, rfl⟩, ?_⟩
  · intro key other hother
    exact h.pending key other (Channel.getElem?_of_erase hother)
  · have herror : done.cntl.error = package.rpcMeta.rpcResponseMeta.error := congrArg Prod.fst hsays
    simp only [seen, hthread]
    rw [if_pos ⟨hdone ▸ hnull, herror ▸ htimeout⟩, hdone, hsays, hptr]

/-- The callback of a push, and the channel when it is called. -/
def notified (ch : ChannelProcess) (info : CallbackInfo) (rpcMeta : RpcMeta) (binary : Bytes) : ChannelProcess :=
  ch.calledBack { ch.threads.channel with nextPtr := ch.threads.channel.nextPtr + 1 }
    ⟨ch.threads.channel.nextPtr, ⟨false, rpcRequestIdNull, rpcMeta.rpcResponseMeta.error⟩, some binary,
      some info.function⟩

omit [FrNet] in
/-- No request depends on it. -/
theorem Idle.notified (h : ch.Idle) (info : CallbackInfo) (rpcMeta : RpcMeta) (binary : Bytes) :
    (ch.notified info rpcMeta binary).Idle := ⟨h.queue, rfl, h.parse, h.batch, h.pending⟩

/-- **A push that has come in calls the callback that is registered for its method.** -/
theorem Idle.exists_notify (h : ch.Idle) (addr : Addr) {package : RpcPacket} {info : CallbackInfo} {binary : Bytes}
    (hmethod : package.netEvent = .method) (hid : package.rpcMeta.rpcRequestMeta.requestId = rpcRequestIdNull)
    (hentry : ch.threads.channel.registerCallback[convertMethodKey package.rpcMeta.serviceName
      package.rpcMeta.methodIndex]? = some info)
    (hbinary : package.binary = some binary) :
    ∃ p₁ p₂ p₃, (ch.setRpcNet (ch.rpcNet.pushMessageToQueue package)).step (.fetch 0 1) = some p₁ ∧
      p₁.step (.parse 0) = some p₂ ∧ p₂.step (.threads (.pop 0 1)) = some p₃ ∧
      p₃.step (.threads (.call 0)) = some (ch.notified info package.rpcMeta binary) ∧
      p₃.seen addr (.threads (.call 0)) = [] := by
  -- without a request id the parse thread takes the packet for a push
  have hmode : ¬ isRequestMode package = true := by
    rw [isRequestMode, hid]
    decide
  let done : ChannelCallback := ⟨ch.threads.channel.nextPtr,
    ⟨false, rpcRequestIdNull, package.rpcMeta.rpcResponseMeta.error⟩, some binary, some info.function⟩
  have hpacket : Pipeline.parsePacket ch.threads package = some { ch.threads with
      channel := { ch.threads.channel with
        alreadyCallbackQueue := [done]
        nextPtr := ch.threads.channel.nextPtr + 1 } } := by
    rw [Pipeline.parsePacket, if_pos hmethod, if_neg hmode, ChannelThreads.step, Channel.doRegisterPacket, hentry,
      hbinary, h.ready]
    rfl
  obtain ⟨p₁, p₂, p₃, hfetch, hparse, hpop, hcall, hthread⟩ := h.exists_callback hpacket rfl
  refine ⟨p₁, p₂, p₃, hfetch, hparse, hpop, hcall, ?_⟩
  simp only [seen, hthread]
  exact if_neg fun hreply => hreply.1 rfl

end ChannelProcess

/-! ## An idle server -/

/-- What a thread has sent goes into a frame. -/
def ServerWorker.Framed (w : ServerWorker) : Prop :=
  ∀ response ∈ w.sent, ∀ sockets : List Socket, sockets.length ≤ 1 →
    (replyParts sockets response.rpcMeta response.body).Representable

theorem ServerWorker.Framed.of_sent {w w' : ServerWorker} (h : w.Framed) (hsent : w'.sent = w.sent) :
    w'.Framed := by
  rw [ServerWorker.Framed, hsent]
  exact h

theorem ServerWorker.Framed.answered {w w' : ServerWorker} (h : w.Framed) {response : Response}
    (hsent : w'.sent = w.sent ++ [response])
    (hfits : ∀ sockets : List Socket, sockets.length ≤ 1 →
      (replyParts sockets response.rpcMeta response.body).Representable) : w'.Framed := by
  rw [ServerWorker.Framed, hsent]
  intro sent hmem
  rcases List.mem_append.mp hmem with hold | hnew
  · exact h sent hold
  · rw [List.mem_singleton.mp hnew]
    exact hfits

/-- A thread has taken nothing, and has sent nothing. -/
structure ServerWorker.Quiet (w w' : ServerWorker) : Prop where
  invocations : w'.invocations = w.invocations
  sent : w'.sent = w.sent

/-- Nothing is queued in the server, and its first thread has nothing to do. What it has sent could be framed. -/
structure ServerProcess.Idle (sp : ServerProcess) : Prop where
  queue : sp.server.rpcNet.packetQueue = []
  thread : ∃ w, sp.threads[0]? = some ⟨w, []⟩ ∧ w.current = none ∧ w.cntl.error = "" ∧ w.Framed

/-- What an answer leaves behind: the client of the gateway has one packet more to send. -/
structure ServerProcess.Answered (sp sp' : ServerProcess) (route : Nat) (client : RpcServerRouteClient)
    (packet : Bytes) : Prop where
  idle : sp'.Idle
  name2Service : sp'.server.name2Service = sp.server.name2Service
  routeLength : sp'.server.rpcNet.routeLength = sp.server.rpcNet.routeLength
  sent : ∃ client', sp'.server.rpcNet.routeClientList[route]? = some client' ∧ client'.routeId = client.routeId ∧
    client'.sent = client.sent ++ [packet]

/-- The null link id leads to no socket. -/
theorem linkId_ne_null {routeLength : Nat} {linkId : LinkID} {socket : Socket}
    (hsocket : getSocket routeLength linkId = some socket) (hpos : 0 < socket.toInt) : linkId ≠ rpcLinkIdNull := by
  rintro rfl
  obtain ⟨m, _, rfl⟩ := Option.map_eq_some_iff.mp hsocket
  have hzero : Int32.ofNat ((rpcLinkIdNull : LinkID).toNat % m) = 0 := by
    rw [show (rpcLinkIdNull : LinkID).toNat = 0 from rfl, Nat.zero_mod]
    rfl
  rw [hzero] at hpos
  exact absurd hpos (by decide)

/-- The meta of the reply to a request. -/
def replyMeta (rpcMeta : RpcMeta) (reason : String) : RpcMeta :=
  { rpcMeta with responseMeta := some ⟨reason, decide (reason ≠ "")⟩ }

namespace ServerWorker

/-- **A thread serves a request**: the handler sets its error and its response, runs the closure and returns. -/
theorem exists_serve {w : ServerWorker} (hidle : w.current = none) (herror : w.cntl.error = "")
    {package : RpcPacket} {service : Service} {methodDescriptor : MethodDescriptor} {request : Bytes}
    (hmethod : package.netEvent = .method) (hlink : package.linkId ≠ rpcLinkIdNull)
    (hid : package.rpcMeta.rpcRequestMeta.requestId ≠ rpcRequestIdNull)
    (hservice : w.name2Service[package.rpcMeta.serviceName]? = some service)
    (hdescriptor : service.method package.rpcMeta.methodIndex = some methodDescriptor)
    (hbinary : package.binary = some request) (hparses : methodDescriptor.parses request = true)
    (reason : String) (response : Bytes) :
    ∃ w₁ w₂ w₃ w₄ w₅, w.step (.receive package) = some w₁ ∧ w₁.step (.setFailed reason) = some w₂ ∧
      w₂.step (.respond response) = some w₃ ∧ w₃.step (.run w.invocations.length) = some w₄ ∧
      w₄.step .finish = some w₅ ∧
      (w₁.invocations = w.invocations ++ [package] ∧ w₁.sent = w.sent) ∧ w₁.Quiet w₂ ∧ w₂.Quiet w₃ ∧
      (w₄.invocations = w₃.invocations ∧ w₄.sent = w₃.sent ++
        [⟨w.invocations.length, package.linkId, replyMeta package.rpcMeta reason, response⟩]) ∧
      w₄.Quiet w₅ ∧ w₅.current = none ∧ w₅.cntl.error = "" := by
  let k := w.invocations.length
  let message : RpcMessage := ⟨package.rpcMeta, some methodDescriptor, some request, some []⟩
  let w₁ : ServerWorker := { w with
    cntl := ⟨package.linkId, ""⟩
    rpcMessage := message
    invocations := w.invocations ++ [package]
    current := some k }
  let w₂ : ServerWorker := { w₁ with cntl := ⟨package.linkId, reason⟩ }
  let w₃ : ServerWorker := { w₂ with rpcMessage := { message with response := some response } }
  -- `ParseBinary` checks the message at its end, and `SendResponse` once more
  have hcomplete : message.isCompleted = true := by
    simp [message, RpcMessage.isCompleted, hid]
  have hparse : parseBinary w.name2Service package = some (message, true) := by
    simp only [parseBinary, getServiceFromName, hservice, hdescriptor, hbinary, hparses, if_true,
      Option.bind_eq_bind, Option.bind_some, Option.pure_def, message] at hcomplete ⊢
    rw [hcomplete]
  have hreceive : w.step (.receive package) = some w₁ := by
    simp only [step, if_pos hidle, receive, if_pos hmethod, hparse, herror, Option.bind_eq_bind, Option.bind_some,
      Option.pure_def, if_true]
    rfl
  have hrun : w₃.step (.run k) = some { w₃.sendResponse k with runs := w.runs ++ [k] } := by
    have hlt : k < w₃.invocations.length := by
      show k < (w.invocations ++ [package]).length
      simp [k]
    rw [step, if_pos hlt]
  have hsend : w₃.sendResponse k = { w₃ with
      rpcMessage := { message with rpcMeta := replyMeta package.rpcMeta reason, response := some response }
      sent := w.sent ++ [⟨k, package.linkId, replyMeta package.rpcMeta reason, response⟩] } := by
    have hcomplete : w₃.rpcMessage.isCompleted = true := hcomplete
    have hlink : w₃.cntl.linkId ≠ rpcLinkIdNull := hlink
    simp only [sendResponse, if_neg hlink, hcomplete]
    rfl
  rw [hsend] at hrun
  exact ⟨w₁, w₂, w₃, _, _, hreceive, rfl, rfl, hrun, rfl, ⟨rfl, rfl⟩, ⟨rfl, rfl⟩, ⟨rfl, rfl⟩, ⟨rfl, rfl⟩, ⟨rfl, rfl⟩,
    rfl, rfl⟩

end ServerWorker

namespace ServerProcess

variable {sp : ServerProcess} {w w' : ServerWorker}

/-- The server with another worker in its first thread. -/
def withWorker (sp : ServerProcess) (w : ServerWorker) : ServerProcess :=
  { sp with threads := sp.threads.set 0 ⟨w, []⟩ }

theorem seen_withWorker {addrOf : LinkID → Option Addr} {sp' : ServerProcess} {t : WorkThread}
    (hthread : sp.threads[0]? = some t) (hthreads : sp'.threads = sp.threads) :
    seen addrOf (sp.withWorker w) (sp'.withWorker w') = seenAt addrOf w w' := by
  have hget : (sp.withWorker w).threads[0]? = some ⟨w, []⟩ := getElem?_set_of_getElem? hthread _
  have hset : (sp'.withWorker w').threads = (sp.withWorker w).threads.set 0 ⟨w', []⟩ := by
    show sp'.threads.set 0 _ = (sp.threads.set 0 _).set 0 _
    rw [hthreads, List.set_set]
  exact seen_set hget hset

theorem sized_withWorker {t : WorkThread} {e : ServerWorker.Event} (hthread : sp.threads[0]? = some t)
    (hstep : w.step e = some w') (hframed : w'.Framed) : (sp.withWorker w).Sized (.handler 0 e) := by
  intro t' ht' w'' hw''
  obtain rfl := Option.some.inj ((getElem?_set_of_getElem? hthread _).symm.trans ht')
  obtain rfl := Option.some.inj (hstep.symm.trans hw'')
  exact hframed

variable [FrNet] [Serializer]

/-- The handler of the first thread takes a step. -/
theorem step_withWorker {t : WorkThread} {e : ServerWorker.Event} {rpcNet : RpcServerRoute}
    (hthread : sp.threads[0]? = some t) (hstep : w.step e = some w')
    (hown : ∀ sp : ServerProcess, sp.step (.handler 0 e) = sp.handler 0 e)
    (hsend : sendResponses sp.server.rpcNet (w'.sent.drop w.sent.length) = some rpcNet) :
    (sp.withWorker w).step (.handler 0 e) = some ((sp.setRpcNet rpcNet).withWorker w') := by
  have hget : (sp.withWorker w).threads[0]? = some ⟨w, []⟩ := getElem?_set_of_getElem? hthread _
  have hsend : sendResponses (sp.withWorker w).server.rpcNet (w'.sent.drop w.sent.length) = some rpcNet := hsend
  rw [hown]
  simp only [handler, hget, hstep, hsend, Option.bind_eq_bind, Option.bind_some, Option.pure_def]
  simp only [withWorker, setRpcNet, List.set_set]

/-- **The first thread takes a request that has come in.** -/
theorem Idle.exists_work (h : sp.Idle) {package : RpcPacket} (hthread : sp.threads[0]? = some ⟨w, []⟩)
    (hstep : ({ w with name2Service := sp.server.name2Service } : ServerWorker).step (.receive package) = some w') :
    ∃ p₁, (sp.setRpcNet (sp.server.rpcNet.pushMessageToQueue package)).step (.fetch 0) = some p₁ ∧
      p₁.step (.work 0) = some (sp.withWorker w') ∧
      ∀ addrOf, seen addrOf (sp.setRpcNet (sp.server.rpcNet.pushMessageToQueue package)) p₁ = [] ∧
        seen addrOf p₁ (sp.withWorker w') = seenAt addrOf w w' := by
  let p₁ : ServerProcess := { sp with threads := sp.threads.set 0 ⟨w, [package]⟩ }
  have hempty : ({ sp.server.rpcNet with packetQueue := [] } : RpcServerRoute) = sp.server.rpcNet := by
    rw [← h.queue]
  have hfetch : (sp.setRpcNet (sp.server.rpcNet.pushMessageToQueue package)).step (.fetch 0) = some p₁ := by
    have hthread : (sp.setRpcNet (sp.server.rpcNet.pushMessageToQueue package)).threads[0]? = some ⟨w, []⟩ := hthread
    have hqueue : (sp.setRpcNet (sp.server.rpcNet.pushMessageToQueue package)).server.rpcNet.packetQueue
        = [package] := by
      show sp.server.rpcNet.packetQueue ++ [package] = _
      rw [h.queue, List.nil_append]
    show fetch _ 0 = _
    rw [fetch, hthread]
    simp only [hqueue]
    exact congrArg (fun rpcNet => some { sp.setRpcNet rpcNet with threads := sp.threads.set 0 ⟨w, [package]⟩ })
      hempty
  have hget : p₁.threads[0]? = some ⟨w, [package]⟩ := getElem?_set_of_getElem? hthread _
  refine ⟨p₁, hfetch, ?_, fun addrOf => ⟨?_, ?_⟩⟩
  · show work p₁ 0 = _
    rw [work, hget]
    have hstep : ({ w with name2Service := p₁.server.name2Service } : ServerWorker).step (.receive package)
        = some w' := hstep
    simp only [hstep, Option.map_some]
    simp only [withWorker, p₁, List.set_set]
  · have hfetched : (sp.setRpcNet (sp.server.rpcNet.pushMessageToQueue package)).threads[0]? = some ⟨w, []⟩ :=
      hthread
    rw [seen_set hfetched (show p₁.threads = _ from rfl)]
    exact seenAt_same rfl rfl
  · have hset : (sp.withWorker w').threads = p₁.threads.set 0 ⟨w', []⟩ := by
      simp only [withWorker, p₁, List.set_set]
    exact seen_set hget hset

end ServerProcess

/-- **A message to a link id is handed to the client of its gateway**, for its socket. -/
theorem RpcServerRoute.send_one [FrNet] [Serializer] {s : RpcServerRoute} {linkId : LinkID} {socket : Socket}
    {route : Nat} {client : RpcServerRouteClient} {rpcMeta : RpcMeta} {body : Bytes}
    (hroute : (getRouteID s.routeLength linkId).map UInt32.toNat = some route)
    (hsocket : getSocket s.routeLength linkId = some socket) (hclient : s.routeClientList[route]? = some client)
    (hid : client.routeId = UInt32.ofNat route)
    (hserializes : ∀ netInfo, Serializer.serializes client.routeId.toNat netInfo rpcMeta body = true) :
    ∃ client' ret, s.send linkId rpcMeta body
        = some ({ s with routeClientList := s.routeClientList.set route client' }, ret) ∧
      client'.routeId = client.routeId ∧
      client'.sent = client.sent ++ [(replyParts [socket] rpcMeta body).bytes] := by
  obtain ⟨routeId, hrouteId, rfl⟩ := Option.map_eq_some_iff.mp hroute
  have howner : client.routeId = routeId := by
    rw [hid, UInt32.ofNat_toNat]
  have htargets : client.targetSockets s.routeLength [linkId] = some [socket] := by
    simp only [RpcServerRouteClient.targetSockets, hrouteId, hsocket, howner, if_true, Option.bind_eq_bind,
      Option.bind_some, Option.pure_def]
  have hsend : client.sendTo [socket] rpcMeta body
      = RpcServerRouteClient.clientSend
        { client with requests := client.requests ++ [⟨false, "", [socket], socketNull⟩] }
        (replyParts [socket] rpcMeta body).bytes := by
    rw [RpcServerRouteClient.sendTo, if_neg (List.cons_ne_nil _ _), if_pos (hserializes _)]
    rfl
  obtain ⟨client', ret, hclient', hrouteId', hsent⟩ : ∃ client' ret,
      client.sendTo [socket] rpcMeta body = (client', ret) ∧ client'.routeId = client.routeId ∧
      client'.sent = client.sent ++ [(replyParts [socket] rpcMeta body).bytes] :=
    ⟨_, _, hsend, rfl, rfl⟩
  refine ⟨client', ret, ?_, hrouteId', hsent⟩
  simp only [send, hrouteId, hclient, sendVia, RpcServerRouteClient.send, htargets, hclient', Option.bind_eq_bind,
    Option.bind_some, Option.map_some]

end Frrpc
