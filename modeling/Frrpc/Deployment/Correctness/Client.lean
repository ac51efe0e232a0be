import Frrpc.Deployment.Correctness.Endpoint
import Frrpc.Rpc.Correctness.Objects

/-!
# `Deployment.Correctness.Client` — what a channel's process holds

A packet that carries a request id came from a reply (`Arrived`), and a callback on its way to a work thread
carries what that reply says, unless it is a push or a timeout (`Settled`). `ChannelOk` states it of every
queue of the process, with what the channel sends; each step keeps it, and what is seen of the step has its
cause.
-/

namespace Frrpc

open Lib Std

/-- The reply in a packet that has a request id has been sent. -/
def Arrived (p : Past) (addr : Addr) (package : RpcPacket) : Prop :=
  package.rpcMeta.rpcRequestMeta.requestId ≠ rpcRequestIdNull →
    p.Replied addr package.rpcMeta (package.binary.getD [])

/-- A pending callback, still as it was made. -/
structure ChannelCallback.Waits (callback : ChannelCallback) (key : RpcRequestId) : Prop where
  requestId : callback.cntl.requestId = key
  error : callback.cntl.error = ""
  response : callback.response = none

/-- A callback that neither a push nor a timeout has made ready carries what a reply says. -/
def Settled (p : Past) (addr : Addr) (callback : ChannelCallback) : Prop :=
  callback.cntl.requestId ≠ rpcRequestIdNull → callback.cntl.error ≠ "request timeout" →
    ∃ id, Channel.requestKey id = callback.cntl.requestId ∧
      .reply addr id (callback.cntl.error, callback.response) ∈ p.trace

section

variable {p p' : Past} (hgrows : p.Grows p') {addr : Addr}

include hgrows

theorem Arrived.mono {package : RpcPacket} (h : Arrived p addr package) : Arrived p' addr package :=
  fun hid => (h hid).mono hgrows

theorem Settled.mono {callback : ChannelCallback} (h : Settled p addr callback) : Settled p' addr callback := by
  intro hid herror
  obtain ⟨id, hkey, hseen⟩ := h hid herror
  exact ⟨id, hkey, hgrows.trace _ hseen⟩

end

/-! ## The connection -/

/-- What has come in are replies, and what goes out is what a channel sends. -/
structure ChannelNetOk (p : Past) (addr : Addr) (c : RpcChannelRoute) : Prop where
  received : ∀ package ∈ c.packetQueue, Arrived p addr package
  sends : ∀ packet ∈ c.sent, ∃ f : Frame, packet = f.bytes ∧ f.Says (ChannelSends p addr)

namespace ChannelNetOk

variable {p p' : Past} {addr : Addr} {c c' : RpcChannelRoute}

theorem mono (h : ChannelNetOk p addr c) (hgrows : p.Grows p') : ChannelNetOk p' addr c where
  received package hmem := (h.received package hmem).mono hgrows
  sends packet hmem := by
    obtain ⟨f, hf, hsaid⟩ := h.sends packet hmem
    exact ⟨f, hf, hsaid.mono fun _ hsends => hsends.mono hgrows⟩

theorem push (h : ChannelNetOk p addr c) {package : RpcPacket} (hpackage : Arrived p addr package) :
    ChannelNetOk p addr (c.pushMessageToQueue package) where
  received other hmem := by
    rcases List.mem_append.mp hmem with hold | hnew
    · exact h.received other hold
    · rw [List.mem_singleton.mp hnew]
      exact hpackage
  sends := h.sends

/-- The packets that tell of a connection carry no request id. -/
theorem arrived_new (linkId : LinkID) (netEvent : ERpcEvent) : Arrived p addr (.new linkId netEvent) :=
  fun hid => absurd rfl hid

/-- The front of the queue leaves it. -/
theorem drop (h : ChannelNetOk p addr c) (n : Nat) :
    ChannelNetOk p addr { c with packetQueue := c.packetQueue.drop n } where
  received package hmem := h.received package (List.mem_of_mem_drop hmem)
  sends := h.sends

/-- **A channel gets replies only**: requests go to servers. -/
theorem dispatch (hpeer : p.peer addr = some .channel) {parts : FrameParts} (hsends : GatewaySends p addr parts)
    (h : ChannelNetOk p addr c) (hdispatch : c.dispatch parts.netInfo parts.packet = .ok c') :
    ChannelNetOk p addr c' := by
  cases hsends with
  | request server _ => exact absurd hpeer server.not_channel
  | @message sockets rpcMeta body replied =>
    obtain rfl := Except.ok.inj hdispatch
    refine h.push fun hid => ?_
    have hbinary : (replyParts sockets rpcMeta body).packet.binary.getD [] = body :=
      FrameParts.packet_binary rfl
    rw [hbinary]
    exact replied hid
  | heart =>
    obtain rfl := Except.ok.inj hdispatch
    exact h

variable [FrNet]

/-- A frame of the channel's is handed over. -/
theorem send (h : ChannelNetOk p addr c) {parts : FrameParts} (hparts : ChannelSends p addr parts)
    (hsound : parts.Sound) (hfits : parts.Representable) :
    ChannelNetOk p addr (c.clientSend parts.bytes).1 where
  received := h.received
  sends packet hmem := by
    rcases List.mem_append.mp hmem with hold | hnew
    · exact h.sends packet hold
    · obtain ⟨f, hbytes, hbuilt⟩ := exists_builtFrom hfits hsound
      exact ⟨f, (List.mem_singleton.mp hnew).trans hbytes, parts, hparts, hbuilt⟩

end ChannelNetOk

/-! ## The callbacks -/

/-- A channel's connection and its callbacks. -/
structure CallbacksOk (p : Past) (addr : Addr) (c : Channel) : Prop where
  net : ChannelNetOk p addr c.rpcNet
  pending : ∀ (key : RpcRequestId) callback, c.requestCallback[key]? = some callback → callback.Waits key
  ready : ∀ callback ∈ c.alreadyCallbackQueue, Settled p addr callback

namespace Channel

/-- A finished request keeps its id, and says what the packet says. -/
theorem doRequestPacket_settles {c c' : Channel} {package : RpcPacket}
    (hwaits : ∀ (key : RpcRequestId) callback, c.requestCallback[key]? = some callback → callback.Waits key)
    (h : c.doRequestPacket package = some c') :
    c' = c ∨ ∃ callback, c' = c.finish (requestKey package.rpcMeta.rpcRequestMeta.requestId) callback ∧
      callback.cntl.requestId = requestKey package.rpcMeta.rpcRequestMeta.requestId ∧
      (callback.cntl.error, callback.response) = answerOf package.rpcMeta (package.binary.getD []) := by
  unfold doRequestPacket at h
  dsimp only at h
  split at h
  · exact Or.inl (Option.some.inj h).symm
  · next callback hentry =>
    have hwait := hwaits _ _ hentry
    right
    split at h
    · next hfailed =>
      have herror : package.rpcMeta.rpcResponseMeta.error ≠ "" := (ChannelController.failed_iff _).mp hfailed
      refine ⟨_, (Option.some.inj h).symm, hwait.requestId, ?_⟩
      rw [answerOf, if_neg herror, ← hwait.response]
      rfl
    · next hfailed =>
      have herror : package.rpcMeta.rpcResponseMeta.error = "" :=
        not_not.mp fun hne => hfailed ((ChannelController.failed_iff _).mpr hne)
      obtain ⟨binary, hbinary, h⟩ := Option.bind_eq_some_iff.mp h
      refine ⟨_, (Option.some.inj h).symm, hwait.requestId, ?_⟩
      rw [answerOf, if_pos herror, hbinary]
      rfl

/-- A push has no request id. -/
theorem doRegisterPacket_null {c c' : Channel} {package : RpcPacket}
    (h : c.doRegisterPacket package = some c') :
    c' = c ∨ ∃ callback : ChannelCallback, callback.cntl.requestId = rpcRequestIdNull ∧
      c' = { c with
        alreadyCallbackQueue := c.alreadyCallbackQueue ++ [callback]
        nextPtr := c.nextPtr + 1 } := by
  unfold doRegisterPacket at h
  split at h
  · exact Or.inl (Option.some.inj h).symm
  · obtain ⟨binary, _, heq⟩ := Option.bind_eq_some_iff.mp h
    exact Or.inr ⟨_, rfl, (Option.some.inj heq).symm⟩

end Channel

namespace CallbacksOk

variable {p p' : Past} {addr : Addr} {c c' : Channel}

theorem mono (h : CallbacksOk p addr c) (hgrows : p.Grows p') : CallbacksOk p' addr c where
  net := h.net.mono hgrows
  pending := h.pending
  ready callback hmem := (h.ready callback hmem).mono hgrows

/-- A change of anything else. -/
theorem of_eq (h : CallbacksOk p addr c) (hnet : c'.rpcNet = c.rpcNet)
    (hpending : c'.requestCallback = c.requestCallback)
    (hready : c'.alreadyCallbackQueue = c.alreadyCallbackQueue) : CallbacksOk p addr c' where
  net := hnet ▸ h.net
  pending := hpending ▸ h.pending
  ready := hready ▸ h.ready

theorem setNet (h : CallbacksOk p addr c) {rpcNet : RpcChannelRoute} (hnet : ChannelNetOk p addr rpcNet) :
    CallbacksOk p addr { c with rpcNet } := ⟨hnet, h.pending, h.ready⟩

theorem ready_append (h : CallbacksOk p addr c) {callback : ChannelCallback}
    (hsettled : Settled p addr callback) :
    ∀ other ∈ c.alreadyCallbackQueue ++ [callback], Settled p addr other := by
  intro other hmem
  rcases List.mem_append.mp hmem with hold | hnew
  · exact h.ready other hold
  · rw [List.mem_singleton.mp hnew]
    exact hsettled

/-- Erased entries leave the others alone. -/
theorem pending_erase (h : CallbacksOk p addr c) (requestId key : RpcRequestId) (callback : ChannelCallback)
    (hentry : (c.requestCallback.erase requestId)[key]? = some callback) : callback.Waits key :=
  h.pending key callback (Channel.getElem?_of_erase hentry)

theorem finish (h : CallbacksOk p addr c) {requestId : RpcRequestId} {callback : ChannelCallback}
    (hsettled : Settled p addr callback) : CallbacksOk p addr (c.finish requestId callback) where
  net := h.net
  pending := h.pending_erase requestId
  ready := h.ready_append hsettled

/-- **A reply settles the call** that waits under its key. -/
theorem doRequestPacket (h : CallbacksOk p addr c) {package : RpcPacket} (hmode : isRequestMode package = true)
    (harrived : Arrived p addr package) (hpacket : c.doRequestPacket package = some c') :
    CallbacksOk p addr c' := by
  rcases Channel.doRequestPacket_settles h.pending hpacket with rfl | ⟨callback, rfl, hid, hanswer⟩
  · exact h
  · refine h.finish fun _ _ => ⟨package.rpcMeta.rpcRequestMeta.requestId, hid.symm, ?_⟩
    rw [hanswer]
    exact (harrived (of_decide_eq_true hmode)).seen

theorem doRegisterPacket (h : CallbacksOk p addr c) {package : RpcPacket}
    (hpacket : c.doRegisterPacket package = some c') : CallbacksOk p addr c' := by
  rcases Channel.doRegisterPacket_null hpacket with rfl | ⟨callback, hid, rfl⟩
  · exact h
  · exact ⟨h.net, h.pending, h.ready_append fun hne => absurd hid hne⟩

/-- An expired request reports a timeout. -/
theorem expire (h : CallbacksOk p addr c) (requestId : RpcRequestId) :
    CallbacksOk p addr (c.expire requestId) := by
  unfold Channel.expire
  split
  · exact h
  · exact h.finish fun _ hne => absurd rfl hne

theorem clearTimeoutRequest (h : CallbacksOk p addr c) (curTime : Int) :
    CallbacksOk p addr (c.clearTimeoutRequest curTime) := by
  have hrel := Channel.clearTimeoutRequest_rel
    (R := fun c c' => CallbacksOk p addr c → CallbacksOk p addr c')
    (fun _ _ hc => hc.of_eq rfl rfl rfl) (fun _ requestId hc => hc.expire requestId)
    (fun _ _ _ hfirst hsecond hc => hsecond (hfirst hc)) c curTime
  exact hrel h

theorem cancelRequest (h : CallbacksOk p addr c) (requestId : RpcRequestId) :
    CallbacksOk p addr (c.cancelRequest requestId).1 := by
  rcases c.cancelRequest_cases requestId with ⟨_, heq⟩ | ⟨_, _, heq⟩
  · rw [heq]
    exact h
  · rw [heq]
    exact ⟨h.net, h.pending_erase requestId, h.ready⟩

/-- A new request waits under its own id. -/
theorem insert (h : CallbacksOk p addr c) (method : MethodCall) (requestId : RpcRequestId) :
    CallbacksOk p addr { c with
      requestCallback := c.requestCallback.insertIfNew requestId (c.newCallback method requestId)
      nextPtr := c.nextPtr + 1 } where
  net := h.net
  pending key callback hentry := by
    rw [getElem?_insertIfNew_eq] at hentry
    split at hentry
    · next hkey =>
      obtain rfl := Option.some.inj hentry
      exact ⟨hkey.1, rfl, rfl⟩
    · exact h.pending key callback hentry
  ready := h.ready

end CallbacksOk

/-! ## The threads -/

/-- What a send hands over. -/
theorem ChannelThreads.send_channel [FrNet] {s s' : ChannelThreads} {index : Nat}
    (h : ChannelThreads.step s (.send index) = some s') :
    ∃ invocation, s.invocations[index]? = some invocation ∧
      s'.channel = { s.channel with
        rpcNet := (s.channel.rpcNet.clientSend
          (requestParts (s.channel.requestMeta invocation.method invocation.requestId)
            invocation.method.request).bytes).1 } ∧
      s'.batches = s.batches := by
  rw [ChannelThreads.step, ChannelThreads.send] at h
  split at h
  · next hget =>
    obtain rfl := Option.some.inj h
    exact ⟨_, hget, rfl, rfl⟩
  · cases h

/-- The channel and the batches of its work threads. -/
structure ThreadsOk (p : Past) (addr : Addr) (s : ChannelThreads) : Prop where
  owned : s.Owned
  callbacks : CallbacksOk p addr s.channel
  taken : ∀ batch ∈ s.batches, ∀ callback ∈ batch, Settled p addr callback

namespace ThreadsOk

variable {p p' : Past} {addr : Addr} {s s' : ChannelThreads}

theorem mono (h : ThreadsOk p addr s) (hgrows : p.Grows p') : ThreadsOk p' addr s where
  owned := h.owned
  callbacks := h.callbacks.mono hgrows
  taken batch hbatch callback hmem := (h.taken batch hbatch callback hmem).mono hgrows

theorem started (option : ChannelOption) (workThreadNum : Nat) :
    ThreadsOk p addr (.started option workThreadNum) where
  owned := ChannelThreads.owned_started option workThreadNum
  callbacks := by
    refine ⟨⟨nofun, nofun⟩, fun key callback hentry => ?_, nofun⟩
    rw [ChannelThreads.started, Channel.started, ExtTreeMap.getElem?_empty] at hentry
    cases hentry
  taken batch hbatch callback hmem := by
    rw [List.eq_of_mem_replicate hbatch] at hmem
    cases hmem

/-- A batch is replaced by another. -/
theorem set_taken (h : ThreadsOk p addr s) {batch : List ChannelCallback} (thread : Nat)
    (hbatch : ∀ callback ∈ batch, Settled p addr callback) :
    ∀ b ∈ s.batches.set thread batch, ∀ callback ∈ b, Settled p addr callback := by
  intro b hb callback hmem
  rcases List.mem_or_eq_of_mem_set hb with hold | rfl
  · exact h.taken b hold callback hmem
  · exact hbatch callback hmem

theorem pop (h : ThreadsOk p addr s) {thread dealMsgNumOnce : Nat} (howned : s'.Owned)
    (hpop : s.pop thread dealMsgNumOnce = some s') : ThreadsOk p addr s' := by
  obtain ⟨_, batch, queue, hqueue, rfl⟩ := ChannelThreads.pop_cases hpop
  refine ⟨howned, ⟨h.callbacks.net, h.callbacks.pending, fun callback hmem => ?_⟩,
    h.set_taken thread fun callback hmem => ?_⟩
  · exact h.callbacks.ready callback (hqueue ▸ List.mem_append_right batch hmem)
  · exact h.callbacks.ready callback (hqueue ▸ List.mem_append_left queue hmem)

theorem call (h : ThreadsOk p addr s) {thread : Nat} (howned : s'.Owned)
    (hcall : s.call thread = some s') : ThreadsOk p addr s' := by
  obtain ⟨callback, batch, hget, rfl⟩ := ChannelThreads.call_cases hcall
  refine ⟨howned, h.callbacks, h.set_taken thread fun other hmem => ?_⟩
  exact h.taken _ (List.mem_of_getElem? hget) other (List.mem_cons_of_mem callback hmem)

variable [FrNet]

/-- A step with no effect on the batches. -/
theorem of_step (h : ThreadsOk p addr s) {e : ChannelThreads.Event} (hstep : ChannelThreads.step s e = some s')
    (hcallbacks : CallbacksOk p addr s'.channel) (hbatches : s'.batches = s.batches) :
    ThreadsOk p addr s' :=
  ⟨(ChannelThreads.step_tokens hstep).tokens.linear h.owned, hcallbacks, hbatches ▸ h.taken⟩

/-- A request that is sent has been seen. -/
theorem send (h : ThreadsOk p addr s) {index : Nat} (hpeer : p.peer addr = some .channel)
    (hseen : ∀ invocation ∈ s.invocations[index]?, .call addr invocation.requestId
      (s.channel.requestMeta invocation.method invocation.requestId, invocation.method.request) ∈ p.trace)
    (hfits : ∀ invocation ∈ s.invocations[index]?,
      (requestParts (s.channel.requestMeta invocation.method invocation.requestId)
        invocation.method.request).Representable)
    (hstep : ChannelThreads.step s (.send index) = some s') : ThreadsOk p addr s' := by
  obtain ⟨invocation, hget, hchannel, hbatches⟩ := ChannelThreads.send_channel hstep
  refine h.of_step hstep ?_ hbatches
  rw [hchannel]
  refine h.callbacks.setNet (h.callbacks.net.send (.request ⟨hpeer, ?_⟩) (sound_of_route rfl ?_) (hfits _ hget))
  · exact hseen _ hget
  · exact byteSize_pos_of_request rfl

/-- The steps that need no word of what is sent or received. -/
theorem step (h : ThreadsOk p addr s) {e : ChannelThreads.Event} (hsend : ∀ index, e ≠ .send index)
    (hrequest : ∀ package, e ≠ .requestPacket package) (hregister : ∀ package, e ≠ .registerPacket package)
    (hstep : ChannelThreads.step s e = some s') : ThreadsOk p addr s' := by
  have howned := (ChannelThreads.step_tokens hstep).tokens.linear h.owned
  cases e with
  | send index => exact absurd rfl (hsend index)
  | requestPacket package => exact absurd rfl (hrequest package)
  | registerPacket package => exact absurd rfl (hregister package)
  | allocate method =>
    obtain rfl := Option.some.inj hstep
    unfold ChannelThreads.allocate at howned ⊢
    split
    · next hadmits =>
      rw [if_pos hadmits] at howned
      exact ⟨howned, h.callbacks.of_eq rfl rfl rfl, h.taken⟩
    · exact h
  | insert index =>
    obtain ⟨invocation, _, _, ⟨_, rfl⟩ | ⟨_, rfl⟩⟩ := ChannelThreads.insert_cases hstep
    · exact ⟨howned, h.callbacks, h.taken⟩
    · exact ⟨howned, h.callbacks.insert _ _, h.taken⟩
  | schedule index localTimeMs =>
    obtain ⟨_, _, _, _, rfl⟩ := ChannelThreads.pushTimeout_cases hstep
    exact ⟨howned, h.callbacks.of_eq rfl rfl rfl, h.taken⟩
  | clearTimeout curTime =>
    obtain rfl := Option.some.inj hstep
    exact ⟨howned, h.callbacks.clearTimeoutRequest curTime, h.taken⟩
  | cancel requestId =>
    obtain rfl := Option.some.inj hstep
    exact ⟨howned, h.callbacks.cancelRequest requestId, h.taken⟩
  | registerCallback callbackKey info =>
    obtain ⟨channel, hinfo, rfl⟩ := Option.map_eq_some_iff.mp hstep
    obtain ⟨_, rfl⟩ := Channel.registerCallbackInfo_cases hinfo
    exact ⟨howned, h.callbacks.of_eq rfl rfl rfl, h.taken⟩
  | pop thread dealMsgNumOnce => exact h.pop howned hstep
  | call thread => exact h.call howned hstep

end ThreadsOk

/-! ## The process -/

/-- The threads, and the batches of the parse threads. -/
structure ChannelOk (p : Past) (addr : Addr) (ch : ChannelProcess) : Prop where
  threads : ThreadsOk p addr ch.threads
  fetched : ∀ batch ∈ ch.parseQueues, ∀ package ∈ batch, Arrived p addr package

/-- What the callers of a channel have to see to: what it is asked to send fits into the fields of a
    frame. -/
def ChannelProcess.Sized (ch : ChannelProcess) : ChannelProcess.Event → Prop
  | .threads (.send index) => ∀ invocation ∈ ch.threads.invocations[index]?,
    (requestParts (ch.threads.channel.requestMeta invocation.method invocation.requestId)
      invocation.method.request).Representable
  | .registerService serviceName serviceAddr =>
    (commandParts eRouteCmdChannelServiceRegister
      (serialize (⟨serviceName, serviceAddr⟩ : ChannelServiceRegister))).Representable
  | _ => True

/-- The threads of a process do not handle packets; its parse threads do. -/
theorem ChannelProcess.step_threads [FrNet] {ch ch' : ChannelProcess} {e : ChannelThreads.Event}
    (h : ch.step (.threads e) = some ch') :
    (∀ package, e ≠ .requestPacket package) ∧ (∀ package, e ≠ .registerPacket package) ∧
      ∃ threads, ChannelThreads.step ch.threads e = some threads ∧ ch' = { ch with threads } := by
  have hcases : (∀ package, e ≠ .requestPacket package) ∧ (∀ package, e ≠ .registerPacket package) ∧
      ch.step (.threads e) = (ChannelThreads.step ch.threads e).map fun threads => { ch with threads } := by
    cases e with
    | requestPacket package => cases h
    | registerPacket package => cases h
    | _ => exact ⟨nofun, nofun, rfl⟩
  obtain ⟨hrequest, hregister, hmap⟩ := hcases
  rw [hmap] at h
  obtain ⟨threads, hthread, rfl⟩ := Option.map_eq_some_iff.mp h
  exact ⟨hrequest, hregister, threads, hthread, rfl⟩

namespace ChannelOk

variable {p p' : Past} {addr : Addr} {ch ch' : ChannelProcess}

theorem mono (h : ChannelOk p addr ch) (hgrows : p.Grows p') : ChannelOk p' addr ch where
  threads := h.threads.mono hgrows
  fetched batch hbatch package hmem := (h.fetched batch hbatch package hmem).mono hgrows

theorem started (option : ChannelOption) (parseThreadNum workThreadNum : Nat) :
    ChannelOk p addr (.started option parseThreadNum workThreadNum) where
  threads := .started option workThreadNum
  fetched batch hbatch package hmem := by
    rw [List.eq_of_mem_replicate hbatch] at hmem
    cases hmem

theorem net (h : ChannelOk p addr ch) : ChannelNetOk p addr ch.rpcNet := h.threads.callbacks.net

theorem setNet (h : ChannelOk p addr ch) {rpcNet : RpcChannelRoute} (hnet : ChannelNetOk p addr rpcNet) :
    ChannelOk p addr (ch.setRpcNet rpcNet) where
  threads := ⟨h.threads.owned, h.threads.callbacks.setNet hnet, h.threads.taken⟩
  fetched := h.fetched

theorem onConnect (h : ChannelOk p addr ch) (socket : Socket) :
    ChannelOk p addr (ch.setRpcNet (ch.rpcNet.onConnect socket)) :=
  h.setNet (h.net.push (ChannelNetOk.arrived_new _ _))

theorem onDisconnect (h : ChannelOk p addr ch) (socket : Socket) :
    ChannelOk p addr (ch.setRpcNet (ch.rpcNet.onDisconnect socket)) :=
  h.setNet (h.net.push (ChannelNetOk.arrived_new _ _))

/-- A parse batch is replaced by another. -/
theorem set_fetched (h : ChannelOk p addr ch) {batch : List RpcPacket} (thread : Nat)
    (hbatch : ∀ package ∈ batch, Arrived p addr package) :
    ∀ b ∈ ch.parseQueues.set thread batch, ∀ package ∈ b, Arrived p addr package := by
  intro b hb package hmem
  rcases List.mem_or_eq_of_mem_set hb with hold | rfl
  · exact h.fetched b hold package hmem
  · exact hbatch package hmem

theorem fetch (h : ChannelOk p addr ch) {thread parseNumOnce : Nat}
    (hfetch : ch.fetch thread parseNumOnce = some ch') : ChannelOk p addr ch' := by
  unfold ChannelProcess.fetch at hfetch
  split at hfetch
  · obtain rfl := Option.some.inj hfetch
    refine ⟨(h.setNet (h.net.drop parseNumOnce)).threads, h.set_fetched thread fun package hmem => ?_⟩
    exact h.net.received package (List.mem_of_mem_take hmem)
  · cases hfetch

variable [FrNet]

theorem parse (h : ChannelOk p addr ch) {thread : Nat} (hparse : ch.parse thread = some ch') :
    ChannelOk p addr ch' := by
  unfold ChannelProcess.parse at hparse
  split at hparse
  · next package batch hget =>
    obtain ⟨threads, hpacket, rfl⟩ := Option.map_eq_some_iff.mp hparse
    have hbatch := h.fetched _ (List.mem_of_getElem? hget)
    refine ⟨?_, h.set_fetched thread fun other hmem => hbatch other (List.mem_cons_of_mem package hmem)⟩
    unfold Pipeline.parsePacket at hpacket
    split at hpacket
    · split at hpacket
      · next hmode =>
        obtain ⟨channel, hrequest, rfl⟩ := Option.map_eq_some_iff.mp hpacket
        exact h.threads.of_step hpacket
          (h.threads.callbacks.doRequestPacket hmode (hbatch package List.mem_cons_self) hrequest) rfl
      · obtain ⟨channel, hregister, rfl⟩ := Option.map_eq_some_iff.mp hpacket
        exact h.threads.of_step hpacket (h.threads.callbacks.doRegisterPacket hregister) rfl
    · obtain rfl := Option.some.inj hpacket
      exact h.threads
  · cases hparse

/-- **Every step of a channel's process keeps the invariant**, once what is seen of it is in the past. -/
theorem step (h : ChannelOk p addr ch) {e : ChannelProcess.Event} (hpeer : p.peer addr = some .channel)
    (hsized : ch.Sized e) (hseen : ∀ call ∈ ch.seen addr e, call ∈ p.trace)
    (hstep : ch.step e = some ch') : ChannelOk p addr ch' := by
  cases e with
  | fetch thread parseNumOnce => exact h.fetch hstep
  | parse thread => exact h.parse hstep
  | registerService serviceName serviceAddr =>
    obtain rfl := Option.some.inj hstep
    exact h.setNet (h.net.send (.command _) (commandParts_sound _ _) hsized)
  | heart =>
    obtain rfl := Option.some.inj hstep
    exact h.setNet (h.net.send .heart heartParts_sound heartParts_representable)
  | threads e =>
    obtain ⟨hrequest, hregister, threads, hthread, rfl⟩ := ChannelProcess.step_threads hstep
    refine ⟨?_, h.fetched⟩
    by_cases hsend : ∃ index, e = .send index
    · obtain ⟨index, rfl⟩ := hsend
      refine h.threads.send hpeer (fun invocation hget => hseen _ ?_) hsized hthread
      rw [ChannelProcess.seen, hget]
      exact List.mem_singleton_self _
    · exact h.threads.step (fun index he => hsend ⟨index, he⟩) hrequest hregister hthread

end ChannelOk

/-! ## What is seen -/

namespace ChannelProcess

open RemoteCall

/-- Nothing is seen of a step, or a request that is sent, or a callback that is called with a reply. -/
theorem seen_cases (ch : ChannelProcess) (addr : Addr) (e : Event) :
    ch.seen addr e = [] ∨ (∃ id request, ch.seen addr e = [.call addr id request]) ∨
    ∃ thread callback batch, e = .threads (.call thread) ∧
      ch.threads.batches[thread]? = some (callback :: batch) ∧ callback.cntl.requestId ≠ rpcRequestIdNull ∧
      callback.cntl.error ≠ "request timeout" ∧ ch.seen addr e
        = [.complete addr callback.cntl.requestId (callback.cntl.error, callback.response) callback.ptr] := by
  unfold seen
  split
  · split
    · exact Or.inr (Or.inl ⟨_, _, rfl⟩)
    · exact Or.inl rfl
  · split
    · next hget =>
      split
      · next hreply => exact Or.inr (Or.inr ⟨_, _, _, rfl, hget, hreply.1, hreply.2, rfl⟩)
      · exact Or.inl rfl
    · exact Or.inl rfl
  · exact Or.inl rfl

variable [FrNet] {ch ch' : ChannelProcess}

/-- A work thread calls the head of its batch. -/
theorem called_call {thread : Nat} {callback : ChannelCallback} {batch : List ChannelCallback}
    (hget : ch.threads.batches[thread]? = some (callback :: batch))
    (h : ch.step (.threads (.call thread)) = some ch') :
    ch'.threads.called = ch.threads.called ++ [callback] := by
  obtain ⟨_, _, threads, hthread, rfl⟩ := step_threads h
  obtain ⟨callback', batch', hget', rfl⟩ := ChannelThreads.call_cases hthread
  obtain ⟨rfl, rfl⟩ := List.cons.inj (Option.some.inj (hget.symm.trans hget'))
  rfl

/-- Any other step calls nothing. -/
theorem called_step {e : Event} (h : ch.step e = some ch') (hcall : ∀ thread, e ≠ .threads (.call thread)) :
    ch'.threads.called = ch.threads.called := by
  cases e with
  | threads e =>
    obtain ⟨_, _, threads, hthread, rfl⟩ := step_threads h
    exact (ChannelThreads.step_progress hthread fun thread he => hcall thread (congrArg _ he)).called
  | fetch thread parseNumOnce =>
    simp only [step, fetch] at h
    split at h
    · obtain rfl := Option.some.inj h
      rfl
    · cases h
  | parse thread =>
    simp only [step, parse] at h
    split at h
    · obtain ⟨threads, hpacket, rfl⟩ := Option.map_eq_some_iff.mp h
      unfold Pipeline.parsePacket at hpacket
      split at hpacket
      · split at hpacket
        · exact (ChannelThreads.step_progress hpacket nofun).called
        · exact (ChannelThreads.step_progress hpacket nofun).called
      · rw [Option.some.inj hpacket]
    · cases h
  | registerService serviceName serviceAddr =>
    obtain rfl := Option.some.inj h
    rfl
  | heart =>
    obtain rfl := Option.some.inj h
    rfl

/-- Callbacks that were called stay so. -/
theorem called_grows {e : Event} (h : ch.step e = some ch') : ch.threads.called <+: ch'.threads.called := by
  by_cases hcall : ∃ thread, e = .threads (.call thread)
  · obtain ⟨thread, rfl⟩ := hcall
    obtain ⟨_, _, threads, hthread, rfl⟩ := step_threads h
    obtain ⟨callback, batch, _, rfl⟩ := ChannelThreads.call_cases hthread
    exact List.prefix_append _ _
  · have hsame := called_step h fun thread he => hcall ⟨thread, he⟩
    exact hsame ▸ List.prefix_rfl

omit [FrNet] in
/-- **What is seen of a channel's step has its cause**, as long as every call that has completed has had its
    callback called. -/
theorem lawful_seen {p : Past} {addr : Addr} (hok : ChannelOk p addr ch)
    (hlawful : Lawful Channel.requestKey p.trace)
    (hcompleted : ∀ ticket, Completed p.trace addr ticket →
      ticket ∈ ch.threads.called.map ChannelCallback.ptr) (e : Event) :
    Lawful Channel.requestKey (p.trace ++ ch.seen addr e) := by
  rcases ch.seen_cases addr e with hseen | ⟨id, request, hseen⟩ |
    ⟨thread, callback, batch, _, hget, hid, herror, hseen⟩
  · rw [hseen, List.append_nil]
    exact hlawful
  · rw [hseen]
    exact atEach_snoc hlawful trivial
  · rw [hseen]
    have hmem := List.mem_of_getElem? hget
    refine atEach_snoc hlawful
      ⟨hok.threads.taken _ hmem callback List.mem_cons_self hid herror, fun hbefore => ?_⟩
    -- a callback in a batch has not been called, as it is at one place only
    have hnodup := (List.nodup_append.mp hok.threads.owned.nodup).2.1
    rw [List.map_append] at hnodup
    have hbatch : callback.ptr ∈ ch.threads.batches.flatten.map ChannelCallback.ptr :=
      List.mem_map_of_mem (List.mem_flatten.mpr ⟨_, hmem, List.mem_cons_self⟩)
    exact (List.nodup_append.mp hnodup).2.2 _ hbatch _ (hcompleted _ hbefore) rfl

/-- A completion that is seen is that of a callback called now. -/
theorem completed_seen {addr client : Addr} {ticket : Nat} {e : Event} (h : ch.step e = some ch')
    (hseen : Completed (ch.seen addr e) client ticket) :
    client = addr ∧ ticket ∈ ch'.threads.called.map ChannelCallback.ptr := by
  obtain ⟨id, reply, hmem⟩ := hseen
  rcases ch.seen_cases addr e with hnone | ⟨id', request, hcall⟩ |
    ⟨thread, callback, batch, rfl, hget, _, _, hcomplete⟩
  · rw [hnone] at hmem
    cases hmem
  · rw [hcall] at hmem
    cases List.mem_singleton.mp hmem
  · rw [hcomplete] at hmem
    cases List.mem_singleton.mp hmem
    refine ⟨rfl, ?_⟩
    rw [called_call hget h]
    exact List.mem_map_of_mem (List.mem_append_right _ (List.mem_singleton_self callback))

end ChannelProcess

end Frrpc
