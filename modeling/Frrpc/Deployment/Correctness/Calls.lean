import Frrpc.Deployment.Correctness.Causal

/-!
# `Deployment.Correctness.Calls` — what a deployment promises about calls

The results are read off `Causal`, in every state that a run reaches: which call an execution and a
completion belong to, what the wires carry, whom a gateway sends to, and what waits in the queues of a channel
and of a server. The run is any run whose steps are `Sized`.

`Checked` is a part of `Sized` that can be evaluated; a concrete run goes with the results it is a case of.
-/

namespace Frrpc

open Lib

/-! ## Checking a run -/

/-- A message for some thousand sockets can be framed. -/
def MessageShort (rpcMeta : RpcMeta) (body : Bytes) : Prop := byteSize rpcMeta < 2 ^ 16 ∧ body.length < 2 ^ 31

instance (parts : FrameParts) : Decidable parts.Representable := inferInstanceAs (Decidable (_ ∧ _ ∧ _))

instance (rpcMeta : RpcMeta) (body : Bytes) : Decidable (MessageShort rpcMeta body) :=
  inferInstanceAs (Decidable (_ ∧ _))

theorem MessageShort.representable {rpcMeta : RpcMeta} {body : Bytes} (h : MessageShort rpcMeta body)
    {sockets : List Socket} (hsockets : sockets.length ≤ 6000) :
    (replyParts sockets rpcMeta body).Representable := replyParts_representable hsockets h.1 h.2

namespace ServerProcess

/-- What can be evaluated of `Sized`. -/
def Checked (sp : ServerProcess) : Event → Prop
  | .addService serviceName _ =>
    (commandParts eRouteCmdServerServiceRegister
      (serialize (⟨serviceName, sp.server.serviceAddr⟩ : RouteServiceInfo))).Representable
  | .handler thread e => ∀ t ∈ sp.threads[thread]?, ∀ w' ∈ t.worker.step e,
    ∀ response ∈ w'.sent, MessageShort response.rpcMeta response.body
  | .sendRpcMessage descriptor _ methodName response => ∀ methodIndex ∈ descriptor.methodIndex methodName,
    MessageShort (pushMeta descriptor.name methodIndex) response
  | .sendRpcMessages descriptor linkIds methodName response => linkIds.length ≤ 6000 ∧
    ∀ methodIndex ∈ descriptor.methodIndex methodName,
      MessageShort (pushMeta descriptor.name methodIndex) response
  | _ => True

theorem Checked.sized {sp : ServerProcess} {e : Event} (h : sp.Checked e) : sp.Sized e := by
  have hone : 1 ≤ 6000 := by decide
  cases e with
  | addService serviceName service => exact h
  | handler thread e =>
    exact fun t ht w' hw' response hmem sockets hsockets =>
      (h t ht w' hw' response hmem).representable (hsockets.trans hone)
  | sendRpcMessage descriptor linkId methodName response =>
    exact fun methodIndex hmethod sockets hsockets => (h methodIndex hmethod).representable (hsockets.trans hone)
  | sendRpcMessages descriptor linkIds methodName response =>
    exact fun methodIndex hmethod sockets hsockets =>
      (h.2 methodIndex hmethod).representable (hsockets.trans h.1)
  | _ => trivial

instance (sp : ServerProcess) : ∀ e, Decidable (sp.Checked e)
  | .addService _ _ => inferInstanceAs (Decidable (FrameParts.Representable _))
  | .handler _ _ => inferInstanceAs (Decidable (∀ t ∈ _, ∀ w' ∈ _, ∀ response ∈ _, _))
  | .sendRpcMessage _ _ _ _ => inferInstanceAs (Decidable (∀ methodIndex ∈ _, _))
  | .sendRpcMessages _ _ _ _ => inferInstanceAs (Decidable (_ ∧ ∀ methodIndex ∈ _, _))
  | .fetch _ | .work _ | .disconnect _ | .heart _ => inferInstanceAs (Decidable True)

end ServerProcess

instance (ch : ChannelProcess) : ∀ e, Decidable (ch.Sized e)
  | .threads (.send _) => inferInstanceAs (Decidable (∀ invocation ∈ _, _))
  | .registerService _ _ => inferInstanceAs (Decidable (FrameParts.Representable _))
  | .threads (.allocate _) | .threads (.insert _) | .threads (.schedule _ _) | .threads (.requestPacket _)
  | .threads (.registerPacket _) | .threads (.clearTimeout _) | .threads (.cancel _)
  | .threads (.registerCallback _ _) | .threads (.pop _ _) | .threads (.call _)
  | .fetch _ _ | .parse _ | .heart => inferInstanceAs (Decidable True)

namespace Deployment

/-- What can be evaluated of `Sized`, with the connections that are known to fit. -/
def Checked (fits : List Addr) (s : Deployment) : Event → Prop
  | .connectChannel addr => addr ∈ fits ∧ (s.connections addr).peer = none
  | .connectServer addr _ _ => (s.connections addr).peer = none
  | .receiveUp addr n => ((s.connections addr).up.arrive n).unread.length < 2 ^ 31
  | .receiveDown addr n => ((s.connections addr).down.arrive n).unread.length < 2 ^ 31
  | .channel addr e => (s.channels addr).Sized e
  | .server index e => (s.servers index).Checked e
  | _ => True

instance (fits : List Addr) (s : Deployment) : ∀ e, Decidable (s.Checked fits e)
  | .connectChannel _ => inferInstanceAs (Decidable (_ ∈ _ ∧ _ = none))
  | .connectServer _ _ _ => inferInstanceAs (Decidable (_ = none))
  | .receiveUp _ _ | .receiveDown _ _ => inferInstanceAs (Decidable (_ < _))
  | .channel _ _ => inferInstanceAs (Decidable (ChannelProcess.Sized _ _))
  | .server _ _ => inferInstanceAs (Decidable (ServerProcess.Checked _ _))
  | .accept _ | .takeUp _ _ | .carry _ _ | .endUp _ | .endDown _ | .checkHeart _ =>
    inferInstanceAs (Decidable True)

theorem Checked.sized {site : Site} {fits : List Addr} (hfits : ∀ addr ∈ fits, site.Fits addr) {s : Deployment}
    {e : Event} (h : s.Checked fits e) : s.Sized site e := by
  cases e with
  | connectChannel addr => exact ⟨hfits addr h.1, h.2⟩
  | connectServer addr index route => exact h
  | receiveUp addr n => exact h
  | receiveDown addr n => exact h
  | channel addr e => exact h
  | server index e => exact ServerProcess.Checked.sized h
  | _ => trivial

end Deployment

/-! ## A run -/

section

open Deployment

attribute [local instance] networkUp serializesAll

/-- One gateway, and one thread of each kind. -/
def oneGateway : Site where
  channelOption _ := ⟨0, 1000⟩
  parseThreadNum _ := 1
  channelWorkThreadNum _ := 1
  gateList _ := [0]
  serviceAddr _ := "addr"
  serverWorkThreadNum _ := 1

/-- A server at socket 3 adds a service, a channel at socket 5 calls it, and the call completes. The channel's
    request reaches the gateway in two pieces. -/
def oneCall : List Deployment.Event :=
  let server : Addr := ⟨0, 3⟩
  let channel : Addr := ⟨0, 5⟩
  [.connectServer server 0 0, .accept server, .server 0 (.addService "S" ⟨[⟨fun _ => true⟩]⟩),
    .takeUp server true, .receiveUp server 100,
    .connectChannel channel, .accept channel,
    .channel channel (.threads (.allocate ⟨"S", 0, some false, [1, 2], true, some 9⟩)),
    .channel channel (.threads (.insert 0)), .channel channel (.threads (.send 0)),
    .takeUp channel true, .receiveUp channel 10, .receiveUp channel 100, .carry 0 true,
    .receiveDown server 100, .server 0 (.fetch 0), .server 0 (.work 0),
    .server 0 (.handler 0 (.respond [7])), .server 0 (.handler 0 (.run 0)), .server 0 (.handler 0 .finish),
    .takeUp server true, .receiveUp server 100, .carry 0 true, .receiveDown channel 100,
    .channel channel (.fetch 0 20), .channel channel (.parse 0), .channel channel (.parse 0),
    .channel channel (.threads (.pop 0 20)), .channel channel (.threads (.call 0))]

-- the socket can be given again behind the disconnect, in a run that is not `Sized` any more
example : let channel : Addr := ⟨0, 5⟩
    (exec (step oneGateway) (started oneGateway) [.connectChannel channel, .accept channel, .endUp channel,
      .endDown channel, .connectChannel channel, .accept channel]).isSome = true := by
  decide

theorem oneGateway_fits : oneGateway.Fits ⟨0, 5⟩ where
  pos := by decide
  linkId index route hroute := by
    have hzero : route = 0 := by
      have hlt := (List.getElem?_eq_some_iff.mp hroute).1
      exact Nat.lt_one_iff.mp hlt
    subst hzero
    show LinkIdFits 1 0 5
    decide

/-- Steps that are checked are `Sized`. -/
theorem reaches_checked (es : List Deployment.Event)
    (h : (exec (guarded (step oneGateway) (Checked [⟨0, 5⟩])) (started oneGateway) es).isSome = true) :
    ∃ s, exec (step oneGateway) (started oneGateway) es = some s ∧
      Reaches (step oneGateway) (Sized oneGateway) (started oneGateway) s := by
  obtain ⟨s, hs⟩ := Option.isSome_iff_exists.mp h
  obtain ⟨hexec, hreaches⟩ := reaches_guarded hs
  refine ⟨s, hexec, hreaches.mono fun s e hchecked => hchecked.sized fun addr hmem => ?_⟩
  rw [List.mem_singleton.mp hmem]
  exact oneGateway_fits

/-- It is a run, as far as one looks. -/
theorem reaches_oneCall (n : Nat) : ∃ s, exec (step oneGateway) (started oneGateway) (oneCall.take n) = some s ∧
    Reaches (step oneGateway) (Sized oneGateway) (started oneGateway) s := by
  have hwhole :
      (exec (guarded (step oneGateway) (Checked [⟨0, 5⟩])) (started oneGateway) oneCall).isSome = true := by
    decide
  rw [← List.take_append_drop n oneCall, exec_append] at hwhole
  obtain ⟨s', hs'⟩ := Option.isSome_iff_exists.mp hwhole
  obtain ⟨s, hs, _⟩ := Option.bind_eq_some_iff.mp hs'
  exact reaches_checked _ (Option.isSome_iff_exists.mpr ⟨s, hs⟩)

/-- What is observed after its first steps. -/
theorem reaches_observed {α : Type} {n : Nat} {f : Deployment → α} {a : α}
    (h : (exec (step oneGateway) (started oneGateway) (oneCall.take n)).map f = some a) :
    ∃ s, Reaches (step oneGateway) (Sized oneGateway) (started oneGateway) s ∧ f s = a := by
  obtain ⟨s, hexec, hreaches⟩ := reaches_oneCall n
  rw [hexec] at h
  exact ⟨s, hreaches, Option.some.inj h⟩

def oneRequest : RpcMeta × Bytes := (⟨"S", 0, some ⟨1⟩, none, 0⟩, [1, 2])

end

/-- What a server has received and not yet handled, and what it has handed to its services. -/
def ServerProcess.requests (sp : ServerProcess) : List RpcPacket :=
  sp.server.rpcNet.packetQueue ++ sp.threads.flatMap fun t => t.worker.invocations ++ t.packetQueue

/-- What a channel has received and not yet handled. -/
def ChannelProcess.replies (ch : ChannelProcess) : List RpcPacket :=
  ch.rpcNet.packetQueue ++ ch.parseQueues.flatten

namespace Deployment

open RemoteCall

/-! ## Calls -/

section

variable [FrNet] [Serializer] {site : Site} {s : Deployment}
  (hrun : Reaches (step site) (Sized site) (.started site) s)

include hrun

/-- **A completion ends a chain, and is the only one.** Before a callback is called with a reply, the channel has
    sent a request with an id of the callback's key, a server has executed that very request, and it has sent
    this reply; and no other completion is one of the same callback. -/
theorem complete_chain {before after : List CallEvent} {addr : Addr} {id : RpcRequestId}
    {answer : String × Option Bytes} {ptr : Nat}
    (htrace : s.trace = before ++ .complete addr id answer ptr :: after) :
    (∃ id' request, Channel.requestKey id' = id ∧
      List.Sublist [.call addr id' request, .execute addr id' request, .reply addr id' answer] before) ∧
    ¬ Completed before addr ptr ∧ ¬ Completed after addr ptr := by
  have hlawful := (Causal.of_reaches hrun).lawful
  exact ⟨completion_chain hlawful htrace, completion_unique hlawful htrace⟩

end

section

attribute [local instance] networkUp serializesAll

/-- At the end of the run. -/
theorem complete_chain_oneCall : ∃ s id' request,
    Reaches (step oneGateway) (Sized oneGateway) (.started oneGateway) s ∧
    Channel.requestKey id' = 1 ∧
    List.Sublist [.call ⟨0, 5⟩ id' request, .execute ⟨0, 5⟩ id' request, .reply ⟨0, 5⟩ id' ("", some [7])]
      (s.trace.take 3) := by
  obtain ⟨s, hrun, htrace⟩ := reaches_observed (n := 29) (f := Deployment.trace)
    (a := [.call ⟨0, 5⟩ 1 oneRequest, .execute ⟨0, 5⟩ 1 oneRequest, .reply ⟨0, 5⟩ 1 ("", some [7]),
      .complete ⟨0, 5⟩ 1 ("", some [7]) 0]) (by decide)
  have hsplit : s.trace = s.trace.take 3 ++ .complete ⟨0, 5⟩ 1 ("", some [7]) 0 :: [] := by
    rw [htrace]
    rfl
  obtain ⟨⟨id', request, hkey, hchain⟩, _⟩ := complete_chain hrun hsplit
  exact ⟨s, id', request, hrun, hkey, hchain⟩

end

/-! ## What waits in the queues -/

section

variable [FrNet] [Serializer] {site : Site} {s : Deployment}
  (hrun : Reaches (step site) (Sized site) (.started site) s)

include hrun

/-- **A server gets and executes only what was called.** The link id of every request in a server's queue, in the
    batch of a work thread, or handed to a service leads back to a connected channel that has sent this very
    request, with the same id, meta and body. -/
theorem request_called {index : Nat} {package : RpcPacket} (hmem : package ∈ (s.servers index).requests)
    (hid : package.rpcMeta.rpcRequestMeta.requestId ≠ rpcRequestIdNull) :
    ∃ addr, site.linkAddr index package.linkId = some addr ∧ (s.connections addr).peer = some .channel ∧
      .call addr package.rpcMeta.rpcRequestMeta.requestId (package.rpcMeta, package.binary.getD []) ∈ s.trace := by
  have hok := (Causal.of_reaches hrun).servers index
  have hrequested : Requested site s.past index package := by
    rcases List.mem_append.mp hmem with hqueue | hthread
    · exact hok.net.received package hqueue
    · obtain ⟨t, ht, htaken⟩ := List.mem_flatMap.mp hthread
      exact hok.taken t ht package htaken
  obtain ⟨addr, haddr, hcalled⟩ := hrequested hid
  exact ⟨addr, haddr, hcalled.channel, hcalled.seen⟩

/-- **A channel gets only replies to its own calls.** To every packet with a request id in its queue or in the
    batch of a parse thread there is a request with this id that the channel has sent, that a server has
    executed, and that has been answered with what the packet says. -/
theorem reply_executed {addr : Addr} {package : RpcPacket} (hmem : package ∈ (s.channels addr).replies)
    (hid : package.rpcMeta.rpcRequestMeta.requestId ≠ rpcRequestIdNull) :
    ∃ request, List.Sublist
      [.call addr package.rpcMeta.rpcRequestMeta.requestId request,
        .execute addr package.rpcMeta.rpcRequestMeta.requestId request,
        .reply addr package.rpcMeta.rpcRequestMeta.requestId (answerOf package.rpcMeta (package.binary.getD []))]
      s.trace := by
  have hcausal := Causal.of_reaches hrun
  have hok := hcausal.channels addr
  have harrived : Arrived s.past addr package := by
    rcases List.mem_append.mp hmem with hqueue | hbatch
    · exact hok.net.received package hqueue
    · obtain ⟨batch, hbatch, hpackage⟩ := List.mem_flatten.mp hbatch
      exact hok.fetched batch hbatch package hpackage
  exact reply_chain hcausal.lawful (harrived hid).seen

end

section

attribute [local instance] networkUp serializesAll

/-- When the request has come in. -/
theorem request_called_oneCall : ∃ (s : Deployment) (addr : Addr), oneGateway.linkAddr 0 5 = some addr ∧
    (s.connections addr).peer = some .channel ∧ .call addr 1 oneRequest ∈ s.trace := by
  obtain ⟨s, hrun, hqueue⟩ := reaches_observed (n := 15) (f := fun s => (s.servers 0).requests)
    (a := [⟨5, .method, oneRequest.1, some [1, 2]⟩]) (by decide)
  have hmem : (⟨5, .method, oneRequest.1, some [1, 2]⟩ : RpcPacket) ∈ (s.servers 0).requests := by
    rw [hqueue]
    exact List.mem_singleton_self _
  exact ⟨s, request_called hrun hmem (by decide)⟩

/-- When the reply has come in. -/
theorem reply_executed_oneCall : ∃ (s : Deployment) (request : RpcMeta × Bytes),
    List.Sublist [.call ⟨0, 5⟩ 1 request, .execute ⟨0, 5⟩ 1 request, .reply ⟨0, 5⟩ 1 ("", some [7])] s.trace := by
  have hqueued : ((exec (step oneGateway) (started oneGateway) (oneCall.take 24)).map fun s =>
      (s.channels ⟨0, 5⟩).replies[1]?) = some (some ⟨0, .method,
        ⟨"S", 0, some ⟨1⟩, some ⟨"", false⟩, 0⟩, some [7]⟩) := by
    decide
  obtain ⟨s, hrun, hqueue⟩ := reaches_observed hqueued
  obtain ⟨request, hchain⟩ := reply_executed hrun (List.mem_of_getElem? hqueue) (by decide)
  exact ⟨s, request, hchain⟩

end

/-! ## What the wires carry, and whom a gateway sends to -/

section

variable [FrNet] [Serializer] {site : Site} {s : Deployment}
  (hrun : Reaches (step site) (Sized site) (.started site) s)

include hrun

/-- **What is on its way is a stream of whole frames.** In both directions of every connection the bytes that
    were sent and that the receiver has not taken are frames that the sender had a reason for, and each is sent
    to where it belongs. -/
theorem wires_carry (addr : Addr) :
    Wire.Carries Frame.bytes (Frame.Says (PeerSends s.past addr)) (s.connections addr).up ∧
    Wire.Carries Frame.bytes (Frame.Says (GatewaySends s.past addr)) (s.connections addr).down := by
  have hok := (Causal.of_reaches hrun).connections addr
  exact ⟨hok.up, hok.down⟩

/-- **A gateway's tables name servers only**: no channel is registered for a service, nor bound to. -/
theorem tables_name_servers {gateway : Nat} {socket : Socket}
    (hnamed : (∃ serviceName, socket ∈ (s.routes gateway).socketsOf serviceName) ∨
      ∃ channelSocket serviceName, (s.routes gateway).binding channelSocket serviceName = some socket) :
    s.past.IsServer ⟨gateway, socket⟩ := by
  have hnames := ((Causal.of_reaches hrun).gateways gateway).names
  rcases hnamed with ⟨serviceName, hmem⟩ | ⟨channelSocket, serviceName, hbinding⟩
  · exact hnames.sockets serviceName socket hmem
  · exact hnames.bindings channelSocket serviceName socket hbinding

/-- **A gateway sends to a socket only what is for it**: a request of one of its channels to a server, stamped
    with the channel's socket, a reply to the channel whose call was executed, a push, or a heart. -/
theorem gateway_sends {gateway : Nat} {socket : Socket} {packet : Bytes}
    (hsent : .send socket (some packet) ∈ (s.routes gateway).netCalls) (hsocket : socket ≠ socketNull) :
    ∃ f : Frame, packet = f.bytes ∧ f.Says (GatewaySends s.past ⟨gateway, socket⟩) := by
  obtain ⟨f, hpacket, hsaid⟩ := ((Causal.of_reaches hrun).gateways gateway).sends socket packet hsent
  exact ⟨f, hpacket, hsaid hsocket⟩

end

section

attribute [local instance] networkUp serializesAll

/-- When a piece of the request has come in. -/
theorem wires_carry_oneCall : ∃ s : Deployment, (s.connections ⟨0, 5⟩).up.unread.length = 10 ∧
    Wire.Carries Frame.bytes (Frame.Says (PeerSends s.past ⟨0, 5⟩)) (s.connections ⟨0, 5⟩).up ∧
    Wire.Carries Frame.bytes (Frame.Says (GatewaySends s.past ⟨0, 5⟩)) (s.connections ⟨0, 5⟩).down := by
  obtain ⟨s, hrun, hlength⟩ := reaches_observed (n := 12)
    (f := fun s => (s.connections ⟨0, 5⟩).up.unread.length) (a := 10) (by decide)
  exact ⟨s, hlength, wires_carry hrun ⟨0, 5⟩⟩

/-- When the server has registered. -/
theorem tables_name_servers_oneCall : ∃ s : Deployment, s.past.IsServer ⟨0, 3⟩ := by
  obtain ⟨s, hrun, hsockets⟩ := reaches_observed (n := 5)
    (f := fun s => (s.routes 0).socketsOf "S") (a := [3]) (by decide)
  exact ⟨s, tables_name_servers hrun (Or.inl ⟨"S", by rw [hsockets]; exact List.mem_singleton_self _⟩)⟩

/-- When the gateway has sent the request on. -/
theorem gateway_sends_oneCall : ∃ (s : Deployment) (f : Frame), f.Says (GatewaySends s.past ⟨0, 3⟩) := by
  have hcalled : ((exec (step oneGateway) (started oneGateway) (oneCall.take 13)).map fun s =>
      (s.routes 0).netCalls) = some [.send 3 (some [24, 0, 0, 0, 11, 0, 8, 1, 18, 7, 8, 1, 18, 1, 83, 32, 5, 7, 0,
        10, 1, 83, 26, 2, 8, 1, 1, 2])] := by
    decide
  obtain ⟨s, hrun, hcalls⟩ := reaches_observed hcalled
  obtain ⟨f, _, hsaid⟩ := gateway_sends hrun (hcalls ▸ List.mem_singleton_self _) (by decide)
  exact ⟨s, f, hsaid⟩

end

end Deployment

end Frrpc
