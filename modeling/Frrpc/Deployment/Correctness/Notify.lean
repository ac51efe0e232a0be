import Frrpc.Deployment.Correctness.Exchange

/-!
# `Deployment.Correctness.Notify` — pushes that arrive

On a calm line a message that the server sends to the channel's link id calls the callback that the channel has
registered for its method, and nothing else happens to the channel (`leads_notify`, `push_arrives`).
-/

namespace Frrpc

open Lib Std

namespace Line

variable {site : Site} {l : Line site} [FrNet] [Serializer] {x : View}

/-- **A push goes out.** -/
theorem leads_push {descriptor : ServiceDescriptor} {service : Service} {methodName : String} {methodIndex : Int32}
    {body : Bytes} {client : RpcServerRouteClient}
    (hservice : x.server.server.name2Service[descriptor.name]? = some service)
    (hmethod : descriptor.methodIndex methodName = some methodIndex)
    (hlength : x.server.server.rpcNet.routeLength = getNumberLength (site.gateList l.index).length)
    (hclient : x.server.server.rpcNet.routeClientList[l.route]? = some client)
    (hroute : client.routeId = UInt32.ofNat l.route) (hshort : Short descriptor.name "" body)
    (hserializes : ∀ n netInfo, Serializer.serializes n netInfo (pushMeta descriptor.name methodIndex) body = true) :
    ∃ client', client'.routeId = client.routeId ∧
      client'.sent = client.sent ++
        [(replyParts [l.channel.socket] (pushMeta descriptor.name methodIndex) body).bytes] ∧
      l.Leads x [.server l.index (.sendRpcMessage descriptor l.linkId methodName body)]
        { x with
          server := x.server.setRpcNet { x.server.server.rpcNet with
            routeClientList := x.server.server.rpcNet.routeClientList.set l.route client' } } := by
  obtain ⟨client', ret, hsend, hrouteId, hsent⟩ :=
    exists_send hlength hclient hroute (hserializes client.routeId.toNat)
  refine ⟨client', hrouteId, hsent, leads_server_quiet ?_ ?_ (ServerProcess.seen_same rfl)⟩
  · rw [ServerProcess.step, Server.sendRpcMessage, Server.sendPush, getServiceFromName, hservice]
    simp only [hmethod, hsend, Option.bind_eq_bind, Option.bind_some, Option.pure_def, Option.map_some]
    rfl
  · intro index hindex sockets hsockets
    obtain rfl := Option.some.inj (hmethod.symm.trans hindex)
    have hshort' : Short (pushMeta descriptor.name methodIndex).serviceName
        (pushMeta descriptor.name methodIndex).rpcResponseMeta.error body := hshort
    exact representable_of_short hshort' hsockets

/-- **A push that has come in is handled.** -/
theorem leads_notified {channel : ChannelProcess} (h : channel.Idle) {package : RpcPacket} {info : CallbackInfo}
    {binary : Bytes} (hpeer : x.channelEnd.peer = some .channel)
    (hchannel : x.channel = channel.setRpcNet (channel.rpcNet.pushMessageToQueue package))
    (hmethod : package.netEvent = .method) (hid : package.rpcMeta.rpcRequestMeta.requestId = rpcRequestIdNull)
    (hentry : channel.threads.channel.registerCallback[convertMethodKey package.rpcMeta.serviceName
      package.rpcMeta.methodIndex]? = some info) (hbinary : package.binary = some binary) :
    ∃ es, l.Leads x es { x with channel := channel.notified info package.rpcMeta binary } := by
  obtain ⟨p₁, p₂, p₃, hfetch, hparse, hpop, hcall, hseen⟩ :=
    h.exists_notify l.channel hmethod hid hentry hbinary
  rw [← hchannel] at hfetch
  have hfirst : l.Leads x _ { x with channel := p₁ } := leads_channel_quiet hpeer hfetch trivial rfl
  have hsecond : l.Leads { x with channel := p₁ } _ { x with channel := p₂ } :=
    leads_channel_quiet hpeer hparse trivial rfl
  have hthird : l.Leads { x with channel := p₂ } _ { x with channel := p₃ } :=
    leads_channel_quiet hpeer hpop trivial rfl
  have hfourth : l.Leads { x with channel := p₃ } _ _ := leads_channel_quiet hpeer hcall trivial hseen
  exact ⟨_, ((hfirst.trans hsecond).trans hthird).trans hfourth⟩

/-- **A push on a calm line arrives.** -/
theorem leads_notify (h : l.Calm x) {descriptor : ServiceDescriptor} {service : Service} {methodName : String}
    {methodIndex : Int32} {body : Bytes} {info : CallbackInfo}
    (hservice : x.server.server.name2Service[descriptor.name]? = some service)
    (hmethod : descriptor.methodIndex methodName = some methodIndex)
    (hregistered : x.channel.threads.channel.registerCallback[convertMethodKey descriptor.name methodIndex]?
      = some info)
    (hbody : body ≠ []) (hshort : Short descriptor.name "" body)
    (hserializes : ∀ n netInfo, Serializer.serializes n netInfo (pushMeta descriptor.name methodIndex) body = true) :
    ∃ es y, l.Leads x (.server l.index (.sendRpcMessage descriptor l.linkId methodName body) :: es) y ∧
      l.Calm y ∧ (∀ call, l.Serves x call → l.Serves y call) ∧ y.trace = x.trace ∧
      y.channel = x.channel.notified info (pushMeta descriptor.name methodIndex) body := by
  obtain ⟨client, hclient, hroute, hserverEnd⟩ := h.serverEnd
  obtain ⟨client', hrouteId, hsent, hpush⟩ :=
    leads_push (l := l) (x := x) hservice hmethod h.routeLength hclient hroute hshort hserializes
  -- up to the gateway and down to the channel it goes the way of a reply
  let x₁ : View := { x with
    server := x.server.setRpcNet { x.server.server.rpcNet with
      routeClientList := x.server.server.rpcNet.routeClientList.set l.route client' } }
  have hclient₁ : x₁.server.server.rpcNet.routeClientList[l.route]? = some client' :=
    getElem?_set_of_getElem? hclient client'
  have hpacket : client'.sent[client.sent.length]?
      = some (replyParts [l.channel.socket] (pushMeta descriptor.name methodIndex) body).bytes := by
    rw [hsent]
    exact List.getElem?_concat_length
  obtain ⟨es₁, gateway, hlength, hkept, hreply⟩ := leads_reply (l := l) (x := x₁) h.channelEnd hserverEnd h.carried
    hclient₁ hpacket rfl hshort
  rw [if_neg hbody] at hreply
  let x₂ : View := { x₁ with
    gateway
    carried := x.carried + 1
    serverEnd := .calm (.server l.index l.route) (client.sent.length + 1)
    channel := x.channel.setRpcNet (x.channel.rpcNet.pushMessageToQueue
      ⟨0, .method, pushMeta descriptor.name methodIndex, some body⟩) }
  have hreply : l.Leads x₁ es₁ x₂ := hreply
  obtain ⟨es₂, hnotified⟩ := leads_notified (l := l) (x := x₂) h.channel (congrArg Connection.peer h.channelEnd) rfl
    rfl rfl hregistered rfl
  refine ⟨es₁ ++ es₂, _, hpush.trans (hreply.trans hnotified), ⟨h.channelEnd,
    ⟨client', hclient₁, hrouteId.trans hroute, ?_⟩, ?_, h.channel.notified info _ body,
    ⟨h.server.queue, h.server.thread⟩, h.routeLength⟩, fun call hcall => ?_, rfl, rfl⟩
  · rw [hsent, List.length_append]
    rfl
  · show x.carried + 1 = gateway.netCalls.length
    rw [hlength]
    exact congrArg (· + 1) h.carried
  · exact { hcall with gateway := hkept _ hcall.gateway }

end Line

namespace Deployment

section

variable [FrNet] [Serializer] {site : Site} {s : Deployment}

/-- **A push arrives.** From a state in which the line of a channel and a server is calm, a message that the
    server sends to the channel's link id can be carried through: the callback that the channel has registered
    for the method is called with the message, nothing is seen of it among the calls, and what the server could
    serve before it can serve behind it. -/
theorem push_arrives (l : Line site) (hcalm : l.Calm (l.view s)) {descriptor : ServiceDescriptor} {service : Service}
    {methodName callbackKey : String} {methodIndex : Int32} {body : Bytes} {info : CallbackInfo}
    (hservice : (s.servers l.index).server.name2Service[descriptor.name]? = some service)
    (hmethod : descriptor.methodIndex methodName = some methodIndex)
    (hkey : registerKey descriptor methodName = some callbackKey)
    (hregistered : (s.channels l.channel).threads.channel.registerCallback[callbackKey]? = some info)
    (hbody : body ≠ []) (hshort : Short descriptor.name "" body)
    (hserializes : ∀ n netInfo, Serializer.serializes n netInfo (pushMeta descriptor.name methodIndex) body = true) :
    ∃ es s', exec (step site) s
        (.server l.index (.sendRpcMessage descriptor l.linkId methodName body) :: es) = some s' ∧
      Reaches (step site) (Sized site) s s' ∧ l.Calm (l.view s') ∧
      (∀ call, l.Serves (l.view s) call → l.Serves (l.view s') call) ∧ s'.trace = s.trace ∧
      s'.channels l.channel
        = (s.channels l.channel).notified info (pushMeta descriptor.name methodIndex) body := by
  obtain rfl : convertMethodKey descriptor.name methodIndex = callbackKey := by
    rw [registerKey, hmethod] at hkey
    exact Option.some.inj hkey
  obtain ⟨es, y, hleads, hcalm', hserves, htrace, hchannel⟩ :=
    Line.leads_notify hcalm hservice hmethod hregistered hbody hshort hserializes
  obtain ⟨s', hexec, hreaches, rfl⟩ := hleads s rfl
  exact ⟨es, s', hexec, hreaches, hcalm', hserves, htrace, hchannel⟩

end

section

attribute [local instance] networkUp serializesAll

/-- The service of `oneLine`, with a name for its method. -/
def oneService : ServiceDescriptor := ⟨"S", ["m"]⟩

/-- The server of `oneLine` pushes. -/
theorem push_arrives_oneLine : ∃ s, Reaches (step oneGateway) (Sized oneGateway) (started oneGateway) s ∧
    (s.channels ⟨0, 5⟩).threads.called = [⟨0, ⟨false, rpcRequestIdNull, ""⟩, some [8], some 4⟩] := by
  have hservice : ∃ service, (oneLineState.servers 0).server.name2Service[oneService.name]? = some service :=
    Option.isSome_iff_exists.mp (by decide)
  have hmethod : oneService.methodIndex "m" = some 0 := by
    decide
  have hkey : registerKey oneService "m" = some "S.0" := by
    decide
  have hregistered : (oneLineState.channels ⟨0, 5⟩).threads.channel.registerCallback["S.0"]? = some ⟨4⟩ := by
    decide
  have hbody : ([8] : Bytes) ≠ [] := List.cons_ne_nil _ _
  obtain ⟨service, hservice⟩ := hservice
  obtain ⟨_, s, _, hreaches, _, _, _, hchannel⟩ :=
    push_arrives oneLine calm_oneLineState hservice hmethod hkey hregistered hbody (by decide) fun _ _ => rfl
  have hnotified : s.channels ⟨0, 5⟩
      = (oneLineState.channels ⟨0, 5⟩).notified ⟨4⟩ (pushMeta "S" 0) [8] := hchannel
  refine ⟨s, reaches_oneLineState.trans hreaches, ?_⟩
  rw [hnotified]
  decide

end

end Deployment

end Frrpc
