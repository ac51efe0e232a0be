import Frrpc.Deployment.Correctness.Calls
import Frrpc.Deployment.Correctness.Idle

/-!
# `Deployment.Correctness.Exchange` — calls that complete

On a line whose parties are idle, and with a service of the server's that the gateway knows, every call whose
messages fit into frames is carried through: the handler gets the request, and the callback gets the handler's
response (`leads_exchange`). Afterwards the line is as idle as before, so calls complete one after the other
(`leads_exchanges`): no state of a deployment with such a line keeps them from it (`calls_complete`).
-/

namespace Frrpc

open Lib Std

/-! ## The gateway's share -/

/-- The only server that the gateway can send a channel's request for the service to. -/
structure RpcRoute.Serves (r : RpcRoute) (channelSocket : Socket) (serviceName : ServiceName)
    (target : Socket) : Prop where
  binding : ∀ socket, r.binding channelSocket serviceName = some socket → socket = target
  sockets : r.socketsOf serviceName = [target]

/-- **A lookup gives the only server**, and leaves it the only one. -/
theorem RpcRoute.Serves.getServerSocket {r : RpcRoute} {channelSocket target : Socket}
    {serviceName : ServiceName} (h : r.Serves channelSocket serviceName target) :
    ∃ r', r.getServerSocket channelSocket serviceName = some (target, r') ∧
      ∀ name socket, r.Serves channelSocket name socket → r'.Serves channelSocket name socket := by
  have hlookup : ∃ r', r.getServerSocket channelSocket serviceName = some (target, r') := by
    unfold RpcRoute.getServerSocket
    cases hbinding : r.binding channelSocket serviceName with
    | some socket =>
      obtain rfl := h.binding socket hbinding
      exact ⟨r, rfl⟩
    | none =>
      have hsockets := h.sockets
      cases hinfo : r.service2info[serviceName]? with
      | none =>
        rw [RpcRoute.socketsOf, RpcRoute.infosOf_of_none hinfo] at hsockets
        cases hsockets
      | some infos =>
        rw [RpcRoute.socketsOf, RpcRoute.infosOf_of_some hinfo] at hsockets
        -- round-robin over one server
        have hindex : infos.nextSendIndex = 0 := by
          rw [RouteServiceInfos.nextSendIndex, hsockets]
          simp [int32]
        refine ⟨{ r with service2info := r.service2info.insert serviceName { infos with curSendIndex := 0 } }, ?_⟩
        have hget : infos.getServiceSocket "" = some (target, { infos with curSendIndex := 0 }) := by
          simp [RouteServiceInfos.getServiceSocket, hsockets, hindex]
        simp only [RpcRoute.findServiceSocket, hinfo, hget, Option.bind_eq_bind, Option.bind_some,
          Option.pure_def]
  obtain ⟨r', hserver⟩ := hlookup
  obtain ⟨hkept, hbindings⟩ := RpcRoute.getServerSocket_kept hserver
  refine ⟨r', hserver, fun name socket hserves => ⟨fun bound hbinding => hserves.binding bound ?_,
    (hkept.sockets name).trans hserves.sockets⟩⟩
  rw [RpcRoute.binding, hbindings] at hbinding
  exact hbinding

/-- A packet that comes in does not change whom the gateway can send to. -/
theorem RpcRoute.Serves.updateSocket {r : RpcRoute} {channelSocket target : Socket} {serviceName : ServiceName}
    (h : r.Serves channelSocket serviceName target) (socket : Socket) :
    (r.updateSocket socket).Serves channelSocket serviceName target := ⟨h.binding, h.sockets⟩

/-! ## A call and its handler -/

/-- A call, and what its handler makes of it: an error, or none, and a response. -/
structure Exchange where
  method : MethodCall
  reason : String
  response : Bytes

namespace Exchange

variable (x : Exchange)

/-- What the callback is called with. -/
def answer : String × Option Bytes := (x.reason, if x.reason = "" then some x.response else none)

/-- What is seen of it. -/
def events (addr : Addr) (rpcMeta : RpcMeta) (ptr : Nat) : List CallEvent :=
  let id := rpcMeta.rpcRequestMeta.requestId
  [.call addr id (rpcMeta, x.method.request), .execute addr id (rpcMeta, x.method.request),
    .reply addr id x.answer, .complete addr id x.answer ptr]

/-- Request and answer are not empty, and they go into frames. -/
structure Sound : Prop where
  request : x.method.request ≠ []
  answered : x.reason ≠ "" ∨ x.response ≠ []
  -- the channel says so itself when the time is up
  timely : x.reason ≠ "request timeout"
  requestShort : Short x.method.serviceName "" x.method.request
  replyShort : Short x.method.serviceName x.reason x.response

variable {x}

theorem Sound.short_reply (h : x.Sound) {rpcMeta : RpcMeta} (hname : rpcMeta.serviceName = x.method.serviceName) :
    Short (replyMeta rpcMeta x.reason).serviceName (replyMeta rpcMeta x.reason).rpcResponseMeta.error x.response := by
  show Short rpcMeta.serviceName x.reason x.response
  rw [hname]
  exact h.replyShort

end Exchange

namespace Line

variable {site : Site} (l : Line site)

/-- Nothing is on its way on the line, and nothing is to be done at its ends. -/
structure Calm (x : View) : Prop where
  channelEnd : x.channelEnd = .calm .channel x.channel.rpcNet.sent.length
  serverEnd : ∃ client, x.server.server.rpcNet.routeClientList[l.route]? = some client ∧
    client.routeId = UInt32.ofNat l.route ∧ x.serverEnd = .calm (.server l.index l.route) client.sent.length
  carried : x.carried = x.gateway.netCalls.length
  channel : x.channel.Idle
  server : x.server.Idle
  routeLength : x.server.server.rpcNet.routeLength = getNumberLength (site.gateList l.index).length

/-- The call is admitted, the server has its method and can parse the request, and the gateway knows no other server
    of the service. -/
structure Serves (x : View) (call : Exchange) : Prop extends call.Sound where
  admits : x.channel.threads.channel.admits call.method = true
  gateway : x.gateway.Serves l.channel.socket call.method.serviceName l.server.socket
  service : ∃ service methodDescriptor,
    x.server.server.name2Service[call.method.serviceName]? = some service ∧
    service.method call.method.methodIndex = some methodDescriptor ∧
    methodDescriptor.parses call.method.request = true

variable [FrNet] [Serializer] {l} {x : View}

/-! ## The turns of the parties -/

/-- **A call goes out.** -/
theorem leads_call (hpeer : x.channelEnd.peer = some .channel) (h : x.channel.Idle) {method : MethodCall}
    {rpcMeta : RpcMeta} (hadmits : x.channel.threads.channel.admits method = true)
    (hid : x.channel.threads.channel.requestId.toNat + 1 < 2 ^ 31)
    (hmeta : rpcMeta = x.channel.threads.channel.requestMeta method (x.channel.threads.channel.requestId + 1))
    (hfits : (requestParts rpcMeta method.request).Fits) :
    ∃ es channel, x.channel.Called channel method ∧ l.Leads x es
      { x with
        channel
        trace := x.trace ++
          [.call l.channel rpcMeta.rpcRequestMeta.requestId (rpcMeta, method.request)] } := by
  subst hmeta
  obtain ⟨n, p₁, p₂, p₃, hallocate, hinsert, hsend, hcalled, hoption, hget⟩ := h.exists_call hadmits hid
  have hmeta : ∀ id, p₂.threads.channel.requestMeta method id = x.channel.threads.channel.requestMeta method id := by
    intro id
    rw [Channel.requestMeta, hoption]
    rfl
  have hsized : p₂.Sized (.threads (.send n)) := by
    intro invocation hinvocation
    obtain rfl := Option.some.inj (hget.symm.trans hinvocation)
    rw [hmeta]
    exact hfits.representable
  have hseen : p₂.seen l.channel (.threads (.send n)) = [.call l.channel (x.channel.threads.channel.requestId + 1)
      (x.channel.threads.channel.requestMeta method (x.channel.threads.channel.requestId + 1), method.request)] := by
    simp only [ChannelProcess.seen, hget, hmeta]
  have hfirst : l.Leads x _ { x with channel := p₁ } := leads_channel_quiet hpeer hallocate trivial rfl
  have hsecond : l.Leads { x with channel := p₁ } _ { x with channel := p₂ } :=
    leads_channel_quiet hpeer hinsert trivial rfl
  have hthird : l.Leads { x with channel := p₂ } _ _ := leads_channel hpeer hsend hsized hseen
  exact ⟨_, p₃, hcalled, (hfirst.trans hsecond).trans hthird⟩

/-- **A reply that has come in completes its call.** -/
theorem leads_complete {channel : ChannelProcess} (h : channel.Idle) {package : RpcPacket}
    {callback : ChannelCallback} {id : RpcRequestId} (hpeer : x.channelEnd.peer = some .channel)
    (hchannel : x.channel = channel.setRpcNet (channel.rpcNet.pushMessageToQueue package))
    (hmethod : package.netEvent = .method) (hid : package.rpcMeta.rpcRequestMeta.requestId = id)
    (hnull : id ≠ rpcRequestIdNull) (hkey : Channel.requestKey id = id)
    (hentry : channel.threads.channel.requestCallback[id]? = some callback) (hwaits : callback.Waits id)
    (hanswer : package.rpcMeta.rpcResponseMeta.error ≠ "" ∨ package.binary ≠ none)
    (htimeout : package.rpcMeta.rpcResponseMeta.error ≠ "request timeout") :
    ∃ es channel', channel.Completed channel' ∧ l.Leads x es
      { x with
        channel := channel'
        trace := x.trace ++
          [.complete l.channel id (answerOf package.rpcMeta (package.binary.getD [])) callback.ptr] } := by
  obtain ⟨p₁, p₂, p₃, p₄, hfetch, hparse, hpop, hcall, hcompleted, hseen⟩ :=
    h.exists_complete l.channel hmethod hid hnull hkey hentry hwaits hanswer htimeout
  rw [← hchannel] at hfetch
  have hfirst : l.Leads x _ { x with channel := p₁ } := leads_channel_quiet hpeer hfetch trivial rfl
  have hsecond : l.Leads { x with channel := p₁ } _ { x with channel := p₂ } :=
    leads_channel_quiet hpeer hparse trivial rfl
  have hthird : l.Leads { x with channel := p₂ } _ { x with channel := p₃ } :=
    leads_channel_quiet hpeer hpop trivial rfl
  have hfourth : l.Leads { x with channel := p₃ } _ _ := leads_channel hpeer hcall trivial hseen
  exact ⟨_, p₄, hcompleted, ((hfirst.trans hsecond).trans hthird).trans hfourth⟩

/-- The handler takes a step of which nothing is seen. -/
theorem leads_handler_quiet {server : ServerProcess} {t : WorkThread} {w w' : ServerWorker} {e : ServerWorker.Event}
    (x : View) (hthread : server.threads[0]? = some t) (hstep : w.step e = some w')
    (hown : ∀ sp : ServerProcess, sp.step (.handler 0 e) = sp.handler 0 e) (hframed : w.Framed)
    (hquiet : w.Quiet w') :
    l.Leads { x with server := server.withWorker w } [.server l.index (.handler 0 e)]
      { x with server := server.withWorker w' } := by
  have hsend : ServerProcess.sendResponses server.server.rpcNet (w'.sent.drop w.sent.length)
      = some server.server.rpcNet := by
    rw [hquiet.sent, List.drop_length]
    rfl
  refine leads_server_quiet (ServerProcess.step_withWorker hthread hstep hown hsend)
    (ServerProcess.sized_withWorker hthread hstep (hframed.of_sent hquiet.sent)) ?_
  exact (ServerProcess.seen_withWorker hthread rfl).trans (ServerProcess.seenAt_same hquiet.invocations hquiet.sent)

/-- **The first thread takes a request that has come in**, and is seen to execute it. -/
theorem leads_take {server : ServerProcess} (h : server.Idle) {package : RpcPacket} {w w' : ServerWorker}
    (hserver : x.server = server.setRpcNet (server.server.rpcNet.pushMessageToQueue package))
    (hthread : server.threads[0]? = some ⟨w, []⟩)
    (hstep : ({ w with name2Service := server.server.name2Service } : ServerWorker).step (.receive package) = some w')
    (htaken : w'.invocations = w.invocations ++ [package] ∧ w'.sent = w.sent) (hlink : package.linkId = l.linkId) :
    l.Leads x [.server l.index (.fetch 0), .server l.index (.work 0)]
      { x with
        server := server.withWorker w'
        trace := x.trace ++ [.execute l.channel package.rpcMeta.rpcRequestMeta.requestId
          (package.rpcMeta, package.binary.getD [])] } := by
  obtain ⟨p, hfetch, hwork, hseen⟩ := h.exists_work hthread hstep
  rw [← hserver] at hfetch hseen
  obtain ⟨hquiet, hexecuted⟩ := hseen (site.linkAddr l.index)
  rw [ServerProcess.seenAt_execute htaken.1 htaken.2, hlink, l.linkAddr_linkId] at hexecuted
  have hfetched : l.Leads x _ { x with server := p } := leads_server_quiet hfetch trivial hquiet
  exact hfetched.trans (leads_server hwork trivial hexecuted)

/-- What the server sends to the channel's link id is handed to the client of the gateway. -/
theorem exists_send {rpcNet : RpcServerRoute} {rpcMeta : RpcMeta} {body : Bytes} {client : RpcServerRouteClient}
    (hlength : rpcNet.routeLength = getNumberLength (site.gateList l.index).length)
    (hclient : rpcNet.routeClientList[l.route]? = some client) (hroute : client.routeId = UInt32.ofNat l.route)
    (hserializes : ∀ netInfo, Serializer.serializes client.routeId.toNat netInfo rpcMeta body = true) :
    ∃ client' ret, rpcNet.send l.linkId rpcMeta body
        = some ({ rpcNet with routeClientList := rpcNet.routeClientList.set l.route client' }, ret) ∧
      client'.routeId = client.routeId ∧
      client'.sent = client.sent ++ [(replyParts [l.channel.socket] rpcMeta body).bytes] := by
  obtain ⟨hroutes, hsocket⟩ := l.fits.reads l.listed
  rw [← hlength] at hroutes hsocket
  rw [linkId, ← hlength]
  exact RpcServerRoute.send_one hroutes hsocket hclient hroute hserializes

/-- **The closure is run**: the reply goes to the client of the gateway, and is seen. -/
theorem leads_answer {server : ServerProcess} {t : WorkThread} {w w' : ServerWorker} {k : Nat} {response : Response}
    {client : RpcServerRouteClient} (x : View) (hthread : server.threads[0]? = some t)
    (hstep : w.step (.run k) = some w')
    (hanswered : w'.invocations = w.invocations ∧ w'.sent = w.sent ++ [response]) (hframed : w'.Framed)
    (hlink : response.linkId = l.linkId)
    (hlength : server.server.rpcNet.routeLength = getNumberLength (site.gateList l.index).length)
    (hclient : server.server.rpcNet.routeClientList[l.route]? = some client)
    (hroute : client.routeId = UInt32.ofNat l.route)
    (hserializes : ∀ netInfo,
      Serializer.serializes client.routeId.toNat netInfo response.rpcMeta response.body = true) :
    ∃ client', client'.routeId = client.routeId ∧
      client'.sent = client.sent ++ [(replyParts [l.channel.socket] response.rpcMeta response.body).bytes] ∧
      l.Leads { x with server := server.withWorker w } [.server l.index (.handler 0 (.run k))]
        { x with
          server := (server.setRpcNet { server.server.rpcNet with
            routeClientList := server.server.rpcNet.routeClientList.set l.route client' }).withWorker w'
          trace := x.trace ++ [.reply l.channel response.rpcMeta.rpcRequestMeta.requestId
            (answerOf response.rpcMeta response.body)] } := by
  obtain ⟨client', ret, hsend, hrouteId, hsent⟩ := exists_send hlength hclient hroute hserializes
  rw [← hlink] at hsend
  have hsends : ServerProcess.sendResponses server.server.rpcNet (w'.sent.drop w.sent.length)
      = some { server.server.rpcNet with
          routeClientList := server.server.rpcNet.routeClientList.set l.route client' } := by
    rw [hanswered.2, List.drop_left]
    simp only [ServerProcess.sendResponses, List.foldlM_cons, List.foldlM_nil, hsend, Option.map_some,
      Option.bind_eq_bind, Option.bind_some, Option.pure_def]
  refine ⟨client', hrouteId, hsent, leads_server (ServerProcess.step_withWorker hthread hstep (fun _ => rfl) hsends)
    (ServerProcess.sized_withWorker hthread hstep hframed) ((ServerProcess.seen_withWorker hthread rfl).trans ?_)⟩
  rw [ServerProcess.seenAt_reply hanswered.1 hanswered.2, hlink, l.linkAddr_linkId]
  rfl

/-- **A request that has come in is executed, and its reply goes out.** -/
theorem leads_serve {server : ServerProcess} (h : server.Idle) {package : RpcPacket} {service : Service}
    {methodDescriptor : MethodDescriptor} {request : Bytes} {client : RpcServerRouteClient}
    (hserver : x.server = server.setRpcNet (server.server.rpcNet.pushMessageToQueue package))
    (hlength : server.server.rpcNet.routeLength = getNumberLength (site.gateList l.index).length)
    (hmethod : package.netEvent = .method) (hlink : package.linkId = l.linkId)
    (hid : package.rpcMeta.rpcRequestMeta.requestId ≠ rpcRequestIdNull)
    (hservice : server.server.name2Service[package.rpcMeta.serviceName]? = some service)
    (hdescriptor : service.method package.rpcMeta.methodIndex = some methodDescriptor)
    (hbinary : package.binary = some request) (hparses : methodDescriptor.parses request = true)
    (reason : String) (response : Bytes)
    (hclient : server.server.rpcNet.routeClientList[l.route]? = some client)
    (hroute : client.routeId = UInt32.ofNat l.route)
    (hserializes : ∀ netInfo, Serializer.serializes client.routeId.toNat netInfo
      (replyMeta package.rpcMeta reason) response = true)
    (hfits : ∀ sockets : List Socket, sockets.length ≤ 1 →
      (replyParts sockets (replyMeta package.rpcMeta reason) response).Representable) :
    ∃ es server', server.Answered server' l.route client
        (replyParts [l.channel.socket] (replyMeta package.rpcMeta reason) response).bytes ∧
      l.Leads x es
        { x with
          server := server'
          trace := x.trace ++
            [.execute l.channel package.rpcMeta.rpcRequestMeta.requestId (package.rpcMeta, request),
              .reply l.channel package.rpcMeta.rpcRequestMeta.requestId
                (reason, if reason = "" then some response else none)] } := by
  obtain ⟨w, hthread, hidle, herror, hframed⟩ := h.thread
  have hnull : package.linkId ≠ rpcLinkIdNull := by
    rw [hlink]
    exact linkId_ne_null (l.fits.reads l.listed).2 l.fits.pos
  obtain ⟨w₁, w₂, w₃, w₄, w₅, hreceive, hfail, hrespond, hrun, hfinish, hreceived, hquiet₂, hquiet₃, hanswered,
    hquiet₅, hcurrent, hcleared⟩ :=
    ServerWorker.exists_serve (w := { w with name2Service := server.server.name2Service }) hidle herror hmethod
      hnull hid hservice hdescriptor hbinary hparses reason response
  -- only the run of the closure sends
  have hframed₁ : w₁.Framed := hframed.of_sent hreceived.2
  have hframed₂ : w₂.Framed := hframed₁.of_sent hquiet₂.sent
  have hframed₄ : w₄.Framed := (hframed₂.of_sent hquiet₃.sent).answered hanswered.2 hfits
  let x₁ : View := { x with
    trace := x.trace ++ [.execute l.channel package.rpcMeta.rpcRequestMeta.requestId (package.rpcMeta, request)] }
  have htaken := leads_take h hserver hthread hreceive hreceived hlink
  rw [hbinary] at htaken
  have hfailed : l.Leads { x₁ with server := server.withWorker w₁ } _ { x₁ with server := server.withWorker w₂ } :=
    leads_handler_quiet x₁ hthread hfail (fun _ => rfl) hframed₁ hquiet₂
  have hresponded :
      l.Leads { x₁ with server := server.withWorker w₂ } _ { x₁ with server := server.withWorker w₃ } :=
    leads_handler_quiet x₁ hthread hrespond (fun _ => rfl) hframed₂ hquiet₃
  obtain ⟨client', hrouteId, hsent, hreplied⟩ :=
    leads_answer x₁ hthread hrun hanswered hframed₄ hlink hlength hclient hroute hserializes
  let server₁ := server.setRpcNet { server.server.rpcNet with
    routeClientList := server.server.rpcNet.routeClientList.set l.route client' }
  let x₂ : View := { x with
    trace := x₁.trace ++ [.reply l.channel package.rpcMeta.rpcRequestMeta.requestId
      (reason, if reason = "" then some response else none)] }
  have hfinished :
      l.Leads { x₂ with server := server₁.withWorker w₄ } _ { x₂ with server := server₁.withWorker w₅ } :=
    leads_handler_quiet x₂ hthread hfinish (fun _ => rfl) hframed₄ hquiet₅
  have hget : (server₁.withWorker w₅).threads[0]? = some ⟨w₅, []⟩ := getElem?_set_of_getElem? hthread _
  have hidle' : (server₁.withWorker w₅).Idle :=
    ⟨h.queue, w₅, hget, hcurrent, hcleared, hframed₄.of_sent hquiet₅.sent⟩
  have hclient' : (server.server.rpcNet.routeClientList.set l.route client')[l.route]? = some client' :=
    getElem?_set_of_getElem? hclient _
  have hwhole : l.Leads x _ { x with server := server₁.withWorker w₅, trace := x₂.trace } :=
    (((htaken.trans hfailed).trans hresponded).trans hreplied).trans hfinished
  rw [show x₂.trace = x.trace ++ [_, _] from List.append_assoc _ _ _] at hwhole
  exact ⟨_, server₁.withWorker w₅, ⟨hidle', rfl, rfl, client', hclient', hrouteId, hsent⟩, hwhole⟩

/-! ## The ways through the gateway -/

/-- **A request goes through the gateway** to the server's queue. -/
theorem leads_request {rpcMeta : RpcMeta} {body : Bytes} {requestMeta : RpcRequestMeta} {k k' : Nat}
    (hchannelEnd : x.channelEnd = .calm .channel k)
    (hserverEnd : x.serverEnd = .calm (.server l.index l.route) k')
    (hcarried : x.carried = x.gateway.netCalls.length)
    (hsent : x.channel.rpcNet.sent[k]? = some (requestParts rpcMeta body).bytes)
    (hmeta : rpcMeta.requestMeta = some requestMeta) (hbody : body ≠ [])
    (hshort : Short rpcMeta.serviceName rpcMeta.rpcResponseMeta.error body)
    (hserves : x.gateway.Serves l.channel.socket rpcMeta.serviceName l.server.socket) :
    ∃ es gateway, gateway.netCalls.length = x.gateway.netCalls.length + 1 ∧
      (∀ name, x.gateway.Serves l.channel.socket name l.server.socket →
        gateway.Serves l.channel.socket name l.server.socket) ∧
      l.Leads x es
        { x with
          gateway
          carried := x.carried + 1
          channelEnd := .calm .channel (k + 1)
          server := x.server.setRpcNet (x.server.server.rpcNet.pushMessageToQueue
            ⟨buildLinkID x.server.server.rpcNet.routeLength (UInt32.ofNat l.route) l.channel.socket, .method,
              rpcMeta, some body⟩) } := by
  have hpos := byteSize_pos_of_request hmeta
  obtain ⟨f, hbytes, hbuilt, hmax⟩ :=
    exists_frame_of_fits (requestParts rpcMeta body) (sound_of_route rfl hpos) (requestParts_fits hshort)
  obtain ⟨r, hserver, hkept⟩ := (hserves.updateSocket l.channel.socket).getServerSocket
  obtain ⟨g, hstamped, log, hreceive⟩ := onReceive_request hbuilt hmax hserver
  have hgmax : g.size < netPacketMaxSize := by
    rw [hstamped.size_eq rfl]
    exact stampedParts_fits hshort l.channel.socket
  let gateway : RpcRoute := { r with netCalls := x.gateway.netCalls ++ [.send l.server.socket (some g.bytes)] }
  rw [hbytes] at hsent
  have hup : l.Leads x _ { x with gateway, channelEnd := .calm .channel (k + 1) } :=
    leads_upChannel hchannelEnd hsent (f.complete hmax).2.2.2 hreceive
  have hcall : gateway.netCalls[x.carried]? = some (.send l.server.socket (some g.bytes)) := by
    rw [hcarried]
    exact List.getElem?_concat_length
  have hdown := leads_downServer (x := { x with gateway, channelEnd := .calm .channel (k + 1) }) hserverEnd hcall
    (g.complete hgmax).2.2.2 (RpcServerRoute.onReceive_request hstamped hgmax hbody)
  refine ⟨_, gateway, by simp [gateway], fun name hname => ?_, hup.trans hdown⟩
  obtain ⟨hbinding, hsockets⟩ := hkept name l.server.socket (hname.updateSocket _)
  exact ⟨hbinding, hsockets⟩

/-- **A reply goes through the gateway** to the channel's queue. -/
theorem leads_reply {rpcMeta : RpcMeta} {body : Bytes} {requestMeta : RpcRequestMeta} {k k' : Nat}
    {client : RpcServerRouteClient} (hchannelEnd : x.channelEnd = .calm .channel k)
    (hserverEnd : x.serverEnd = .calm (.server l.index l.route) k')
    (hcarried : x.carried = x.gateway.netCalls.length)
    (hclient : x.server.server.rpcNet.routeClientList[l.route]? = some client)
    (hsent : client.sent[k']? = some (replyParts [l.channel.socket] rpcMeta body).bytes)
    (hmeta : rpcMeta.requestMeta = some requestMeta)
    (hshort : Short rpcMeta.serviceName rpcMeta.rpcResponseMeta.error body) :
    ∃ es gateway, gateway.netCalls.length = x.gateway.netCalls.length + 1 ∧
      (∀ name, x.gateway.Serves l.channel.socket name l.server.socket →
        gateway.Serves l.channel.socket name l.server.socket) ∧
      l.Leads x es
        { x with
          gateway
          carried := x.carried + 1
          serverEnd := .calm (.server l.index l.route) (k' + 1)
          channel := x.channel.setRpcNet (x.channel.rpcNet.pushMessageToQueue
            ⟨0, .method, rpcMeta, if body = [] then none else some body⟩) } := by
  have hpos := byteSize_pos_of_request hmeta
  obtain ⟨f, hbytes, hbuilt, hmax⟩ :=
    exists_frame_of_fits (replyParts [l.channel.socket] rpcMeta body) (sound_of_route rfl hpos)
      (replyParts_fits hshort l.channel.socket)
  obtain ⟨log, hreceive⟩ := onReceive_message x.gateway l.server.socket hbuilt hmax
  let gateway : RpcRoute := { x.gateway.updateSocket l.server.socket with
    netCalls := x.gateway.netCalls ++ [.send l.channel.socket (some f.bytes)] }
  rw [hbytes] at hsent
  have hup : l.Leads x _ { x with gateway, serverEnd := .calm (.server l.index l.route) (k' + 1) } :=
    leads_upServer hserverEnd hclient hsent (f.complete hmax).2.2.2 hreceive
  have hcall : gateway.netCalls[x.carried]? = some (.send l.channel.socket (some f.bytes)) := by
    rw [hcarried]
    exact List.getElem?_concat_length
  have hdown := leads_downChannel
    (x := { x with gateway, serverEnd := .calm (.server l.index l.route) (k' + 1) }) hchannelEnd hcall
    (f.complete hmax).2.2.2 (RpcChannelRoute.onReceive_reply hbuilt hmax)
  exact ⟨_, gateway, by simp [gateway], fun name hname => ⟨hname.binding, hname.sockets⟩, hup.trans hdown⟩

/-! ## A call and its completion -/

/-- The call has been answered: its callback waits, and the line is calm but for the reply that the server has
    handed over. -/
structure Replying (l : Line site) (x y : View) (call : Exchange) (rpcMeta : RpcMeta) : Prop where
  channelEnd : y.channelEnd = .calm .channel y.channel.rpcNet.sent.length
  serverEnd : ∃ client, client.routeId = UInt32.ofNat l.route ∧
    y.serverEnd = .calm (.server l.index l.route) client.sent.length ∧
    x.server.Answered y.server l.route client
      (replyParts [l.channel.socket] (replyMeta rpcMeta call.reason) call.response).bytes
  carried : y.carried = y.gateway.netCalls.length
  called : x.channel.Called y.channel call.method
  gateway : ∀ name, x.gateway.Serves l.channel.socket name l.server.socket →
    y.gateway.Serves l.channel.socket name l.server.socket

section

variable (h : l.Calm x) {call : Exchange} (hserves : l.Serves x call) {rpcMeta : RpcMeta}
  (hmeta : rpcMeta = x.channel.threads.channel.requestMeta call.method
    (x.channel.threads.channel.requestId + 1))
  (hid : x.channel.threads.channel.requestId.toNat + 1 < 2 ^ 31)
  (hserializes : ∀ n netInfo,
    Serializer.serializes n netInfo (replyMeta rpcMeta call.reason) call.response = true)

include h hserves hmeta hid hserializes

/-- **A call on a calm line is executed and answered.** -/
theorem leads_replying : ∃ es y, l.Leads x es y ∧ l.Replying x y call rpcMeta ∧
    y.trace = x.trace ++ [.call l.channel rpcMeta.rpcRequestMeta.requestId (rpcMeta, call.method.request),
      .execute l.channel rpcMeta.rpcRequestMeta.requestId (rpcMeta, call.method.request),
      .reply l.channel rpcMeta.rpcRequestMeta.requestId call.answer] := by
  obtain ⟨client, hclient, hroute, hserverEnd⟩ := h.serverEnd
  obtain ⟨service, methodDescriptor, hservice, hdescriptor, hparses⟩ := hserves.service
  have hrequest : rpcMeta.requestMeta = some ⟨x.channel.threads.channel.requestId + 1⟩ :=
    congrArg RpcMeta.requestMeta hmeta
  have hrequestId : rpcMeta.rpcRequestMeta.requestId = x.channel.threads.channel.requestId + 1 :=
    congrArg (fun rpcMeta => rpcMeta.rpcRequestMeta.requestId) hmeta
  have hname : rpcMeta.serviceName = call.method.serviceName := congrArg RpcMeta.serviceName hmeta
  have hindex : rpcMeta.methodIndex = call.method.methodIndex := congrArg RpcMeta.methodIndex hmeta
  have hshort : Short rpcMeta.serviceName rpcMeta.rpcResponseMeta.error call.method.request := by
    rw [hmeta]
    exact hserves.requestShort
  -- the call goes out
  obtain ⟨es₁, channel, hcalled, hcall⟩ := leads_call (l := l) (congrArg Connection.peer h.channelEnd) h.channel
    hserves.admits hid hmeta (requestParts_fits hshort)
  let x₁ : View := { x with
    channel
    trace := x.trace ++ [.call l.channel rpcMeta.rpcRequestMeta.requestId (rpcMeta, call.method.request)] }
  have hsent : x₁.channel.rpcNet.sent[x.channel.rpcNet.sent.length]?
      = some (requestParts rpcMeta call.method.request).bytes := by
    rw [hmeta]
    exact (congrArg (·[x.channel.rpcNet.sent.length]?) hcalled.sent).trans List.getElem?_concat_length
  -- up to the gateway, and down to the server
  obtain ⟨es₂, gateway, hlength, hkept, hrequested⟩ := leads_request (l := l) (x := x₁) h.channelEnd hserverEnd
    h.carried hsent hrequest hserves.request hshort (hname ▸ hserves.gateway)
  let package : RpcPacket := ⟨buildLinkID x.server.server.rpcNet.routeLength (UInt32.ofNat l.route) l.channel.socket,
    .method, rpcMeta, some call.method.request⟩
  let x₂ : View := { x₁ with
    gateway
    carried := x.carried + 1
    channelEnd := .calm .channel (x.channel.rpcNet.sent.length + 1)
    server := x.server.setRpcNet (x.server.server.rpcNet.pushMessageToQueue package) }
  have hrequested : l.Leads x₁ es₂ x₂ := hrequested
  -- the server executes it and answers
  have hlink : package.linkId = l.linkId := by
    rw [linkId, ← h.routeLength]
  have hqueued : x₂.server = x.server.setRpcNet (x.server.server.rpcNet.pushMessageToQueue package) := rfl
  obtain ⟨es₃, server, hanswered, hserved⟩ :=
    leads_serve h.server hqueued h.routeLength rfl hlink (hrequestId ▸ next_ne_null hid) (hname ▸ hservice)
      (hindex ▸ hdescriptor) rfl hparses call.reason call.response hclient hroute (hserializes _)
      fun _ => representable_of_short (hserves.short_reply hname)
  refine ⟨_, _, (hcall.trans hrequested).trans hserved,
    ⟨?_, ⟨client, hroute, hserverEnd, hanswered⟩, ?_, hcalled, hkept⟩, List.append_assoc _ _ _⟩
  · show Connection.calm .channel (x.channel.rpcNet.sent.length + 1) = .calm .channel channel.rpcNet.sent.length
    rw [hcalled.sent, List.length_append]
    rfl
  · show x.carried + 1 = gateway.netCalls.length
    rw [hlength, h.carried]

/-- What an exchange leaves behind: a line as calm as before that offers the same calls, and the next id. -/
structure After (l : Line site) (x y : View) : Prop where
  calm : l.Calm y
  serves : ∀ call, l.Serves x call → l.Serves y call
  option : y.channel.threads.channel.option = x.channel.threads.channel.option
  requestId : y.channel.threads.channel.requestId = x.channel.threads.channel.requestId + 1
  nextPtr : y.channel.threads.channel.nextPtr = x.channel.threads.channel.nextPtr + 1

/-- **A call on a calm line completes**, with what its handler answers. -/
theorem leads_exchange : ∃ es y, l.Leads x es y ∧ l.After x y ∧
    y.trace = x.trace ++ call.events l.channel rpcMeta x.channel.threads.channel.nextPtr := by
  obtain ⟨es₁, x₁, hfirst, hreplying, htrace⟩ := leads_replying h hserves hmeta hid hserializes
  obtain ⟨client, hroute, hserverEnd, hidle, hservices, hlength, client', hclient', hroute', hsent⟩ :=
    hreplying.serverEnd
  have hcalled := hreplying.called
  have hrequest : rpcMeta.requestMeta = some ⟨x.channel.threads.channel.requestId + 1⟩ :=
    congrArg RpcMeta.requestMeta hmeta
  have hrequestId : rpcMeta.rpcRequestMeta.requestId = x.channel.threads.channel.requestId + 1 :=
    congrArg (fun rpcMeta => rpcMeta.rpcRequestMeta.requestId) hmeta
  have hname : rpcMeta.serviceName = call.method.serviceName := congrArg RpcMeta.serviceName hmeta
  -- the reply goes back
  have hpacket : client'.sent[client.sent.length]?
      = some (replyParts [l.channel.socket] (replyMeta rpcMeta call.reason) call.response).bytes := by
    rw [hsent]
    exact List.getElem?_concat_length
  obtain ⟨es₂, gateway, hcalls, hkept, hreplied⟩ := leads_reply hreplying.channelEnd hserverEnd hreplying.carried
    hclient' hpacket hrequest (hserves.short_reply hname)
  let x₂ : View := { x₁ with
    gateway
    carried := x₁.carried + 1
    serverEnd := .calm (.server l.index l.route) (client.sent.length + 1)
    channel := x₁.channel.setRpcNet (x₁.channel.rpcNet.pushMessageToQueue
      ⟨0, .method, replyMeta rpcMeta call.reason, if call.response = [] then none else some call.response⟩) }
  have hreplied : l.Leads x₁ es₂ x₂ := hreplied
  -- and the callback is called
  have hbody : (if call.response = [] then none else some call.response).getD [] = call.response := by
    by_cases hnil : call.response = []
    · simp [hnil]
    · simp [hnil]
  have hanswer : call.reason ≠ "" ∨ (if call.response = [] then none else some call.response) ≠ none := by
    refine hserves.answered.imp_right fun hbody => ?_
    rw [if_neg hbody]
    exact Option.some_ne_none _
  obtain ⟨callback, hentry, hwaits, hptr⟩ := hcalled.waiting
  obtain ⟨es₃, channel, hcompleted, hlast⟩ := leads_complete (l := l) (x := x₂) hcalled.idle
    (congrArg Connection.peer hreplying.channelEnd) rfl rfl hrequestId (next_ne_null hid) (requestKey_next hid) hentry
    hwaits hanswer hserves.timely
  let y : View := { x₂ with channel, trace := x.trace ++ call.events l.channel rpcMeta callback.ptr }
  have hevents : x₁.trace ++ [.complete l.channel (x.channel.threads.channel.requestId + 1)
      (answerOf (replyMeta rpcMeta call.reason) call.response) callback.ptr] = y.trace := by
    rw [htrace, ← hrequestId, List.append_assoc]
    rfl
  rw [show x₂.trace = x₁.trace from rfl, hbody, hevents] at hlast
  have hwhole : l.Leads x _ y := (hfirst.trans hreplied).trans hlast
  have hadmits : ∀ method, channel.threads.channel.admits method = x.channel.threads.channel.admits method := by
    intro method
    rw [Channel.admits, hcompleted.initSuccess, hcalled.initSuccess]
    rfl
  refine ⟨_, y, hwhole, ⟨⟨?_, ⟨client', hclient', hroute'.trans hroute, ?_⟩, ?_, hcompleted.idle, hidle,
    hlength.trans h.routeLength⟩, fun other hother => ?_, hcompleted.option.trans hcalled.option,
    hcompleted.requestId.trans hcalled.requestId, hcompleted.nextPtr.trans hcalled.nextPtr⟩, ?_⟩
  · refine hreplying.channelEnd.trans ?_
    rw [← hcompleted.sent]
  · rw [hsent, List.length_append]
    rfl
  · show x₁.carried + 1 = gateway.netCalls.length
    rw [hcalls, hreplying.carried]
  · refine { hother with
      admits := (hadmits other.method).trans hother.admits
      gateway := hkept _ (hreplying.gateway _ hother.gateway)
      service := ?_ }
    show ∃ service methodDescriptor, x₁.server.server.name2Service[other.method.serviceName]? = some service ∧ _
    rw [hservices]
    exact hother.service
  · rw [← hptr]

end

end Line

/-- What is seen of calls that complete one after the other, behind an id and from an address on. -/
def exchanges (c : Channel) (addr : Addr) : RpcRequestId → Nat → List Exchange → List CallEvent
  | _, _, [] => []
  | id, ptr, call :: calls =>
    call.events addr (c.requestMeta call.method (id + 1)) ptr ++ exchanges c addr (id + 1) (ptr + 1) calls

/-- Only the option goes into a meta. -/
theorem exchanges_congr {c c' : Channel} (h : c'.option = c.option) (addr : Addr) (id : RpcRequestId) (ptr : Nat)
    (calls : List Exchange) : exchanges c' addr id ptr calls = exchanges c addr id ptr calls := by
  induction calls generalizing id ptr with
  | nil => rfl
  | cons call calls ih =>
    have hmeta : c'.requestMeta call.method (id + 1) = c.requestMeta call.method (id + 1) := by
      rw [Channel.requestMeta, h]
      rfl
    rw [exchanges, exchanges, hmeta, ih]

namespace Line

variable {site : Site} {l : Line site} [FrNet] [Serializer] {x : View}

/-- **Calls on a calm line complete one after the other.** -/
theorem leads_exchanges (h : l.Calm x) {calls : List Exchange} (hserves : ∀ call ∈ calls, l.Serves x call)
    (hid : x.channel.threads.channel.requestId.toNat + calls.length < 2 ^ 31)
    (hserializes : ∀ n netInfo rpcMeta body, Serializer.serializes n netInfo rpcMeta body = true) :
    ∃ es y, l.Leads x es y ∧ l.Calm y ∧
      y.trace = x.trace ++ exchanges x.channel.threads.channel l.channel x.channel.threads.channel.requestId
        x.channel.threads.channel.nextPtr calls := by
  induction calls generalizing x with
  | nil => exact ⟨[], x, .refl x, h, (List.append_nil _).symm⟩
  | cons call calls ih =>
    rw [List.length_cons] at hid
    have hnext : x.channel.threads.channel.requestId.toNat + 1 < 2 ^ 31 := by omega
    obtain ⟨es, y, hfirst, hafter, htrace⟩ := leads_exchange h (hserves call List.mem_cons_self) rfl hnext
      fun n netInfo => hserializes n netInfo _ _
    -- the next call starts from the next id
    have hnat := toNat_next hnext
    obtain ⟨es', z, hrest, hcalm, htrace'⟩ := ih hafter.calm
      (fun other hmem => hafter.serves other (hserves other (List.mem_cons_of_mem call hmem)))
      (by rw [hafter.requestId]; omega)
    refine ⟨es ++ es', z, hfirst.trans hrest, hcalm, ?_⟩
    rw [htrace', htrace, hafter.requestId, hafter.nextPtr, exchanges_congr hafter.option, exchanges,
      List.append_assoc]

end Line

namespace Deployment

section

variable [FrNet] [Serializer] {site : Site} {s : Deployment}

/-- **Calls can complete.** From a state in which the line of a channel and a server is calm there is a run in
    which the server executes the calls that it serves one after the other, each completes with the handler's
    answer, and no other call is seen. The line is calm again behind it. -/
theorem calls_complete (l : Line site) (hcalm : l.Calm (l.view s)) {calls : List Exchange}
    (hserves : ∀ call ∈ calls, l.Serves (l.view s) call)
    (hid : (s.channels l.channel).threads.channel.requestId.toNat + calls.length < 2 ^ 31)
    (hserializes : ∀ n netInfo rpcMeta body, Serializer.serializes n netInfo rpcMeta body = true) :
    ∃ es s', exec (step site) s es = some s' ∧ Reaches (step site) (Sized site) s s' ∧ l.Calm (l.view s') ∧
      s'.trace = s.trace ++ exchanges (s.channels l.channel).threads.channel l.channel
        (s.channels l.channel).threads.channel.requestId (s.channels l.channel).threads.channel.nextPtr calls := by
  obtain ⟨es, y, hleads, hcalm', htrace⟩ := Line.leads_exchanges hcalm hserves hid hserializes
  obtain ⟨s', hexec, hreaches, rfl⟩ := hleads s rfl
  exact ⟨es, s', hexec, hreaches, hcalm', htrace⟩

end

/-! ## A line -/

section

attribute [local instance] networkUp serializesAll

/-- The channel and the server of `oneCall`. -/
def oneLine : Line oneGateway where
  channel := ⟨0, 5⟩
  server := ⟨0, 3⟩
  index := 0
  route := 0
  gateway := rfl
  ne := by decide
  listed := rfl
  fits := oneGateway_fits

/-- Both are connected, the server has registered its service, and the channel has handled its own connect and
    registered a callback for the service's pushes. -/
def oneLineStart : List Deployment.Event :=
  oneCall.take 7 ++ [.channel ⟨0, 5⟩ (.fetch 0 20), .channel ⟨0, 5⟩ (.parse 0),
    .channel ⟨0, 5⟩ (.threads (.registerCallback (convertMethodKey "S" 0) ⟨4⟩))]

def oneLineState : Deployment := (exec (step oneGateway) (started oneGateway) oneLineStart).get (by decide)

theorem reaches_oneLineState :
    Reaches (step oneGateway) (Sized oneGateway) (started oneGateway) oneLineState := by
  obtain ⟨s, hexec, hreaches⟩ := reaches_checked oneLineStart (by decide)
  have hstate : oneLineState = s := by
    simp only [oneLineState, hexec, Option.get_some]
  rwa [hstate]

theorem calm_oneLineState : oneLine.Calm (oneLine.view oneLineState) where
  channelEnd := by decide
  serverEnd := ⟨_, List.getElem?_eq_getElem (by decide), by decide, by decide⟩
  carried := by decide
  channel := {
    queue := by decide
    ready := List.length_eq_zero_iff.mp (by decide)
    parse := by decide
    batch := by decide
    pending := fun key callback hpending => by
      have hempty : (oneLineState.channels ⟨0, 5⟩).threads.channel.requestCallback = ∅ :=
        ExtTreeMap.isEmpty_iff.mp (by decide)
      have hpending' : (oneLineState.channels ⟨0, 5⟩).threads.channel.requestCallback[key]? = some callback :=
        hpending
      rw [hempty, ExtTreeMap.getElem?_empty] at hpending'
      cases hpending' }
  server := {
    queue := by decide
    thread := ⟨_, rfl, rfl, rfl, fun _ hsent => absurd hsent List.not_mem_nil⟩ }
  routeLength := by decide

def oneExchange : Exchange := ⟨⟨"S", 0, some false, [1, 2], true, some 9⟩, "", [7]⟩

theorem serves_oneLineState : oneLine.Serves (oneLine.view oneLineState) oneExchange where
  admits := by decide
  gateway := {
    binding := fun socket hbinding => absurd (Option.isSome_iff_exists.mpr ⟨socket, hbinding⟩) (by decide)
    sockets := by decide }
  service := ⟨_, _, rfl, rfl, rfl⟩
  toSound := ⟨by decide, by decide, by decide, by decide, by decide⟩

/-- The call of `oneCall` completes twice. -/
theorem calls_complete_oneLine : ∃ s, Reaches (step oneGateway) (Sized oneGateway) (started oneGateway) s ∧
    s.trace = [.call ⟨0, 5⟩ 1 oneRequest, .execute ⟨0, 5⟩ 1 oneRequest, .reply ⟨0, 5⟩ 1 ("", some [7]),
      .complete ⟨0, 5⟩ 1 ("", some [7]) 0,
      .call ⟨0, 5⟩ 2 (⟨"S", 0, some ⟨2⟩, none, 0⟩, [1, 2]), .execute ⟨0, 5⟩ 2 (⟨"S", 0, some ⟨2⟩, none, 0⟩, [1, 2]),
      .reply ⟨0, 5⟩ 2 ("", some [7]), .complete ⟨0, 5⟩ 2 ("", some [7]) 1] := by
  have hserves : ∀ call ∈ [oneExchange, oneExchange], oneLine.Serves (oneLine.view oneLineState) call := by
    intro call hmem
    obtain rfl : call = oneExchange := by simpa using hmem
    exact serves_oneLineState
  obtain ⟨_, s, _, hreaches, _, htrace⟩ :=
    calls_complete oneLine calm_oneLineState hserves (by decide) fun _ _ _ _ => rfl
  refine ⟨s, reaches_oneLineState.trans hreaches, htrace.trans ?_⟩
  decide

end

end Deployment

end Frrpc
