import Frrpc.Deployment.Correctness.Exchange
import Frrpc.Route.Correctness.Registry

/-!
# `Deployment.Correctness.Startup` — a line comes into operation

From the start of a deployment a server and a channel can connect to their gateway (`leads_connected`), and the
server can add services (`leads_addServices`), which the gateway then sends the channel's requests to. So the
calls of `Exchange` complete in every deployment (`calls_complete_started`).
-/

namespace Frrpc

open Lib Std

/-! ## A registration at the gateway -/

section

variable [FrNet] {r : RpcRoute} {f : Frame} {serviceName : ServiceName} {serviceAddr : ServiceAddr}

/-- **A registration is entered**, for a service that nobody has registered. -/
theorem onReceive_register (socket : Socket)
    (h : f.BuiltFrom (commandParts eRouteCmdServerServiceRegister
      (serialize (⟨serviceName, serviceAddr⟩ : RouteServiceInfo))))
    (hmax : f.size < netPacketMaxSize) (hlength : (utf8 serviceName).length + (utf8 serviceAddr).length ≤ 3900)
    (hfree : r.service2info[serviceName]? = none) :
    ∃ log, RpcRoute.onReceive (r, []) socket f.bytes
      = ⟨(((r.updateSocket socket).addService socket serviceName serviceAddr).1, log), f.bytes.length, .ok ()⟩ := by
  have hinfo : parse (serialize (⟨serviceName, serviceAddr⟩ : RouteServiceInfo))
      = some (⟨serviceName, serviceAddr⟩ : RouteServiceInfo) :=
    PbMessage.parse_serialize _ ((serviceInfo_length_le hlength).trans_lt (by decide))
  have hadded : ((r.updateSocket socket).addService socket serviceName serviceAddr).2 = true := by
    have hnew : (r.updateSocket socket).service2info[serviceName]? = none := hfree
    rw [RpcRoute.addService, hnew]
    rcases RouteServiceInfos.new.addService_cases socket serviceAddr with ⟨_, heq⟩ | ⟨htaken, _⟩
    · exact congrArg Prod.snd heq
    · exact absurd ExtTreeMap.getElem?_empty htaken
  refine h.gateway_onReceive hmax .command rfl ?_
  show RpcRoute.commandProcess _ _ _ = _
  rw [RpcRoute.commandProcess, h.parse_command]
  dsimp only
  rw [if_pos rfl, RpcRoute.serverServiceRegister, hinfo]
  exact congrArg some (Prod.ext rfl hadded)

end

namespace Line

variable {site : Site} (l : Line site)

/-- Nobody has registered the service. -/
structure Fresh (x : View) (serviceName : ServiceName) : Prop where
  server : x.server.server.name2Service[serviceName]? = none
  gateway : x.gateway.service2info[serviceName]? = none
  binding : x.gateway.binding l.channel.socket serviceName = none

/-- The server has the service, and the gateway knows no other server of it. -/
structure Knows (x : View) (serviceName : ServiceName) (service : Service) : Prop where
  server : x.server.server.name2Service[serviceName]? = some service
  gateway : x.gateway.Serves l.channel.socket serviceName l.server.socket

variable [FrNet] [Serializer] {l} {x : View}

/-! ## The parties connect -/

/-- **The server connects.** -/
theorem leads_connectServer (hserverEnd : x.serverEnd = .unused) (hconnected : l.route ∉ x.server.connected)
    (hsocket : l.server.socket ≠ socketNull) :
    l.Leads x [.connectServer l.server l.index l.route, .accept l.server]
      { x with
        gateway := x.gateway.onConnect l.server.socket
        serverEnd := .calm (.server l.index l.route) 0
        server := { x.server with connected := x.server.connected ++ [l.route] } } := by
  let opened := Connection.made (.server l.index l.route)
  have hconnect : l.Leads x [.connectServer l.server l.index l.route]
      { x with
        serverEnd := opened
        server := { x.server with connected := x.server.connected ++ [l.route] } } := by
    refine .one fun s hs => ?_
    subst hs
    have hend : s.connections l.server = .unused := hserverEnd
    -- the server's list names the gateway by the channel's number
    have hlisted : (site.gateList l.index)[l.route]? = some l.server.gateway := l.gateway ▸ l.listed
    have hnew : (s.connections l.server).peer = none := congrArg Connection.peer hend
    refine ⟨hnew, _, if_pos ⟨Or.inl hnew, hsocket, hlisted, hconnected⟩, ?_⟩
    rw [view_setServer, view_setServerEnd]
    rfl
  refine hconnect.trans (.one fun s hs => ?_)
  have hend : s.connections l.server = opened := congrArg View.serverEnd hs
  have hpeer : (s.connections l.server).peer ≠ none := by
    rw [hend]
    exact Option.some_ne_none _
  have hgateway : s.routes l.channel.gateway = x.gateway := congrArg View.gateway hs
  refine ⟨trivial, _, if_pos ⟨hpeer, congrArg Connection.gatewaySide hend⟩, ?_⟩
  rw [l.gateway, view_setRoute, view_setServerEnd, hs, hend, hgateway]
  rfl

/-- **The channel connects**, and handles the event. -/
theorem leads_connectChannel (hchannelEnd : x.channelEnd = .unused) (h : x.channel.Idle) :
    l.Leads x [.connectChannel l.channel, .accept l.channel, .channel l.channel (.fetch 0 1),
        .channel l.channel (.parse 0)]
      { x with
        gateway := x.gateway.onConnect l.channel.socket
        channelEnd := .calm .channel 0 } := by
  let opened := Connection.made .channel
  let event : RpcPacket := .new l.channel.socket.toInt64.toUInt64 .connection
  let queued := x.channel.setRpcNet (x.channel.rpcNet.pushMessageToQueue event)
  have hsocket : l.channel.socket ≠ socketNull := by
    intro hnull
    have hpos := l.fits.pos
    rw [hnull] at hpos
    exact absurd hpos (by decide)
  have hconnect : l.Leads x [.connectChannel l.channel] { x with channelEnd := opened, channel := queued } := by
    refine .one fun s hs => ?_
    subst hs
    have hend : s.connections l.channel = .unused := hchannelEnd
    have hnew : (s.connections l.channel).peer = none := congrArg Connection.peer hend
    refine ⟨⟨l.fits, hnew⟩, _, if_pos ⟨Or.inl hnew, hsocket⟩, ?_⟩
    rw [view_setChannel, view_setChannelEnd, if_pos hnew]
    rfl
  let y : View := { x with gateway := x.gateway.onConnect l.channel.socket, channelEnd := .calm .channel 0 }
  have haccept : l.Leads { x with channelEnd := opened, channel := queued } [.accept l.channel]
      { y with channel := queued } := by
    refine .one fun s hs => ?_
    have hend : s.connections l.channel = opened := congrArg View.channelEnd hs
    have hgateway : s.routes l.channel.gateway = x.gateway := congrArg View.gateway hs
    have hpeer : (s.connections l.channel).peer ≠ none := by
      rw [hend]
      exact Option.some_ne_none _
    refine ⟨trivial, _, if_pos ⟨hpeer, congrArg Connection.gatewaySide hend⟩, ?_⟩
    rw [view_setRoute, view_setChannelEnd, hs, hend, hgateway]
    rfl
  -- the connect itself is queued as an event, before any reply can be
  have hevent : ERpcEvent.connection ≠ .method := by
    decide
  have hfetch : l.Leads { y with channel := queued } _ _ :=
    leads_channel_quiet rfl (h.step_fetch event) trivial rfl
  have hparse : l.Leads { y with channel := { x.channel with parseQueues := x.channel.parseQueues.set 0 [event] } }
      _ y := leads_channel_quiet rfl (h.step_event hevent) trivial rfl
  exact hconnect.trans (haccept.trans (hfetch.trans hparse))

/-- There is a thread of each kind, and the server's socket is one. -/
structure Starts (l : Line site) : Prop where
  socket : l.server.socket ≠ socketNull
  parse : 0 < site.parseThreadNum l.channel
  channelWork : 0 < site.channelWorkThreadNum l.channel
  serverWork : 0 < site.serverWorkThreadNum l.index

/-- **From the start both connect**, and nobody has registered anything. -/
theorem leads_connected (h : l.Starts) :
    ∃ es y, l.Leads (l.view (Deployment.started site)) es y ∧ l.Calm y ∧ (∀ serviceName, l.Fresh y serviceName) ∧
      y.channel = .started (site.channelOption l.channel) (site.parseThreadNum l.channel)
        (site.channelWorkThreadNum l.channel) ∧
      y.server.server.serviceAddr = site.serviceAddr l.index ∧ y.trace = [] := by
  let x := l.view (Deployment.started site)
  have hchannel : x.channel.Idle := by
    refine ⟨rfl, rfl, ?_, ?_, fun key callback hpending => ?_⟩
    · exact List.getElem?_replicate_of_lt h.parse
    · exact List.getElem?_replicate_of_lt h.channelWork
    · have hpending : (∅ : ExtTreeMap RpcRequestId ChannelCallback)[key]? = some callback := hpending
      rw [ExtTreeMap.getElem?_empty] at hpending
      cases hpending
  have hserver : x.server.Idle :=
    ⟨rfl, .started ∅, List.getElem?_replicate_of_lt h.serverWork, rfl, rfl,
      fun _ hsent => absurd hsent List.not_mem_nil⟩
  -- the clients were made from the list, each with its place as route id
  have hlt : l.route < (site.gateList l.index).length := (List.getElem?_eq_some_iff.mp l.listed).1
  have hclient : x.server.server.rpcNet.routeClientList[l.route]? = some ⟨UInt32.ofNat l.route, [], []⟩ := by
    show ((List.range (site.gateList l.index).length).map _)[l.route]? = _
    rw [List.getElem?_map, List.getElem?_range hlt]
    rfl
  have hfirst := leads_connectServer (x := x) rfl List.not_mem_nil h.socket
  have hsecond := leads_connectChannel (l := l)
    (x := { x with
      gateway := x.gateway.onConnect l.server.socket
      serverEnd := .calm (.server l.index l.route) 0
      server := { x.server with connected := [l.route] } }) rfl hchannel
  refine ⟨_, _, hfirst.trans hsecond,
    ⟨rfl, ⟨_, hclient, rfl, rfl⟩, rfl, hchannel, ⟨hserver.queue, hserver.thread⟩, rfl⟩,
    fun serviceName => ⟨ExtTreeMap.getElem?_empty, ExtTreeMap.getElem?_empty, ?_⟩, rfl, rfl, rfl⟩
  show ((∅ : ExtTreeMap Socket (ExtTreeMap ServiceName Socket))[l.channel.socket]?).bind _ = none
  rw [ExtTreeMap.getElem?_empty]
  rfl

/-! ## A service is added -/

/-- What adding a service leaves behind. -/
structure Added (l : Line site) (x y : View) (serviceName : ServiceName) (service : Service) : Prop where
  calm : l.Calm y
  added : l.Knows y serviceName service
  knows : ∀ other service', l.Knows x other service' → l.Knows y other service'
  fresh : ∀ other, other ≠ serviceName → l.Fresh x other → l.Fresh y other
  channel : y.channel = x.channel
  serviceAddr : y.server.server.serviceAddr = x.server.server.serviceAddr
  trace : y.trace = x.trace

/-- **A service is added**, and the gateway learns of it. -/
theorem leads_addService (h : l.Calm x) {serviceName : ServiceName} (hfresh : l.Fresh x serviceName)
    (hlength : (utf8 serviceName).length + (utf8 x.server.server.serviceAddr).length ≤ 3900) (service : Service) :
    ∃ es y, l.Leads x es y ∧ l.Added x y serviceName service := by
  obtain ⟨client, hclient, hroute, hserverEnd⟩ := h.serverEnd
  let parts := commandParts eRouteCmdServerServiceRegister
    (serialize (⟨serviceName, x.server.server.serviceAddr⟩ : RouteServiceInfo))
  have hfits : parts.Fits := commandParts_fits (serviceInfo_length_le hlength)
  obtain ⟨f, hbytes, hbuilt, hmax⟩ := exists_frame_of_fits parts (commandParts_sound _ _) hfits
  let server : Server := { x.server.server with
    rpcNet := (x.server.server.rpcNet.registerService serviceName x.server.server.serviceAddr).1
    name2Service := x.server.server.name2Service.insertIfNew serviceName service }
  let client' : RpcServerRouteClient := { client with sent := client.sent ++ [f.bytes] }
  have hserver : (x.server.server.addService serviceName service).1 = server := by
    have habsent : ¬ x.server.server.name2Service.contains serviceName = true := by
      rw [ExtTreeMap.contains_eq_isSome_getElem?, hfresh.server]
      exact Bool.false_ne_true
    rw [Server.addService, if_neg habsent]
  have hstep : x.server.step (.addService serviceName service) = some { x.server with server } := by
    rw [← hserver]
    rfl
  have hadd : l.Leads x _ { x with server := { x.server with server } } :=
    leads_server_quiet hstep hfits.representable (ServerProcess.seen_same rfl)
  -- every gateway is told; the line sees only its own client hand the command over
  have hclient' : server.rpcNet.routeClientList[l.route]? = some client' := by
    show (x.server.server.rpcNet.registerService serviceName
      x.server.server.serviceAddr).1.routeClientList[l.route]? = _
    rw [RpcServerRoute.registerService_clients, List.getElem?_map, hclient]
    show some { client with sent := client.sent ++ [parts.bytes] } = _
    rw [hbytes]
  obtain ⟨log, hreceive⟩ := onReceive_register (r := x.gateway) l.server.socket hbuilt hmax hlength hfresh.gateway
  let gateway :=
    ((x.gateway.updateSocket l.server.socket).addService l.server.socket serviceName x.server.server.serviceAddr).1
  let y : View := { x with
    server := { x.server with server }
    gateway
    serverEnd := .calm (.server l.index l.route) (client.sent.length + 1) }
  have hup : l.Leads { x with server := { x.server with server } } _ y :=
    leads_upServer hserverEnd hclient' List.getElem?_concat_length (f.complete hmax).2.2.2 hreceive
  have hserver (other : ServiceName) : y.server.server.name2Service[other]?
      = if serviceName = other ∧ x.server.server.name2Service[other]? = none then some service
        else x.server.server.name2Service[other]? :=
    getElem?_insertIfNew_eq x.server.server.name2Service serviceName service other
  have hsockets (other : ServiceName) (hne : other ≠ serviceName) :
      gateway.socketsOf other = x.gateway.socketsOf other := by
    rw [RpcRoute.socketsOf_addService, if_neg fun hsame => hne hsame.1.symm]
    rfl
  refine ⟨_, y, hadd.trans hup, ?_, ?_, fun other service' hother => ?_, fun other hne hother => ?_, rfl, rfl, rfl⟩
  · refine ⟨h.channelEnd, ⟨client', hclient', hroute, ?_⟩, h.carried, h.channel, ⟨h.server.queue, h.server.thread⟩,
      h.routeLength⟩
    show Connection.calm _ (client.sent.length + 1) = .calm _ (client.sent ++ [f.bytes]).length
    rw [List.length_append]
    rfl
  · refine ⟨(hserver serviceName).trans (if_pos ⟨rfl, hfresh.server⟩), fun socket hbinding => ?_, ?_⟩
    · have hbinding : x.gateway.binding l.channel.socket serviceName = some socket := hbinding
      rw [hfresh.binding] at hbinding
      cases hbinding
    · have hnone : (x.gateway.updateSocket l.server.socket).infosOf serviceName = .new :=
        RpcRoute.infosOf_of_none hfresh.gateway
      show gateway.socketsOf serviceName = _
      rw [RpcRoute.socketsOf_addService, RpcRoute.addrOf, RpcRoute.socketsOf, hnone,
        if_pos ⟨rfl, ExtTreeMap.getElem?_empty⟩]
      rfl
  · -- a service that is known was added before, so its name is another one
    have hne : other ≠ serviceName := by
      rintro rfl
      have hserver := hother.server
      rw [hfresh.server] at hserver
      cases hserver
    exact ⟨(hserver other).trans ((if_neg fun hsame => hne hsame.1.symm).trans hother.server),
      hother.gateway.binding, (hsockets other hne).trans hother.gateway.sockets⟩
  · refine ⟨(hserver other).trans ((if_neg fun hsame => hne hsame.1.symm).trans hother.server), ?_, hother.binding⟩
    show (x.gateway.service2info.insert serviceName _)[other]? = none
    rw [ExtTreeMap.getElem?_insert, if_neg (by simpa using hne.symm)]
    exact hother.gateway

/-- **Services are added one after the other.** -/
theorem leads_addServices (h : l.Calm x) {services : List (ServiceName × Service)}
    (hnodup : (services.map Prod.fst).Nodup) (hfresh : ∀ entry ∈ services, l.Fresh x entry.1)
    (hlength : ∀ entry ∈ services, (utf8 entry.1).length + (utf8 x.server.server.serviceAddr).length ≤ 3900) :
    ∃ es y, l.Leads x es y ∧ l.Calm y ∧ (∀ entry ∈ services, l.Knows y entry.1 entry.2) ∧
      (∀ serviceName service, l.Knows x serviceName service → l.Knows y serviceName service) ∧
      y.channel = x.channel ∧ y.trace = x.trace := by
  induction services generalizing x with
  | nil => exact ⟨[], x, .refl x, h, fun _ hmem => absurd hmem List.not_mem_nil, fun _ _ hknows => hknows, rfl, rfl⟩
  | cons entry services ih =>
    rw [List.map_cons, List.nodup_cons] at hnodup
    obtain ⟨es, y, hfirst, hadded⟩ :=
      leads_addService h (hfresh entry List.mem_cons_self) (hlength entry List.mem_cons_self) entry.2
    -- the names differ, so the rest is as fresh as it was
    have hrest : ∀ other ∈ services, l.Fresh y other.1 := by
      intro other hmem
      refine hadded.fresh other.1 (fun hsame => hnodup.1 ?_) (hfresh other (List.mem_cons_of_mem entry hmem))
      rw [← hsame]
      exact List.mem_map_of_mem hmem
    have hlengths : ∀ other ∈ services,
        (utf8 other.1).length + (utf8 y.server.server.serviceAddr).length ≤ 3900 := by
      intro other hmem
      rw [hadded.serviceAddr]
      exact hlength other (List.mem_cons_of_mem entry hmem)
    obtain ⟨es', z, hothers, hcalm, hknows, hkept, hchannel, htrace⟩ := ih hadded.calm hnodup.2 hrest hlengths
    refine ⟨es ++ es', z, hfirst.trans hothers, hcalm, fun other hmem => ?_, fun serviceName service hother => ?_,
      hchannel.trans hadded.channel, htrace.trans hadded.trace⟩
    · rcases List.mem_cons.mp hmem with rfl | hmem
      · exact hkept other.1 other.2 hadded.added
      · exact hknows other hmem
    · exact hkept serviceName service (hadded.knows serviceName service hother)

end Line

/-! ## Calls from the start on -/

/-- The call can be made at such a channel, and one of the services has its method and can parse the request. -/
structure Exchange.Answerable (c : Channel) (services : List (ServiceName × Service)) (call : Exchange) : Prop
    extends call.Sound where
  admits : c.admits call.method = true
  service : ∃ service methodDescriptor, (call.method.serviceName, service) ∈ services ∧
    service.method call.method.methodIndex = some methodDescriptor ∧
    methodDescriptor.parses call.method.request = true

theorem Exchange.Answerable.serves {site : Site} {l : Line site} {x : View} {services : List (ServiceName × Service)}
    {call : Exchange} (h : call.Answerable x.channel.threads.channel services)
    (hknows : ∀ entry ∈ services, l.Knows x entry.1 entry.2) : l.Serves x call := by
  obtain ⟨service, methodDescriptor, hmem, hmethod, hparses⟩ := h.service
  have hknown := hknows _ hmem
  exact ⟨h.toSound, h.admits, hknown.gateway, service, methodDescriptor, hknown.server, hmethod, hparses⟩

namespace Deployment

section

variable [FrNet] [Serializer] {site : Site}

/-- **Every deployment can come into operation.** From the start there is a run in which a server and a channel
    of one gateway connect and the server's services become known to the gateway, before any call. Behind it, any
    calls of these services are executed one after the other and complete with their handlers' answers. -/
theorem calls_complete_started (l : Line site) (hstarts : l.Starts) {services : List (ServiceName × Service)}
    (hnodup : (services.map Prod.fst).Nodup)
    (hlength : ∀ entry ∈ services, (utf8 entry.1).length + (utf8 (site.serviceAddr l.index)).length ≤ 3900)
    (hserializes : ∀ n netInfo rpcMeta body, Serializer.serializes n netInfo rpcMeta body = true) :
    ∃ es₁ s₁, exec (step site) (started site) es₁ = some s₁ ∧
      Reaches (step site) (Sized site) (started site) s₁ ∧ l.Calm (l.view s₁) ∧
      (∀ entry ∈ services, l.Knows (l.view s₁) entry.1 entry.2) ∧ s₁.trace = [] ∧
      ∀ calls : List Exchange,
        (∀ call ∈ calls, call.Answerable (.started (site.channelOption l.channel)) services) →
        calls.length < 2 ^ 31 →
        ∃ es₂ s₂, exec (step site) s₁ es₂ = some s₂ ∧ Reaches (step site) (Sized site) s₁ s₂ ∧
          l.Calm (l.view s₂) ∧
          s₂.trace = exchanges (.started (site.channelOption l.channel)) l.channel 0 0 calls := by
  obtain ⟨es, x, hconnected, hcalm, hfresh, hchannel, haddr, htrace⟩ := Line.leads_connected hstarts
  rw [← haddr] at hlength
  obtain ⟨es', y, hadded, hcalm', hknows, _, hchannel', htrace'⟩ :=
    Line.leads_addServices hcalm hnodup (fun entry _ => hfresh entry.1) hlength
  have hstarted : y.channel.threads.channel = .started (site.channelOption l.channel) := by
    rw [hchannel', hchannel]
    rfl
  obtain ⟨s₁, hexec₁, hreaches₁, rfl⟩ := (hconnected.trans hadded) (started site) rfl
  refine ⟨_, s₁, hexec₁, hreaches₁, hcalm', hknows, htrace'.trans htrace, fun calls hcalls hcount => ?_⟩
  -- the channel is as it was made, so its ids begin at the first one
  have hid : (l.view s₁).channel.threads.channel.requestId.toNat + calls.length < 2 ^ 31 := by
    rw [hstarted]
    exact (Nat.zero_add _).trans_lt hcount
  rw [← hstarted] at hcalls
  obtain ⟨es₂, z, hcompleted, hcalm'', htrace''⟩ :=
    Line.leads_exchanges hcalm' (fun call hmem => (hcalls call hmem).serves hknows) hid hserializes
  obtain ⟨s₂, hexec₂, hreaches₂, rfl⟩ := hcompleted s₁ rfl
  refine ⟨_, s₂, hexec₂, hreaches₂, hcalm'', ?_⟩
  rw [hstarted, htrace', htrace] at htrace''
  exact htrace''

end

/-! ## Two gateways -/

section

attribute [local instance] networkUp serializesAll

/-- Two gateways, and two threads of each kind. -/
def twoGateways : Site where
  channelOption _ := ⟨0, 1000⟩
  parseThreadNum _ := 2
  channelWorkThreadNum _ := 2
  gateList _ := [0, 1]
  serviceAddr _ := "addr"
  serverWorkThreadNum _ := 2

theorem twoGateways_fits : twoGateways.Fits ⟨1, 5⟩ where
  pos := by decide
  linkId index route hroute := by
    have hone : route = 1 := by
      match route, hroute with
      | 1, _ => rfl
    subst hone
    show LinkIdFits 2 1 5
    decide

/-- A channel and a server at the second gateway. -/
def secondLine : Line twoGateways where
  channel := ⟨1, 5⟩
  server := ⟨1, 3⟩
  index := 0
  route := 1
  gateway := rfl
  ne := by decide
  listed := rfl
  fits := twoGateways_fits

/-- Two services become known, and a call to each of them completes, one with a response and one with an
    error. -/
theorem calls_complete_secondLine : ∃ s₁ s,
    Reaches (step twoGateways) (Sized twoGateways) (started twoGateways) s₁ ∧
    secondLine.Knows (secondLine.view s₁) "S" ⟨[⟨fun _ => true⟩]⟩ ∧
    secondLine.Knows (secondLine.view s₁) "T" ⟨[⟨fun _ => true⟩]⟩ ∧
    Reaches (step twoGateways) (Sized twoGateways) s₁ s ∧
    s.trace = [.call ⟨1, 5⟩ 1 (⟨"S", 0, some ⟨1⟩, none, 0⟩, [1, 2]),
      .execute ⟨1, 5⟩ 1 (⟨"S", 0, some ⟨1⟩, none, 0⟩, [1, 2]), .reply ⟨1, 5⟩ 1 ("", some [7]),
      .complete ⟨1, 5⟩ 1 ("", some [7]) 0,
      .call ⟨1, 5⟩ 2 (⟨"T", 0, some ⟨2⟩, none, 0⟩, [3]), .execute ⟨1, 5⟩ 2 (⟨"T", 0, some ⟨2⟩, none, 0⟩, [3]),
      .reply ⟨1, 5⟩ 2 ("no", none), .complete ⟨1, 5⟩ 2 ("no", none) 1] := by
  let service : Service := ⟨[⟨fun _ => true⟩]⟩
  let services : List (ServiceName × Service) := [("S", service), ("T", service)]
  let first : Exchange := ⟨⟨"S", 0, some false, [1, 2], true, some 9⟩, "", [7]⟩
  let second : Exchange := ⟨⟨"T", 0, some true, [3], true, none⟩, "no", []⟩
  have hfirst : first.Answerable (.started ⟨0, 1000⟩) services :=
    ⟨⟨by decide, by decide, by decide, by decide, by decide⟩, rfl, service, _, List.mem_cons_self, rfl, rfl⟩
  have hsecond : second.Answerable (.started ⟨0, 1000⟩) services :=
    ⟨⟨by decide, by decide, by decide, by decide, by decide⟩, rfl, service, _,
      List.mem_cons_of_mem _ List.mem_cons_self, rfl, rfl⟩
  have hcalls : ∀ call ∈ [first, second], call.Answerable (.started ⟨0, 1000⟩) services := by
    intro call hmem
    rcases List.mem_cons.mp hmem with rfl | hmem
    · exact hfirst
    · rw [List.mem_singleton.mp hmem]
      exact hsecond
  have hlength : ∀ entry ∈ services, (utf8 entry.1).length + (utf8 "addr").length ≤ 3900 := by
    intro entry hmem
    rcases List.mem_cons.mp hmem with rfl | hmem
    · decide
    · rw [List.mem_singleton.mp hmem]
      decide
  have hnodup : (services.map Prod.fst).Nodup := by
    show ["S", "T"].Nodup
    decide
  obtain ⟨_, s₁, _, hreaches₁, _, hknows, _, hall⟩ := calls_complete_started secondLine
    ⟨by decide, by decide, by decide, by decide⟩ hnodup hlength fun _ _ _ _ => rfl
  obtain ⟨_, s, _, hreaches, _, htrace⟩ := hall [first, second] hcalls (by decide)
  refine ⟨s₁, s, hreaches₁, hknows _ List.mem_cons_self,
    hknows _ (List.mem_cons_of_mem _ List.mem_cons_self), hreaches, htrace.trans ?_⟩
  decide

end

end Deployment

end Frrpc
