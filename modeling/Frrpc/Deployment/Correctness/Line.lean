import Frrpc.Deployment.Correctness.Causal
import Frrpc.Deployment.Correctness.Delivery

/-!
# `Deployment.Correctness.Line` — a channel and a server at one gateway

A `Line` picks a channel and a server that can share a gateway, and its `view` shows their part of a
deployment. What the parties of a line do to each other is stated on the view (`Lib.Leads`), from any
deployment that looks the same: a packet that was handed over goes up to the gateway, and what the gateway
asks for comes down.
-/

namespace Frrpc

open Lib

/-- A connection in use, with nothing on its way. -/
def Connection.calm (peer : Peer) (taken : Nat) : Connection := ⟨some peer, .opened, .opened, .empty, .empty, taken⟩

namespace Lib.Wire

variable {α : Type}

/-- All of what was sent arrives. -/
theorem arrive_send_empty (xs : List α) : (empty.send xs).arrive xs.length = ⟨xs, []⟩ := by
  simp [empty, send, arrive]

/-- All of what has arrived is taken. -/
theorem drop_all (xs : List α) : (⟨xs, []⟩ : Wire α).drop xs.length = empty := by
  simp [empty, drop]

end Lib.Wire

/-- A channel and a client of a server that can be connected to one gateway. -/
structure Line (site : Site) where
  channel : Addr
  server : Addr
  index : Nat
  route : Nat
  gateway : server.gateway = channel.gateway
  ne : server ≠ channel
  listed : (site.gateList index)[route]? = some channel.gateway
  fits : site.Fits channel

/-- The channel's link id at the server. -/
def Line.linkId {site : Site} (l : Line site) : LinkID :=
  buildLinkID (getNumberLength (site.gateList l.index).length) (UInt32.ofNat l.route) l.channel.socket

/-- It leads back to the channel. -/
theorem Line.linkAddr_linkId {site : Site} (l : Line site) : site.linkAddr l.index l.linkId = some l.channel :=
  l.fits.linkAddr l.listed

/-- What a line shows of a deployment. -/
structure View where
  gateway : RpcRoute
  carried : Nat
  channelEnd : Connection
  serverEnd : Connection
  channel : ChannelProcess
  server : ServerProcess
  trace : List CallEvent

namespace Line

open Deployment

variable {site : Site} (l : Line site)

def view (s : Deployment) : View where
  gateway := s.routes l.channel.gateway
  carried := s.carried l.channel.gateway
  channelEnd := s.connections l.channel
  serverEnd := s.connections l.server
  channel := s.channels l.channel
  server := s.servers l.index
  trace := s.trace

/-! ## The view of a change -/

section

variable (s : Deployment)

@[simp] theorem view_setChannelEnd (connection : Connection) :
    l.view (s.setConnection l.channel connection) = { l.view s with channelEnd := connection } := by
  simp [view, setConnection, Function.update_of_ne l.ne]

@[simp] theorem view_setServerEnd (connection : Connection) :
    l.view (s.setConnection l.server connection) = { l.view s with serverEnd := connection } := by
  simp [view, setConnection, Function.update_of_ne l.ne.symm]

@[simp] theorem view_setRoute (route : RpcRoute) :
    l.view (s.setRoute l.channel.gateway route) = { l.view s with gateway := route } := by
  simp [view, setRoute]

@[simp] theorem view_setChannel (channel : ChannelProcess) :
    l.view (s.setChannel l.channel channel) = { l.view s with channel } := by
  simp [view, setChannel]

@[simp] theorem view_setServer (server : ServerProcess) :
    l.view (s.setServer l.index server) = { l.view s with server } := by
  simp [view, setServer]

@[simp] theorem view_see (events : List CallEvent) :
    l.view (s.see events) = { l.view s with trace := s.trace ++ events } := rfl

end

variable [FrNet] [Serializer]

/-- What the events do to the view. -/
abbrev Leads (x : View) (es : List Deployment.Event) (y : View) : Prop :=
  Lib.Leads (step site) (Sized site) l.view x es y

variable {l} {x : View}

/-! ## Steps of the processes -/

/-- The channel takes a step. -/
theorem leads_channel {e : ChannelProcess.Event} {channel : ChannelProcess} {events : List CallEvent}
    (hpeer : x.channelEnd.peer = some .channel) (hstep : x.channel.step e = some channel)
    (hsized : x.channel.Sized e) (hseen : x.channel.seen l.channel e = events) :
    l.Leads x [.channel l.channel e] { x with channel, trace := x.trace ++ events } := by
  refine .one fun s hs => ?_
  subst hs hseen
  refine ⟨hsized, (s.setChannel l.channel channel).see ((s.channels l.channel).seen l.channel e), ?_, ?_⟩
  · have hpeer' : (s.connections l.channel).peer = some .channel := hpeer
    have hstep' : (s.channels l.channel).step e = some channel := hstep
    rw [Deployment.step, if_pos hpeer', hstep']
    rfl
  · rw [view_see, view_setChannel]
    rfl

/-- The server takes a step. -/
theorem leads_server {e : ServerProcess.Event} {server : ServerProcess} {events : List CallEvent}
    (hstep : x.server.step e = some server) (hsized : x.server.Sized e)
    (hseen : ServerProcess.seen (site.linkAddr l.index) x.server server = events) :
    l.Leads x [.server l.index e] { x with server, trace := x.trace ++ events } := by
  refine .one fun s hs => ?_
  subst hs hseen
  refine ⟨hsized, (s.setServer l.index server).see
    (ServerProcess.seen (site.linkAddr l.index) (s.servers l.index) server), ?_, ?_⟩
  · have hstep' : (s.servers l.index).step e = some server := hstep
    rw [Deployment.step, hstep']
    rfl
  · rw [view_see, view_setServer]
    rfl

/-- A step of the channel of which nothing is seen. -/
theorem leads_channel_quiet {e : ChannelProcess.Event} {channel : ChannelProcess}
    (hpeer : x.channelEnd.peer = some .channel) (hstep : x.channel.step e = some channel)
    (hsized : x.channel.Sized e) (hquiet : x.channel.seen l.channel e = []) :
    l.Leads x [.channel l.channel e] { x with channel } := by
  have h : l.Leads x _ { x with channel, trace := x.trace ++ [] } := leads_channel hpeer hstep hsized hquiet
  rwa [List.append_nil] at h

/-- A step of the server of which nothing is seen. -/
theorem leads_server_quiet {e : ServerProcess.Event} {server : ServerProcess} (hstep : x.server.step e = some server)
    (hsized : x.server.Sized e)
    (hquiet : ServerProcess.seen (site.linkAddr l.index) x.server server = []) :
    l.Leads x [.server l.index e] { x with server } := by
  have h : l.Leads x _ { x with server, trace := x.trace ++ [] } := leads_server hstep hsized hquiet
  rwa [List.append_nil] at h

/-! ## Steps of the network -/

omit [FrNet] [Serializer] in
theorem handedOver_channel {s : Deployment} {addr : Addr} (hpeer : (s.connections addr).peer = some .channel) :
    s.handedOver addr = (s.channels addr).rpcNet.sent := by
  rw [handedOver, hpeer]

omit [FrNet] [Serializer] in
theorem handedOver_server {s : Deployment} {addr : Addr} {index route : Nat} {client : RpcServerRouteClient}
    (hpeer : (s.connections addr).peer = some (.server index route))
    (hclient : (s.servers index).server.rpcNet.routeClientList[route]? = some client) :
    s.handedOver addr = client.sent := by
  rw [handedOver, hpeer]
  simp only [hclient]
  rfl

omit [FrNet] [Serializer] in
/-- The next packet of a peer is on its way. -/
theorem takeUp_calm {s : Deployment} {addr : Addr} {peer : Peer} {k : Nat} {packet : Bytes}
    (hconnection : s.connections addr = .calm peer k) (hsent : (s.handedOver addr)[k]? = some packet) :
    s.takeUp addr true
      = some (s.setConnection addr { Connection.calm peer (k + 1) with up := Wire.empty.send packet }) := by
  rw [Deployment.takeUp, hconnection]
  show (s.handedOver addr)[k]?.map _ = _
  rw [hsent]
  rfl

omit [Serializer] in
/-- The gateway handles what is on its way. -/
theorem receiveUp_calm {s : Deployment} {addr : Addr} {peer : Peer} {k : Nat} {packet : Bytes}
    {r : RpcRoute} {log : List RpcRoute.Dispatch}
    (hconnection : s.connections addr = { Connection.calm peer k with up := Wire.empty.send packet })
    (hreceive : RpcRoute.onReceive (s.routes addr.gateway, []) addr.socket packet
      = ⟨(r, log), packet.length, .ok ()⟩) :
    ((s.connections addr).up.arrive packet.length).unread = packet ∧
    s.receiveUp addr packet.length
      = some ((s.setConnection addr (.calm peer k)).setRoute addr.gateway r) := by
  have harrive : (s.connections addr).up.arrive packet.length = ⟨packet, []⟩ := by
    rw [hconnection]
    exact Wire.arrive_send_empty packet
  refine ⟨congrArg Wire.unread harrive, ?_⟩
  rw [Deployment.receiveUp, harrive]
  dsimp only
  rw [hreceive, Wire.drop_all, hconnection]
  rfl

/-- **A packet that the channel has handed over goes up.** -/
theorem leads_upChannel {k : Nat} {packet : Bytes} {r : RpcRoute} {log : List RpcRoute.Dispatch}
    (hconnection : x.channelEnd = .calm .channel k) (hsent : x.channel.rpcNet.sent[k]? = some packet)
    (hlimit : packet.length < 2 ^ 31)
    (hreceive : RpcRoute.onReceive (x.gateway, []) l.channel.socket packet = ⟨(r, log), packet.length, .ok ()⟩) :
    l.Leads x [.takeUp l.channel true, .receiveUp l.channel packet.length]
      { x with gateway := r, channelEnd := .calm .channel (k + 1) } := by
  have htake : l.Leads x [.takeUp l.channel true]
      { x with channelEnd := { Connection.calm .channel (k + 1) with up := Wire.empty.send packet } } := by
    refine .one fun s hs => ?_
    subst hs
    refine ⟨trivial, _, takeUp_calm hconnection ?_, view_setChannelEnd l s _⟩
    rw [handedOver_channel (congrArg Connection.peer hconnection)]
    exact hsent
  refine htake.trans (.one fun s hs => ?_)
  have hend : s.connections l.channel
      = { Connection.calm .channel (k + 1) with up := Wire.empty.send packet } := congrArg View.channelEnd hs
  have hgateway : s.routes l.channel.gateway = x.gateway := congrArg View.gateway hs
  obtain ⟨hunread, hstep⟩ := receiveUp_calm hend (hgateway ▸ hreceive)
  refine ⟨?_, _, hstep, ?_⟩
  · show ((s.connections l.channel).up.arrive packet.length).unread.length < 2 ^ 31
    rw [hunread]
    exact hlimit
  · rw [view_setRoute, view_setChannelEnd, hs]

/-- **A packet that the server has handed over goes up.** -/
theorem leads_upServer {k : Nat} {client : RpcServerRouteClient} {packet : Bytes} {r : RpcRoute}
    {log : List RpcRoute.Dispatch} (hconnection : x.serverEnd = .calm (.server l.index l.route) k)
    (hclient : x.server.server.rpcNet.routeClientList[l.route]? = some client)
    (hsent : client.sent[k]? = some packet) (hlimit : packet.length < 2 ^ 31)
    (hreceive : RpcRoute.onReceive (x.gateway, []) l.server.socket packet = ⟨(r, log), packet.length, .ok ()⟩) :
    l.Leads x [.takeUp l.server true, .receiveUp l.server packet.length]
      { x with gateway := r, serverEnd := .calm (.server l.index l.route) (k + 1) } := by
  have htake : l.Leads x [.takeUp l.server true]
      { x with
        serverEnd := { Connection.calm (.server l.index l.route) (k + 1) with up := Wire.empty.send packet } } := by
    refine .one fun s hs => ?_
    subst hs
    refine ⟨trivial, _, takeUp_calm hconnection ?_, view_setServerEnd l s _⟩
    rw [handedOver_server (congrArg Connection.peer hconnection) hclient]
    exact hsent
  refine htake.trans (.one fun s hs => ?_)
  have hend : s.connections l.server
      = { Connection.calm (.server l.index l.route) (k + 1) with up := Wire.empty.send packet } :=
    congrArg View.serverEnd hs
  have hgateway : s.routes l.server.gateway = x.gateway := by
    rw [l.gateway]
    exact congrArg View.gateway hs
  obtain ⟨hunread, hstep⟩ := receiveUp_calm hend (hgateway ▸ hreceive)
  refine ⟨?_, _, hstep, ?_⟩
  · show ((s.connections l.server).up.arrive packet.length).unread.length < 2 ^ 31
    rw [hunread]
    exact hlimit
  · rw [l.gateway, view_setRoute, view_setServerEnd, hs]

omit [FrNet] [Serializer] in
/-- What the gateway asks for next is on its way. -/
theorem carry_calm {s : Deployment} {addr : Addr} {peer : Peer} {k : Nat} {packet : Bytes}
    (hconnection : s.connections addr = .calm peer k)
    (hcall : (s.routes addr.gateway).netCalls[s.carried addr.gateway]? = some (.send addr.socket (some packet))) :
    s.carry addr.gateway true
      = some { s.setConnection addr { Connection.calm peer k with down := Wire.empty.send packet } with
          carried := Function.update s.carried addr.gateway (s.carried addr.gateway + 1) } := by
  have hopen : (s.connections addr).gatewaySide = .opened := by
    rw [hconnection]
    rfl
  have hcarry : s.carryCall addr.gateway true (.send addr.socket (some packet))
      = s.setConnection addr { Connection.calm peer k with down := Wire.empty.send packet } := by
    unfold carryCall
    dsimp only
    rw [if_pos ⟨rfl, hopen⟩, hconnection]
    rfl
  rw [carry, hcall]
  simp only [Option.map_some, hcarry]

omit [FrNet] [Serializer] in
theorem view_carried (s : Deployment) (n : Nat) :
    l.view { s with carried := Function.update s.carried l.channel.gateway n } = { l.view s with carried := n } := by
  simp [view]

/-- **What the gateway sends to the channel comes down.** -/
theorem leads_downChannel {k : Nat} {packet : Bytes} {rpcNet : RpcChannelRoute}
    (hconnection : x.channelEnd = .calm .channel k)
    (hcall : x.gateway.netCalls[x.carried]? = some (.send l.channel.socket (some packet)))
    (hlimit : packet.length < 2 ^ 31)
    (hreceive : x.channel.rpcNet.onReceive packet = ⟨rpcNet, packet.length, .ok ()⟩) :
    l.Leads x [.carry l.channel.gateway true, .receiveDown l.channel packet.length]
      { x with carried := x.carried + 1, channel := x.channel.setRpcNet rpcNet } := by
  have hcarry : l.Leads x [.carry l.channel.gateway true]
      { x with
        carried := x.carried + 1
        channelEnd := { Connection.calm .channel k with down := Wire.empty.send packet } } := by
    refine .one fun s hs => ?_
    subst hs
    refine ⟨trivial, _, carry_calm hconnection hcall, (view_carried _ _).trans ?_⟩
    rw [view_setChannelEnd]
    rfl
  refine hcarry.trans (.one fun s hs => ?_)
  have hend : s.connections l.channel = { Connection.calm .channel k with down := Wire.empty.send packet } :=
    congrArg View.channelEnd hs
  have hchannel : s.channels l.channel = x.channel := congrArg View.channel hs
  have harrive : (s.connections l.channel).down.arrive packet.length = ⟨packet, []⟩ := by
    rw [hend]
    exact Wire.arrive_send_empty packet
  refine ⟨?_, (s.setConnection l.channel (.calm .channel k)).setChannel l.channel (x.channel.setRpcNet rpcNet),
    ?_, ?_⟩
  · show ((s.connections l.channel).down.arrive packet.length).unread.length < 2 ^ 31
    rw [harrive]
    exact hlimit
  · rw [Deployment.step, receiveDown, harrive]
    simp only [hend, hchannel, hreceive, Wire.drop_all]
    rfl
  · rw [view_setChannel, view_setChannelEnd, hs, hconnection]

/-- **What the gateway sends to the server comes down.** -/
theorem leads_downServer {k : Nat} {packet : Bytes} {rpcNet : RpcServerRoute}
    (hconnection : x.serverEnd = .calm (.server l.index l.route) k)
    (hcall : x.gateway.netCalls[x.carried]? = some (.send l.server.socket (some packet)))
    (hlimit : packet.length < 2 ^ 31)
    (hreceive : x.server.server.rpcNet.onReceive (UInt32.ofNat l.route) packet
      = ⟨rpcNet, packet.length, .ok ()⟩) :
    l.Leads x [.carry l.channel.gateway true, .receiveDown l.server packet.length]
      { x with carried := x.carried + 1, server := x.server.setRpcNet rpcNet } := by
  have hcarry : l.Leads x [.carry l.channel.gateway true]
      { x with
        carried := x.carried + 1
        serverEnd := { Connection.calm (.server l.index l.route) k with down := Wire.empty.send packet } } := by
    refine .one fun s hs => ?_
    subst hs
    have hcall' : (s.routes l.server.gateway).netCalls[s.carried l.server.gateway]?
        = some (.send l.server.socket (some packet)) := by
      rw [l.gateway]
      exact hcall
    have hstep := carry_calm hconnection hcall'
    rw [l.gateway] at hstep
    refine ⟨trivial, _, hstep, (view_carried _ _).trans ?_⟩
    rw [view_setServerEnd]
    rfl
  refine hcarry.trans (.one fun s hs => ?_)
  have hend : s.connections l.server
      = { Connection.calm (.server l.index l.route) k with down := Wire.empty.send packet } :=
    congrArg View.serverEnd hs
  have hserver : s.servers l.index = x.server := congrArg View.server hs
  have harrive : (s.connections l.server).down.arrive packet.length = ⟨packet, []⟩ := by
    rw [hend]
    exact Wire.arrive_send_empty packet
  refine ⟨?_, (s.setConnection l.server (.calm (.server l.index l.route) k)).setServer l.index
    (x.server.setRpcNet rpcNet), ?_, ?_⟩
  · show ((s.connections l.server).down.arrive packet.length).unread.length < 2 ^ 31
    rw [harrive]
    exact hlimit
  · rw [Deployment.step, receiveDown, harrive]
    simp only [hend, Connection.calm, hserver, hreceive, Wire.drop_all]
    rfl
  · rw [view_setServer, view_setServerEnd, hs, hconnection]

end Line

end Frrpc
