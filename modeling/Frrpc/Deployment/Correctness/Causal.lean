import Frrpc.Deployment.Correctness.Client
import Frrpc.Deployment.Correctness.Gateway
import Frrpc.Deployment.Correctness.ServerProcess

/-!
# `Deployment.Correctness.Causal` — everything has its cause

`Causal` puts the parties' invariants together with what is on the wires: in both directions of every
connection there are whole frames that its sender had a reason for, and every event that was seen has its
cause. It is kept by every step (`Causal.step`), whatever the network loses and however it cuts the streams,
if link ids fit, no socket is given again, and what the processes are asked to send can be framed
(`Deployment.Sized`).
-/

namespace Frrpc

open Lib

namespace Deployment

/-- Who is connected, and what was seen. -/
def past (s : Deployment) : Past := ⟨fun addr => (s.connections addr).peer, s.trace⟩

/-- What the environment of a deployment has to see to: a channel gets a socket that fits into the link ids,
    no socket is given again after a disconnect, what is sent fits into the fields of a frame, and an
    `OnReceive` gets less than `2 ^ 31` bytes. -/
def Sized (site : Site) (s : Deployment) : Event → Prop
  | .connectChannel addr => site.Fits addr ∧ (s.connections addr).peer = none
  | .connectServer addr _ _ => (s.connections addr).peer = none
  | .receiveUp addr n => ((s.connections addr).up.arrive n).unread.length < 2 ^ 31
  | .receiveDown addr n => ((s.connections addr).down.arrive n).unread.length < 2 ^ 31
  | .channel addr e => (s.channels addr).Sized e
  | .server index e => (s.servers index).Sized e
  | _ => True

end Deployment

/-- A connection of a peer that has its place in the deployment, with frames on both its wires. -/
structure ConnectionOk (site : Site) (p : Past) (addr : Addr) (connection : Connection) : Prop where
  accepted : connection.gatewaySide ≠ .idle → connection.peer ≠ none
  socket : connection.peer ≠ none → addr.socket ≠ socketNull
  channel : connection.peer = some .channel → site.Fits addr
  server : ∀ index route, connection.peer = some (.server index route) →
    (site.gateList index)[route]? = some addr.gateway
  up : Wire.Carries Frame.bytes (Frame.Says (PeerSends p addr)) connection.up
  down : Wire.Carries Frame.bytes (Frame.Says (GatewaySends p addr)) connection.down

theorem ConnectionOk.mono {site : Site} {p p' : Past} {addr : Addr} {connection : Connection}
    (h : ConnectionOk site p addr connection) (hgrows : p.Grows p') : ConnectionOk site p' addr connection where
  accepted := h.accepted
  socket := h.socket
  channel := h.channel
  server := h.server
  up := h.up.mono fun _ hsaid => hsaid.mono fun _ hsends => hsends.mono hgrows
  down := h.down.mono fun _ hsaid => hsaid.mono fun _ hsends => hsends.mono hgrows

/-- **The invariant of a deployment.** -/
structure Causal (site : Site) (s : Deployment) : Prop where
  lawful : RemoteCall.Lawful Channel.requestKey s.trace
  connections : ∀ addr, ConnectionOk site s.past addr (s.connections addr)
  gateways : ∀ gateway, GatewayOk s.past gateway (s.routes gateway)
  channels : ∀ addr, ChannelOk s.past addr (s.channels addr)
  completed : ∀ addr ticket, RemoteCall.Completed s.trace addr ticket →
    ticket ∈ (s.channels addr).threads.called.map ChannelCallback.ptr
  servers : ∀ index, ServerOk site s.past index (s.servers index)

namespace Causal

variable {site : Site} {s s' : Deployment}

theorem init : Causal site (.started site) where
  lawful := atEach_nil
  connections addr := ⟨fun hside => absurd rfl hside, fun hpeer => absurd rfl hpeer, nofun, nofun,
    Wire.carries_empty, Wire.carries_empty⟩
  gateways gateway := .init
  channels addr := .started _ _ _
  completed addr ticket hcompleted := by
    obtain ⟨_, _, hmem⟩ := hcompleted
    cases hmem
  servers index := .started _ _

/-- Every channel's socket fits. -/
theorem fits (h : Causal site s) (addr : Addr) (hpeer : s.past.peer addr = some .channel) : site.Fits addr :=
  (h.connections addr).channel hpeer

/-! ## Changes of one party -/

/-- A change of one connection, which stays that of its peer. -/
theorem setConnection (h : Causal site s) (addr : Addr) (connection : Connection)
    (hpeer : connection.peer = (s.connections addr).peer)
    (hconnection : ConnectionOk site s.past addr connection) : Causal site (s.setConnection addr connection) := by
  have hpast : (s.setConnection addr connection).past = s.past := by
    refine congrArg (Past.mk · s.trace) (funext ?_)
    exact (Function.forall_update_iff s.connections
      (p := fun addr connection => connection.peer = (s.connections addr).peer)).mpr ⟨hpeer, fun _ _ => rfl⟩
  refine ⟨h.lawful, ?_, ?_, ?_, h.completed, ?_⟩
  · rw [hpast]
    exact (Function.forall_update_iff s.connections (p := ConnectionOk site s.past)).mpr
      ⟨hconnection, fun addr _ => h.connections addr⟩
  · rw [hpast]
    exact h.gateways
  · rw [hpast]
    exact h.channels
  · rw [hpast]
    exact h.servers

theorem setRoute (h : Causal site s) {gateway : Nat} {route : RpcRoute}
    (hroute : GatewayOk s.past gateway route) : Causal site (s.setRoute gateway route) where
  lawful := h.lawful
  connections := h.connections
  gateways := (Function.forall_update_iff s.routes (p := GatewayOk s.past)).mpr
    ⟨hroute, fun gateway _ => h.gateways gateway⟩
  channels := h.channels
  completed := h.completed
  servers := h.servers

theorem setChannel (h : Causal site s) {addr : Addr} {channel : ChannelProcess}
    (hchannel : ChannelOk s.past addr channel)
    (hcalled : channel.threads.called = (s.channels addr).threads.called) :
    Causal site (s.setChannel addr channel) where
  lawful := h.lawful
  connections := h.connections
  gateways := h.gateways
  channels := (Function.forall_update_iff s.channels (p := ChannelOk s.past)).mpr
    ⟨hchannel, fun addr _ => h.channels addr⟩
  completed := by
    refine (Function.forall_update_iff s.channels (p := fun addr channel => ∀ ticket,
      RemoteCall.Completed s.trace addr ticket → ticket ∈ channel.threads.called.map ChannelCallback.ptr)).mpr
      ⟨?_, fun addr _ => h.completed addr⟩
    rw [hcalled]
    exact h.completed addr
  servers := h.servers

theorem setServer (h : Causal site s) {index : Nat} {server : ServerProcess}
    (hserver : ServerOk site s.past index server) : Causal site (s.setServer index server) where
  lawful := h.lawful
  connections := h.connections
  gateways := h.gateways
  channels := h.channels
  completed := h.completed
  servers := (Function.forall_update_iff s.servers (p := ServerOk site s.past)).mpr
    ⟨hserver, fun index _ => h.servers index⟩

/-! ## Connecting and disconnecting -/

/-- Nothing is forgotten when somebody connects. -/
theorem grows_connect {addr : Addr} (hnew : (s.connections addr).peer = none) (connection : Connection) :
    s.past.Grows (s.setConnection addr connection).past where
  peer addr' peer hpeer := by
    have hne : addr' ≠ addr := by
      rintro rfl
      rw [show s.past.peer addr' = (s.connections addr').peer from rfl, hnew] at hpeer
      cases hpeer
    show (Function.update s.connections addr connection addr').peer = some peer
    rw [Function.update_of_ne hne]
    exact hpeer
  trace _ hmem := hmem

/-- Somebody connects with a socket that nobody has had. -/
theorem connect (h : Causal site s) {addr : Addr} (hnew : (s.connections addr).peer = none) (peer : Peer)
    (hsocket : addr.socket ≠ socketNull) (hchannel : peer = .channel → site.Fits addr)
    (hserver : ∀ index route, peer = .server index route →
      (site.gateList index)[route]? = some addr.gateway) :
    Causal site (s.setConnection addr (.made peer)) := by
  have hgrows := grows_connect hnew (.made peer)
  refine ⟨h.lawful, ?_, fun gateway => (h.gateways gateway).mono hgrows,
    fun addr' => (h.channels addr').mono hgrows, h.completed, fun index => (h.servers index).mono hgrows⟩
  refine (Function.forall_update_iff s.connections (p := ConnectionOk site _)).mpr
    ⟨?_, fun addr' _ => (h.connections addr').mono hgrows⟩
  exact ⟨fun hside => absurd rfl hside, fun _ => hsocket, fun heq => hchannel (Option.some.inj heq),
    fun index route heq => hserver index route (Option.some.inj heq), Wire.carries_empty, Wire.carries_empty⟩

theorem connectChannel (h : Causal site s) {addr : Addr} (hfits : site.Fits addr)
    (hnew : (s.connections addr).peer = none) (hstep : s.connectChannel site addr = some s') :
    Causal site s' := by
  unfold Deployment.connectChannel at hstep
  dsimp only at hstep
  split at hstep
  · next hfree =>
    obtain rfl := Option.some.inj hstep
    have hconnected := h.connect hnew .channel hfree.2 (fun _ => hfits) nofun
    exact hconnected.setChannel ((hconnected.channels addr).onConnect addr.socket) rfl
  · cases hstep

theorem connectServer (h : Causal site s) {addr : Addr} {index route : Nat}
    (hnew : (s.connections addr).peer = none) (hstep : s.connectServer site addr index route = some s') :
    Causal site s' := by
  unfold Deployment.connectServer at hstep
  dsimp only at hstep
  split at hstep
  · next hfree =>
    obtain ⟨_, hsocket, hroute, _⟩ := hfree
    obtain rfl := Option.some.inj hstep
    have hconnected := h.connect hnew (.server index route) hsocket nofun (by rintro _ _ ⟨⟩; exact hroute)
    have hserver := hconnected.servers index
    exact hconnected.setServer ⟨hserver.net, hserver.workers, hserver.taken⟩
  · cases hstep

/-- Another state of an end of a connection. -/
theorem setSide (h : Causal site s) (addr : Addr) (gatewaySide peerSide : Side)
    (haccepted : gatewaySide ≠ .idle → (s.connections addr).peer ≠ none) :
    Causal site (s.setConnection addr { s.connections addr with gatewaySide, peerSide }) := by
  have hold := h.connections addr
  exact h.setConnection addr _ rfl ⟨haccepted, hold.socket, hold.channel, hold.server, hold.up, hold.down⟩

theorem accept (h : Causal site s) {addr : Addr} (hstep : s.accept addr = some s') : Causal site s' := by
  unfold Deployment.accept at hstep
  split at hstep
  · next hpeer =>
    obtain rfl := Option.some.inj hstep
    have hside := h.setSide addr .opened (s.connections addr).peerSide fun _ => hpeer.1
    exact hside.setRoute ((hside.gateways addr.gateway).onConnect addr.socket)
  · cases hstep

/-- A connection that is in use has a peer. -/
theorem peer_ne_none (h : Causal site s) {addr : Addr} {side : Side} (hside : side ≠ .idle)
    (heq : (s.connections addr).gatewaySide = side) : (s.connections addr).peer ≠ none :=
  (h.connections addr).accepted (heq ▸ hside)

theorem endDown (h : Causal site s) {addr : Addr} (hstep : s.endDown addr = some s') : Causal site s' := by
  unfold Deployment.endDown at hstep
  dsimp only at hstep
  split at hstep
  · have hside := h.setSide addr (s.connections addr).gatewaySide .closed (h.connections addr).accepted
    split at hstep
    · obtain rfl := Option.some.inj hstep
      exact hside.setChannel ((hside.channels addr).onDisconnect addr.socket) rfl
    · obtain rfl := Option.some.inj hstep
      exact hside
  · cases hstep

theorem endUp [FrNet] (h : Causal site s) {addr : Addr} (hstep : s.endUp addr = some s') : Causal site s' := by
  unfold Deployment.endUp at hstep
  dsimp only at hstep
  split at hstep
  · next hopen =>
    obtain rfl := Option.some.inj hstep
    have hpeer : (s.connections addr).peer ≠ none :=
      hopen.elim (h.peer_ne_none (by decide)) (h.peer_ne_none (by decide))
    have hside := h.setSide addr .closed (s.connections addr).peerSide fun _ => hpeer
    exact hside.setRoute ((hside.gateways addr.gateway).onDisconnect addr.socket)
  · cases hstep

/-! ## The network -/

/-- **What a peer hands over are its frames.** -/
theorem handedOver (h : Causal site s) {addr : Addr} {packet : Bytes} (hmem : packet ∈ s.handedOver addr) :
    ∃ f : Frame, packet = f.bytes ∧ f.Says (PeerSends s.past addr) := by
  unfold Deployment.handedOver at hmem
  split at hmem
  · cases hmem
  · next hpeer =>
    obtain ⟨f, hf, hsaid⟩ := (h.channels addr).net.sends packet hmem
    exact ⟨f, hf, hsaid.mono fun _ hsends => .channel hpeer hsends⟩
  · next index route hpeer =>
    cases hclient : (s.servers index).server.rpcNet.routeClientList[route]? with
    | none =>
      rw [hclient] at hmem
      cases hmem
    | some client =>
      rw [hclient] at hmem
      have hgateway := (h.connections addr).server index route hpeer
      obtain ⟨f, hf, hsaid⟩ := (h.servers index).net.sends route client addr.gateway hclient hgateway packet hmem
      exact ⟨f, hf, hsaid.mono fun _ hsends => .server ⟨index, route, hpeer⟩ hsends⟩

theorem takeUp (h : Causal site s) {addr : Addr} {arrives : Bool} (hstep : s.takeUp addr arrives = some s') :
    Causal site s' := by
  obtain ⟨packet, hpacket, rfl⟩ := Option.map_eq_some_iff.mp hstep
  have hold := h.connections addr
  refine h.setConnection addr _ rfl ⟨hold.accepted, hold.socket, hold.channel, hold.server, ?_, hold.down⟩
  dsimp only
  split
  · obtain ⟨f, rfl, hsaid⟩ := h.handedOver (List.mem_of_getElem? hpacket)
    exact hold.up.send hsaid
  · exact hold.up

/-- What a gateway asks for is for whom it is sent. -/
theorem carryCall (h : Causal site s) {gateway : Nat} (arrives : Bool) {call : NetCall}
    (hcall : call ∈ (s.routes gateway).netCalls) : Causal site (s.carryCall gateway arrives call) := by
  cases call with
  | send socket packet =>
    unfold Deployment.carryCall
    dsimp only
    split
    · next hopen =>
      have hold := h.connections ⟨gateway, socket⟩
      refine h.setConnection ⟨gateway, socket⟩ _ rfl
        ⟨hold.accepted, hold.socket, hold.channel, hold.server, hold.up, ?_⟩
      cases packet with
      | none =>
        rw [Option.getD_none, Wire.send, List.append_nil]
        exact hold.down
      | some packet =>
        obtain ⟨f, rfl, hsaid⟩ := (h.gateways gateway).sends socket packet hcall
        exact hold.down.send (hsaid (hold.socket (h.peer_ne_none (by decide) hopen.2)))
    · exact h
  | disconnect socket =>
    unfold Deployment.carryCall
    dsimp only
    split
    · next hopen => exact h.setSide ⟨gateway, socket⟩ .closing _ fun _ => h.peer_ne_none (by decide) hopen
    · exact h

theorem carry (h : Causal site s) {gateway : Nat} {arrives : Bool}
    (hstep : s.carry gateway arrives = some s') : Causal site s' := by
  obtain ⟨call, hcall, rfl⟩ := Option.map_eq_some_iff.mp hstep
  have hcarried := h.carryCall arrives (List.mem_of_getElem? hcall)
  exact ⟨hcarried.lawful, hcarried.connections, hcarried.gateways, hcarried.channels, hcarried.completed,
    hcarried.servers⟩

/-! ## Receiving -/

/-- A part of what comes in is taken by the gateway, and what is left is a stream of frames. -/
theorem drop_up (h : Causal site s) {addr : Addr} {side : Side} {up : Wire UInt8}
    (hpeer : (s.connections addr).peer ≠ none)
    (hup : Wire.Carries Frame.bytes (Frame.Says (PeerSends s.past addr)) up) :
    Causal site (s.setConnection addr { s.connections addr with up, gatewaySide := side }) := by
  have hold := h.connections addr
  exact h.setConnection addr _ rfl ⟨fun _ => hpeer, hold.socket, hold.channel, hold.server, hup, hold.down⟩

theorem drop_down (h : Causal site s) {addr : Addr} {side : Side} {down : Wire UInt8}
    (hdown : Wire.Carries Frame.bytes (Frame.Says (GatewaySends s.past addr)) down) :
    Causal site (s.setConnection addr { s.connections addr with down, peerSide := side }) := by
  have hold := h.connections addr
  exact h.setConnection addr _ rfl
    ⟨hold.accepted, hold.socket, hold.channel, hold.server, hold.up, hdown⟩

variable [FrNet]

/-- **A gateway takes whole frames** from its part of a stream, and handles them. -/
theorem receiveUp (h : Causal site s) {addr : Addr} {n : Nat}
    (hlimit : ((s.connections addr).up.arrive n).unread.length < 2 ^ 31)
    (hstep : s.receiveUp addr n = some s') : Causal site s' := by
  unfold Deployment.receiveUp at hstep
  dsimp only at hstep
  split at hstep
  · next hopen =>
    obtain ⟨side, _, rfl⟩ := Option.map_eq_some_iff.mp hstep
    obtain ⟨gs, rest, t, hunread, ht, hrest, hP⟩ := ((h.connections addr).up.arrive n).split
    rw [hunread] at hlimit
    have hkept := onReceive_keeps (GatewayOk.handlersKeep s.past addr)
      (fun f hf => hP f (List.mem_append_left rest hf)) ht hlimit
      ((h.gateways addr.gateway).updateSocket addr.socket)
    rw [← hunread] at hkept
    refine (h.setRoute hkept.state).drop_up (h.peer_ne_none (by decide) hopen) ?_
    rcases hkept.readSize with hnone | hall
    · rw [hnone]
      exact Wire.Carries.drop hunread hrest hP (List.nil_append gs).symm
    · rw [hall]
      exact Wire.Carries.drop hunread hrest hP (List.append_nil gs).symm
  · cases hstep

omit [FrNet] in
/-- **An endpoint takes whole frames** from its part of a stream, and queues what they carry. -/
theorem receiveDown (h : Causal site s) {addr : Addr} {n : Nat}
    (hlimit : ((s.connections addr).down.arrive n).unread.length < 2 ^ 31)
    (hstep : s.receiveDown addr n = some s') : Causal site s' := by
  unfold Deployment.receiveDown at hstep
  dsimp only at hstep
  split at hstep
  · obtain ⟨gs, rest, t, hunread, ht, hrest, hP⟩ := ((h.connections addr).down.arrive n).split
    have hgs := fun f hf => hP f (List.mem_append_left rest hf)
    rw [hunread] at hlimit
    split at hstep
    · cases hstep
    · next hpeer =>
      obtain ⟨side, _, rfl⟩ := Option.map_eq_some_iff.mp hstep
      have hread := RpcChannelRoute.onReceive_keeps hgs ht hlimit
        (fun hsends _ hnet hdispatch => hnet.dispatch hpeer hsends hdispatch) (h.channels addr).net
      rw [← hunread] at hread
      refine (h.setChannel ((h.channels addr).setNet hread.state) rfl).drop_down ?_
      obtain ⟨hs, later, hsplit, hsize⟩ := hread.frames
      rw [hsize, Nat.zero_add]
      exact Wire.Carries.drop hunread hrest hP hsplit
    · next index route hpeer =>
      obtain ⟨side, _, rfl⟩ := Option.map_eq_some_iff.mp hstep
      have hroute := (h.connections addr).server index route hpeer
      have hread := RpcServerRoute.onReceive_keeps hgs ht hlimit
        (fun hsends hbuilt hnet hdispatch => hnet.dispatch h.fits hpeer hroute hsends hbuilt hdispatch)
        (h.servers index).net
      rw [← hunread] at hread
      refine (h.setServer ((h.servers index).setNet hread.state)).drop_down ?_
      obtain ⟨hs, later, hsplit, hsize⟩ := hread.frames
      rw [hsize, Nat.zero_add]
      exact Wire.Carries.drop hunread hrest hP hsplit
  · cases hstep

/-! ## The processes -/

omit [FrNet] in
/-- Nothing is forgotten when more is seen. -/
theorem grows_see (s : Deployment) (events : List CallEvent) :
    s.past.Grows { s.past with trace := s.trace ++ events } :=
  ⟨fun _ _ hpeer => hpeer, fun _ hmem => List.mem_append_left events hmem⟩

omit [FrNet] in
/-- A call that has completed is one that had, or one that is seen to. -/
theorem completed_append {trace events : List CallEvent} {addr : Addr} {ticket : Nat}
    (h : RemoteCall.Completed (trace ++ events) addr ticket) :
    RemoteCall.Completed trace addr ticket ∨ RemoteCall.Completed events addr ticket := by
  obtain ⟨id, reply, hmem⟩ := h
  exact (List.mem_append.mp hmem).imp (fun hold => ⟨id, reply, hold⟩) fun hnew => ⟨id, reply, hnew⟩

/-- **A channel takes a step.** -/
theorem channel (h : Causal site s) {addr : Addr} {e : ChannelProcess.Event} {channel : ChannelProcess}
    (hpeer : (s.connections addr).peer = some .channel) (hsized : (s.channels addr).Sized e)
    (hstep : (s.channels addr).step e = some channel) :
    Causal site ((s.setChannel addr channel).see ((s.channels addr).seen addr e)) := by
  have hgrows := grows_see s ((s.channels addr).seen addr e)
  refine ⟨ChannelProcess.lawful_seen (h.channels addr) h.lawful (h.completed addr) e,
    fun addr' => (h.connections addr').mono hgrows, fun gateway => (h.gateways gateway).mono hgrows, ?_, ?_,
    fun index => (h.servers index).mono hgrows⟩
  · have hok : ChannelOk _ addr channel := ((h.channels addr).mono hgrows).step hpeer hsized
      (fun call hmem => List.mem_append_right s.trace hmem) hstep
    exact (Function.forall_update_iff s.channels (p := ChannelOk _)).mpr
      ⟨hok, fun addr' _ => (h.channels addr').mono hgrows⟩
  · -- what completes now has its callback called now
    refine (Function.forall_update_iff s.channels (p := fun addr' channel => ∀ ticket,
      RemoteCall.Completed (s.trace ++ (s.channels addr).seen addr e) addr' ticket →
        ticket ∈ channel.threads.called.map ChannelCallback.ptr)).mpr
      ⟨fun ticket hcompleted => ?_, fun addr' hne ticket hcompleted => ?_⟩
    · rcases completed_append hcompleted with hold | hnew
      · exact ((ChannelProcess.called_grows hstep).map _).subset (h.completed addr ticket hold)
      · exact (ChannelProcess.completed_seen hstep hnew).2
    · rcases completed_append hcompleted with hold | hnew
      · exact h.completed addr' ticket hold
      · exact absurd (ChannelProcess.completed_seen hstep hnew).1 hne

variable [Serializer]

/-- **A server takes a step.** -/
theorem server (h : Causal site s) {index : Nat} {e : ServerProcess.Event} {server : ServerProcess}
    (hsized : (s.servers index).Sized e) (hstep : (s.servers index).step e = some server) :
    Causal site ((s.setServer index server).see
      (ServerProcess.seen (site.linkAddr index) (s.servers index) server)) := by
  have hgrows := grows_see s (ServerProcess.seen (site.linkAddr index) (s.servers index) server)
  refine ⟨(h.servers index).lawful_seen h.lawful hstep, fun addr => (h.connections addr).mono hgrows,
    fun gateway => (h.gateways gateway).mono hgrows, fun addr => (h.channels addr).mono hgrows, ?_, ?_⟩
  · intro addr ticket hcompleted
    rcases completed_append hcompleted with hold | hnew
    · exact h.completed addr ticket hold
    · exact absurd hnew (ServerProcess.not_completed_seen _ _ _ _)
  · have hok := (h.servers index).step hsized hgrows (fun call hmem => List.mem_append_right s.trace hmem) hstep
    exact (Function.forall_update_iff s.servers (p := ServerOk site _)).mpr
      ⟨hok, fun index' _ => (h.servers index').mono hgrows⟩

/-! ## Every step -/

/-- **Every step of a deployment keeps the invariant.** -/
theorem step (h : Causal site s) {e : Deployment.Event} (hsized : s.Sized site e)
    (hstep : s.step site e = some s') : Causal site s' := by
  cases e with
  | connectChannel addr => exact h.connectChannel hsized.1 hsized.2 hstep
  | connectServer addr index route => exact h.connectServer hsized hstep
  | accept addr => exact h.accept hstep
  | takeUp addr arrives => exact h.takeUp hstep
  | carry gateway arrives => exact h.carry hstep
  | receiveUp addr n => exact h.receiveUp hsized hstep
  | receiveDown addr n => exact h.receiveDown hsized hstep
  | endUp addr => exact h.endUp hstep
  | endDown addr => exact h.endDown hstep
  | checkHeart gateway =>
    obtain rfl := Option.some.inj hstep
    exact h.setRoute (h.gateways gateway).checkHeart
  | channel addr e =>
    simp only [Deployment.step] at hstep
    split at hstep
    · next hpeer =>
      obtain ⟨channel, hchannel, rfl⟩ := Option.map_eq_some_iff.mp hstep
      exact h.channel hpeer hsized hchannel
    · cases hstep
  | server index e =>
    obtain ⟨server, hserver, rfl⟩ := Option.map_eq_some_iff.mp hstep
    exact h.server hsized hserver

/-- **It holds in every state reached.** -/
theorem of_reaches (hrun : Reaches (Deployment.step site) (Deployment.Sized site) (.started site) s) :
    Causal site s := by
  apply hrun.invariant init
  intro s e s' hsized h hstep
  exact h.step hsized hstep

end Causal

end Frrpc
