import Frrpc.Deployment.Correctness.Endpoint
import Frrpc.Deployment.Correctness.Sending
import Frrpc.Rpc.Correctness.Dispatch

/-!
# `Deployment.Correctness.Serving` — what a server's process holds

A packet that carries a request id came from the channel that its link id names (`Requested`), a work thread
that serves a request has been seen to execute it (`WorkerOk`), and every reply goes to whom it is for.
`ServerOk` states it of a process; each step keeps it, and what is seen of the step has its cause.
-/

namespace Frrpc

open Lib Std

/-! ## Link ids -/

/-- The socket of a channel lets every server of its gateway find the channel by the link id. -/
structure Site.Fits (site : Site) (addr : Addr) : Prop where
  pos : 0 < addr.socket.toInt
  linkId : ∀ (index route : Nat), (site.gateList index)[route]? = some addr.gateway →
    LinkIdFits (site.gateList index).length route addr.socket.toInt.toNat

/-- A link id names the gateway at its route id, and its socket there. -/
theorem Site.linkAddr_eq {site : Site} {index i gateway : Nat} {linkId : LinkID} {socket : Socket}
    (hid : (getRouteID (getNumberLength (site.gateList index).length) linkId).map UInt32.toNat = some i)
    (hsocket : getSocket (getNumberLength (site.gateList index).length) linkId = some socket)
    (hgateway : (site.gateList index)[i]? = some gateway) :
    site.linkAddr index linkId = some ⟨gateway, socket⟩ := by
  obtain ⟨routeId, hrouteId, rfl⟩ := Option.map_eq_some_iff.mp hid
  simp only [Site.linkAddr, hrouteId, hsocket, Option.bind_eq_bind, Option.bind_some, hgateway]
  rfl

/-- The link id of a channel leads to the client of its gateway, and to its socket there. -/
theorem Site.Fits.reads {site : Site} {addr : Addr} (h : site.Fits addr) {index route : Nat}
    (hroute : (site.gateList index)[route]? = some addr.gateway) :
    (getRouteID (getNumberLength (site.gateList index).length)
      (buildLinkID (getNumberLength (site.gateList index).length) (UInt32.ofNat route) addr.socket)).map
        UInt32.toNat = some route ∧
    getSocket (getNumberLength (site.gateList index).length)
      (buildLinkID (getNumberLength (site.gateList index).length) (UInt32.ofNat route) addr.socket)
        = some addr.socket := by
  have hlt := (List.getElem?_eq_some_iff.mp hroute).1
  have hbound : addr.socket.toInt.toNat < 2 ^ 31 := by
    have hsocket := addr.socket.toInt_lt
    have hpos := h.pos
    omega
  have hsocket : Int32.ofNat addr.socket.toInt.toNat = addr.socket := by
    rw [← Int32.toInt_inj, Int32.toInt_ofNat_of_lt hbound, Int.toNat_of_nonneg (Int.le_of_lt h.pos)]
  have hreads := (roundTrip_iff hlt hbound).mpr (h.linkId index route hroute)
  rw [hsocket] at hreads
  exact hreads

/-- **A server finds a channel by the link id** that it has given it. -/
theorem Site.Fits.linkAddr {site : Site} {addr : Addr} (h : site.Fits addr) {index route : Nat}
    (hroute : (site.gateList index)[route]? = some addr.gateway) :
    site.linkAddr index
      (buildLinkID (getNumberLength (site.gateList index).length) (UInt32.ofNat route) addr.socket)
        = some addr := by
  obtain ⟨hid, hsocket⟩ := h.reads hroute
  exact Site.linkAddr_eq hid hsocket hroute

/-! ## The connections -/

/-- The link id of a packet that has a request id names the channel that has sent the request. -/
def Requested (site : Site) (p : Past) (index : Nat) (package : RpcPacket) : Prop :=
  package.rpcMeta.rpcRequestMeta.requestId ≠ rpcRequestIdNull →
    ∃ addr, site.linkAddr index package.linkId = some addr ∧
      p.Called addr package.rpcMeta (package.binary.getD [])

/-- What has come in are requests, and what goes out to a gateway is what a server sends. -/
structure ServerNetOk (site : Site) (p : Past) (index : Nat) (s : RpcServerRoute) : Prop where
  routeLength : s.routeLength = getNumberLength (site.gateList index).length
  received : ∀ package ∈ s.packetQueue, Requested site p index package
  sends : ∀ (i : Nat) client gateway, s.routeClientList[i]? = some client →
    (site.gateList index)[i]? = some gateway → ∀ packet ∈ client.sent,
      ∃ f : Frame, packet = f.bytes ∧ f.Says (ServerSends p gateway)

theorem Requested.mono {site : Site} {p p' : Past} {index : Nat} {package : RpcPacket}
    (h : Requested site p index package) (hgrows : p.Grows p') : Requested site p' index package := by
  intro hid
  obtain ⟨addr, haddr, hcalled⟩ := h hid
  exact ⟨addr, haddr, hcalled.mono hgrows⟩

/-- The link id names nobody else. -/
theorem Requested.called {site : Site} {p : Past} {index : Nat} {package : RpcPacket}
    (h : Requested site p index package) (hid : package.rpcMeta.rpcRequestMeta.requestId ≠ rpcRequestIdNull)
    {addr : Addr} (haddr : site.linkAddr index package.linkId = some addr) :
    p.Called addr package.rpcMeta (package.binary.getD []) := by
  obtain ⟨addr', haddr', hcalled⟩ := h hid
  obtain rfl := Option.some.inj (haddr'.symm.trans haddr)
  exact hcalled

/-- A copy is the packet itself. -/
theorem RpcPacket.eq_of_copy {packet copy : RpcPacket} (h : packet.copy = .ok copy) : copy = packet := by
  obtain ⟨linkId, netEvent, rpcMeta, binary⟩ := packet
  cases binary with
  | none => cases h
  | some binary => exact (Except.ok.inj h).symm

namespace ServerNetOk

variable {site : Site} {p p' : Past} {index : Nat} {s s' : RpcServerRoute}

theorem mono (h : ServerNetOk site p index s) (hgrows : p.Grows p') : ServerNetOk site p' index s where
  routeLength := h.routeLength
  received package hmem := (h.received package hmem).mono hgrows
  sends i client gateway hget hgateway packet hmem := by
    obtain ⟨f, hf, hsaid⟩ := h.sends i client gateway hget hgateway packet hmem
    exact ⟨f, hf, hsaid.mono fun _ hsends => hsends.mono hgrows⟩

theorem new (serviceAddr : ServiceAddr) :
    ServerNetOk site p index (ServerCalls.started (site.gateList index).length serviceAddr).server.rpcNet where
  routeLength := rfl
  received := nofun
  sends i client gateway hget _ packet hmem := by
    obtain ⟨j, _, rfl⟩ := List.mem_map.mp (List.mem_of_getElem? hget)
    cases hmem

theorem push (h : ServerNetOk site p index s) {package : RpcPacket} (hpackage : Requested site p index package) :
    ServerNetOk site p index (s.pushMessageToQueue package) where
  routeLength := h.routeLength
  received other hmem := by
    rcases List.mem_append.mp hmem with hold | hnew
    · exact h.received other hold
    · rw [List.mem_singleton.mp hnew]
      exact hpackage
  sends := h.sends

/-- The front of the queue leaves it. -/
theorem drop (h : ServerNetOk site p index s) (n : Nat) :
    ServerNetOk site p index { s with packetQueue := s.packetQueue.drop n } where
  routeLength := h.routeLength
  received package hmem := h.received package (List.mem_of_mem_drop hmem)
  sends := h.sends

/-- Frames of a server's are handed over. -/
theorem send (h : ServerNetOk site p index s) {Q : Nat → FrameParts → Prop} (hsends : s.SendsMore Q s')
    (hparts : ∀ i gateway parts, (site.gateList index)[i]? = some gateway → Q i parts →
      ServerSends p gateway parts ∧ parts.Sound ∧ parts.Representable) : ServerNetOk site p index s' where
  routeLength := hsends.routeLength.trans h.routeLength
  received := hsends.packetQueue ▸ h.received
  sends i client' gateway hget hgateway packet hmem := by
    obtain ⟨client, hclient, hsent⟩ := hsends.clients i client' hget
    rcases hsent packet hmem with hold | ⟨parts, rfl, hQ⟩
    · exact h.sends i client gateway hclient hgateway packet hold
    · obtain ⟨hserver, hsound, hfits⟩ := hparts i gateway parts hgateway hQ
      obtain ⟨f, hbytes, hbuilt⟩ := exists_builtFrom hfits hsound
      exact ⟨f, hbytes, parts, hserver, hbuilt⟩

/-- A route frame is queued with a link id, if at all. -/
theorem receiveRoutePacket (h : ServerNetOk site p index s) {routeId : RouteID} {netInfo : NetInfo}
    {packet : RpcPacket} (hreceive : s.receiveRoutePacket routeId netInfo packet = .ok s')
    (hpacket : ∀ routeNetInfo : RouteNetInfo, parse netInfo.netBinary = some routeNetInfo →
      Requested site p index
        { packet with linkId := buildLinkID s.routeLength routeId routeNetInfo.sourceSocket }) :
    ServerNetOk site p index s' := by
  obtain ⟨routeNetInfo, hparse, hreceive⟩ := bind_eq_ok.mp hreceive
  obtain ⟨copy, hcopy, hreceive⟩ := bind_eq_ok.mp hreceive
  obtain rfl := Except.ok.inj hreceive
  obtain rfl := RpcPacket.eq_of_copy hcopy
  refine h.push (hpacket routeNetInfo ?_)
  cases hresult : (parse netInfo.netBinary : Option RouteNetInfo) with
  | none =>
    rw [hresult] at hparse
    cases hparse
  | some result =>
    rw [hresult] at hparse
    rw [Except.ok.inj hparse]

/-- **A server gets requests only**, with the link ids of their channels. -/
theorem dispatch (hfits : ∀ addr, p.peer addr = some .channel → site.Fits addr) {addr : Addr} {route : Nat}
    (hpeer : p.peer addr = some (.server index route))
    (hroute : (site.gateList index)[route]? = some addr.gateway) {f : Frame} {parts : FrameParts}
    (hsends : GatewaySends p addr parts) (hbuilt : f.BuiltFrom parts) (h : ServerNetOk site p index s)
    (hdispatch : s.dispatch (UInt32.ofNat route) parts.netInfo parts.packet = .ok s') :
    ServerNetOk site p index s' := by
  cases hsends with
  | @request rpcMeta body source _ called =>
    refine h.receiveRoutePacket hdispatch fun routeNetInfo hparse _ => ?_
    have hinfo : parse (stampedParts rpcMeta body source).netInfo.netBinary
        = some { channelRouteInfo rpcMeta with sourceSocket := source } := hbuilt.parse_routeNetInfo rfl
    obtain rfl := Option.some.inj (hinfo.symm.trans hparse)
    have hbinary : (stampedParts rpcMeta body source).packet.binary.getD [] = body :=
      FrameParts.packet_binary rfl
    -- the link id leads back to the channel that has sent the request
    refine ⟨⟨addr.gateway, source⟩, ?_, ?_⟩
    · rw [h.routeLength]
      exact (hfits _ called.channel).linkAddr hroute
    · rw [hbinary]
      exact called
  | @message sockets rpcMeta body replied =>
    refine h.receiveRoutePacket hdispatch fun _ _ hid => ?_
    have hchannel := (replied hid).channel
    rw [hpeer] at hchannel
    cases hchannel
  | heart =>
    obtain rfl := Except.ok.inj hdispatch
    exact h

end ServerNetOk

/-! ## A work thread -/

namespace ServerWorker

/-- A packet that is served has a request id, and its meta becomes the message's. -/
theorem receive_serves {w w' : ServerWorker} {package : RpcPacket} (h : w.step (.receive package) = some w') :
    w.current = none ∧ w'.sent = w.sent ∧
    ((w'.invocations = w.invocations ++ [package] ∧ w'.cntl.linkId = package.linkId ∧
        w'.rpcMessage.rpcMeta = package.rpcMeta ∧
        package.rpcMeta.rpcRequestMeta.requestId ≠ rpcRequestIdNull) ∨
      (w'.invocations = w.invocations ∧ w'.current = w.current)) := by
  simp only [step] at h
  split at h
  · next hidle =>
    refine ⟨hidle, ?_⟩
    unfold receive at h
    dsimp only at h
    split at h
    · obtain ⟨⟨message, parsed⟩, hparse, h⟩ := Option.bind_eq_some_iff.mp h
      obtain ⟨hparsed, hmeta⟩ := parseBinary_cases hparse
      dsimp only at h
      split at h
      · next htrue =>
        obtain rfl := Option.some.inj h
        have hmeta := hmeta htrue
        refine ⟨rfl, Or.inl ⟨rfl, rfl, hmeta, ?_⟩⟩
        rw [hparsed, RpcMessage.isCompleted, hmeta] at htrue
        simp only [Bool.and_eq_true, decide_eq_true_eq] at htrue
        exact htrue.1.1.1
      · obtain rfl := Option.some.inj h
        exact ⟨rfl, Or.inr ⟨rfl, rfl⟩⟩
    · obtain rfl := Option.some.inj h
      exact ⟨rfl, Or.inr ⟨rfl, rfl⟩⟩
  · cases h

/-- **What a handler does**: it serves the same request as before, or none any more, and it sends nothing, or
    one reply with the link and the request of the thread. -/
structure Handled (w w' : ServerWorker) : Prop where
  invocations : w'.invocations = w.invocations
  serving : w'.current ≠ none → w.current ≠ none ∧ w'.cntl.linkId = w.cntl.linkId ∧
    w'.rpcMessage.rpcMeta.requestMeta = w.rpcMessage.rpcMeta.requestMeta
  sent : w'.sent = w.sent ∨ w.rpcMessage.isCompleted = true ∧ ∃ response, w'.sent = w.sent ++ [response] ∧
    response.linkId = w.cntl.linkId ∧ response.rpcMeta.requestMeta = w.rpcMessage.rpcMeta.requestMeta

theorem handled_step {w w' : ServerWorker} {e : Event} (hreceive : ∀ package, e ≠ .receive package)
    (h : w.step e = some w') : Handled w w' := by
  cases e with
  | receive package => exact absurd rfl (hreceive package)
  | setFailed reason =>
    simp only [step] at h
    split at h
    · cases h
    · obtain rfl := Option.some.inj h
      exact ⟨rfl, fun hbusy => ⟨hbusy, rfl, rfl⟩, Or.inl rfl⟩
  | respond body =>
    simp only [step] at h
    split at h
    · cases h
    · obtain rfl := Option.some.inj h
      exact ⟨rfl, fun hbusy => ⟨hbusy, rfl, rfl⟩, Or.inl rfl⟩
  | run invocation =>
    simp only [step] at h
    split at h
    · obtain rfl := Option.some.inj h
      rcases w.sendResponse_cases invocation with heq | ⟨hcomplete, rpcMessage, response, hmeta, _, hlink,
        hresponse, heq⟩
      · rw [heq]
        exact ⟨rfl, fun hbusy => ⟨hbusy, rfl, rfl⟩, Or.inl rfl⟩
      · rw [heq]
        exact ⟨rfl, fun hbusy => ⟨hbusy, rfl, hmeta⟩, Or.inr ⟨hcomplete, response, rfl, hlink, hresponse⟩⟩
    · cases h
  | finish =>
    simp only [step] at h
    split at h
    · cases h
    · obtain rfl := Option.some.inj h
      exact ⟨rfl, fun hbusy => absurd rfl hbusy, Or.inl rfl⟩

end ServerWorker

/-- The request of the thread has been seen to be executed for the channel that its link names. -/
def Executed (p : Past) (addrOf : LinkID → Option Addr) (linkId : LinkID) (id : RpcRequestId) : Prop :=
  ∀ addr, addrOf linkId = some addr → p.peer addr = some .channel ∧ ∃ request, .execute addr id request ∈ p.trace

/-- Between two requests nothing can be sent, and a request that is served has been seen. -/
structure WorkerOk (p : Past) (addrOf : LinkID → Option Addr) (w : ServerWorker) : Prop where
  ready : w.Ready
  serving : w.current ≠ none → Executed p addrOf w.cntl.linkId w.rpcMessage.rpcMeta.rpcRequestMeta.requestId

namespace WorkerOk

variable {p p' : Past} {addrOf : LinkID → Option Addr} {w w' : ServerWorker}

theorem mono (h : WorkerOk p addrOf w) (hgrows : p.Grows p') : WorkerOk p' addrOf w where
  ready := h.ready
  serving hbusy addr haddr := by
    obtain ⟨hchannel, request, hseen⟩ := h.serving hbusy addr haddr
    exact ⟨hgrows.peer _ _ hchannel, request, hgrows.trace _ hseen⟩

theorem started (name2Service : ExtTreeMap ServiceName Service) :
    WorkerOk p addrOf (.started name2Service) := ⟨fun _ => rfl, fun hbusy => absurd rfl hbusy⟩

/-- The thread looks services up in another map. -/
theorem setServices (h : WorkerOk p addrOf w) (name2Service : ExtTreeMap ServiceName Service) :
    WorkerOk p addrOf { w with name2Service } := ⟨h.ready, h.serving⟩

theorem receive (h : WorkerOk p addrOf w) {package : RpcPacket}
    (hpackage : package.rpcMeta.rpcRequestMeta.requestId ≠ rpcRequestIdNull →
      w'.invocations = w.invocations ++ [package] →
      Executed p addrOf package.linkId package.rpcMeta.rpcRequestMeta.requestId)
    (hstep : w.step (.receive package) = some w') : WorkerOk p addrOf w' := by
  refine ⟨h.ready.step hstep, fun hbusy => ?_⟩
  obtain ⟨hidle, _, ⟨hinvocations, hlink, hmeta, hid⟩ | ⟨_, hcurrent⟩⟩ := ServerWorker.receive_serves hstep
  · rw [hlink, hmeta]
    exact hpackage hid hinvocations
  · rw [hcurrent] at hbusy
    exact absurd hidle hbusy

theorem handler (h : WorkerOk p addrOf w) {e : ServerWorker.Event} (hreceive : ∀ package, e ≠ .receive package)
    (hstep : w.step e = some w') : WorkerOk p addrOf w' := by
  refine ⟨h.ready.step hstep, fun hbusy => ?_⟩
  obtain ⟨hbefore, hlink, hmeta⟩ := (ServerWorker.handled_step hreceive hstep).serving hbusy
  rw [hlink, ServerWorker.rpcRequestMeta_congr hmeta]
  exact h.serving hbefore

/-- **A reply is one to an execution.** -/
theorem response (h : WorkerOk p addrOf w) (hcomplete : w.rpcMessage.isCompleted = true) {response : Response}
    (hlink : response.linkId = w.cntl.linkId)
    (hmeta : response.rpcMeta.requestMeta = w.rpcMessage.rpcMeta.requestMeta) :
    Executed p addrOf response.linkId response.rpcMeta.rpcRequestMeta.requestId := by
  have hbusy : w.current ≠ none := by
    intro hidle
    rw [h.ready hidle] at hcomplete
    cases hcomplete
  rw [hlink, ServerWorker.rpcRequestMeta_congr hmeta]
  exact h.serving hbusy

end WorkerOk

end Frrpc
