import Frrpc.Deployment.Correctness.Frames
import Frrpc.Route.Correctness.Disconnect

/-!
# `Deployment.Correctness.Gateway` — what a gateway does with the frames of its peers

A gateway's `OnReceive` calls its handlers at the beginnings of frames only, whatever part of a stream it is
given (`onReceive_keeps`). So a property that every handler keeps at the frames of a connection holds of
the gateway. `GatewayOk` is such a property: its tables name servers only, and everything it has asked the
network to send is a frame that the receiver may get.
-/

namespace Frrpc

open Lib Std

/-! ## The loop over whole frames -/

section Loop

variable [FrNet] {P : Frame → Prop} {socket : Socket} {Inv : RpcRoute → Prop}

/-- The handlers keep the invariant at the frames of interest. -/
def HandlersKeep (P : Frame → Prop) (socket : Socket) (Inv : RpcRoute → Prop) : Prop :=
  ∀ (f : Frame) (pre post : Bytes) (r r' : RpcRoute) (ok : Bool) handler netInfo, P f →
    f.size < netPacketMaxSize → pre.length + f.bytes.length < 2 ^ 31 → Inv r →
    RpcRoute.getNetInfo (pre ++ f.bytes ++ post) pre.length = .ok netInfo →
    RpcRoute.handlerOf netInfo.netType = some handler →
    RpcRoute.handle handler r socket (pre ++ f.bytes ++ post) pre.length netInfo = some (r', ok) → Inv r'

omit [FrNet] in
theorem Frame.size_ne_zero (f : Frame) : f.size ≠ 0 := by
  simp only [Frame.size, sizeofNetInfoSize]
  omega

omit [FrNet] in
theorem Frame.uint32_size (f : Frame) (hmax : ¬ netPacketMaxSize ≤ f.size) :
    uint32 (f.size + sizeofPacketSize) = f.bytes.length := by
  have hword : netPacketMaxSize + sizeofPacketSize < 2 ^ 32 := by decide
  rw [← Int.natCast_add, uint32_of_lt (by omega), f.bytes_length]

/-- A call leaves the invariant, and drops the `n` bytes of the complete frames or nothing. -/
structure KeptBy (Inv : RpcRoute → Prop) (n : Nat) (reception : Reception RpcRoute.Logged) : Prop where
  state : Inv reception.state.1
  readSize : reception.readSize = 0 ∨ reception.readSize = n

/-- At a piece of a frame nothing is handled. -/
theorem onReceiveLoop_piece {fuel : Nat} {s : RpcRoute.Logged} (hs : Inv s.1) {rest : List Frame}
    {pre t : Bytes} (ht : Incomplete Frame.bytes rest t) (hpre : pre.length < 2 ^ 31) :
    KeptBy Inv pre.length (RpcRoute.onReceiveLoop socket (pre ++ t) (fuel + 1) s pre.length) := by
  obtain ⟨r, log⟩ := s
  rw [RpcRoute.onReceiveLoop, sizeSub_of_le (by simp), List.length_append, Nat.add_sub_cancel_left]
  by_cases hword : sizeofPacketSize < t.length
  · cases rest with
    | nil =>
      rw [show t = [] from ht] at hword
      exact absurd hword (Nat.not_lt_zero _)
    | cons f rest =>
      have hlength := f.bytes_length
      have hshort := ht.2
      have hread : readNumber sizeofPacketSize (pre ++ t) pre.length = .ok f.size :=
        f.readNumber_size_of_prefix ht.1 (Nat.le_of_lt hword)
      rw [if_pos hword]
      split
      · exact ⟨hs, Or.inl rfl⟩
      · next size hsize =>
        -- the size word is there, and says that the frame is not
        obtain rfl := Except.ok.inj (hread.symm.trans hsize)
        by_cases hmax : netPacketMaxSize ≤ f.size
        · rw [if_pos hmax]
          exact ⟨hs, Or.inl rfl⟩
        · rw [if_neg hmax, if_neg f.size_ne_zero, f.uint32_size hmax, if_pos hshort]
          exact ⟨hs, Or.inl rfl⟩
  · rw [if_neg hword, sizeT_of_lt hpre]
    exact ⟨hs, Or.inr rfl⟩

/-- **The loop handles frames**: what its handlers keep it keeps, and it drops the complete frames or
    nothing. -/
theorem onReceiveLoop_keeps (hkeep : HandlersKeep P socket Inv) {rest : List Frame} {t : Bytes}
    (ht : Incomplete Frame.bytes rest t) (fuel : Nat) {gs : List Frame} (hgs : ∀ f ∈ gs, P f) {pre : Bytes}
    (hlimit : pre.length + (stream Frame.bytes gs).length < 2 ^ 31) {s : RpcRoute.Logged} (hs : Inv s.1) :
    KeptBy Inv (pre.length + (stream Frame.bytes gs).length)
      (RpcRoute.onReceiveLoop socket (pre ++ stream Frame.bytes gs ++ t) fuel s pre.length) := by
  induction fuel generalizing gs pre s with
  | zero => exact ⟨hs, Or.inl rfl⟩
  | succ fuel ih =>
    cases gs with
    | nil =>
      rw [stream_nil, List.length_nil, Nat.add_zero] at hlimit ⊢
      rw [List.append_nil]
      exact onReceiveLoop_piece hs ht hlimit
    | cons f gs =>
      obtain ⟨r, log⟩ := s
      rw [stream_cons, List.length_append] at hlimit ⊢
      have hbuffer : pre ++ (f.bytes ++ stream Frame.bytes gs) ++ t
          = pre ++ f.bytes ++ (stream Frame.bytes gs ++ t) := by
        simp only [List.append_assoc]
      have hlength := f.bytes_length
      have hzero := f.size_ne_zero
      have hbound : (pre ++ f.bytes ++ (stream Frame.bytes gs ++ t)).length
          = pre.length + f.bytes.length + (stream Frame.bytes gs ++ t).length := by
        simp only [List.length_append]
      have hthere : ¬ (pre ++ f.bytes ++ (stream Frame.bytes gs ++ t)).length - pre.length
          < f.bytes.length := by omega
      have hnext : int32 (pre.length + f.bytes.length) = (pre ++ f.bytes).length := by
        rw [int32_of_lt (by omega) (by omega), List.length_append, Int.natCast_add]
      have hread := f.readNumber_size pre (stream Frame.bytes gs ++ t)
      rw [hbuffer, RpcRoute.onReceiveLoop, sizeSub_of_le (by omega), if_pos (by omega)]
      split
      · exact ⟨hs, Or.inl rfl⟩
      · next size hsize =>
        obtain rfl := Except.ok.inj (hread.symm.trans hsize)
        by_cases hmax : netPacketMaxSize ≤ f.size
        · rw [if_pos hmax]
          exact ⟨hs, Or.inl rfl⟩
        · rw [if_neg hmax, if_neg hzero, f.uint32_size hmax, if_neg hthere]
          -- the ways out of the loop leave the gateway alone, but for the handler's
          split
          · exact ⟨hs, Or.inl rfl⟩
          · next netInfo hnetInfo =>
            split
            · exact ⟨hs, Or.inl rfl⟩
            · next handler hhandler =>
              have hkept := fun r' ok => hkeep f pre _ r r' ok handler netInfo (hgs f List.mem_cons_self)
                (Nat.not_le.mp hmax) (by omega) hs hnetInfo hhandler
              split
              · exact ⟨hs, Or.inl rfl⟩
              · next r' hhandle => exact ⟨hkept r' false hhandle, Or.inl rfl⟩
              · next r' hhandle =>
                rw [hnext, ← List.append_assoc, ← Nat.add_assoc, ← List.length_append]
                refine ih (fun g hg => hgs g (List.mem_cons_of_mem _ hg)) ?_ (hkept r' true hhandle)
                rw [List.length_append]
                omega

/-- **Receiving keeps what the handlers keep**, on every part of a stream of frames. -/
theorem onReceive_keeps (hkeep : HandlersKeep P socket Inv) {gs rest : List Frame} {t : Bytes}
    (hgs : ∀ f ∈ gs, P f) (ht : Incomplete Frame.bytes rest t)
    (hlimit : (stream Frame.bytes gs ++ t).length < 2 ^ 31) {r : RpcRoute}
    (hr : Inv (r.updateSocket socket)) :
    KeptBy Inv (stream Frame.bytes gs).length
      (RpcRoute.onReceive (r, []) socket (stream Frame.bytes gs ++ t)) := by
  rw [List.length_append] at hlimit
  have hstart : ([] : Bytes).length + (stream Frame.bytes gs).length < 2 ^ 31 := by
    rw [List.length_nil]
    omega
  have hlogged : Inv (Prod.fst ((r.updateSocket socket, []) : RpcRoute.Logged)) := hr
  have hloop := onReceiveLoop_keeps hkeep ht ((stream Frame.bytes gs ++ t).length + 1) hgs hstart hlogged
  rw [List.length_nil, Nat.zero_add, List.nil_append] at hloop
  exact hloop

end Loop

/-! ## Whom the tables name -/

namespace RpcRoute

/-- Only such sockets are registered, or bound to a channel. -/
structure NamesOnly (S : Socket → Prop) (r : RpcRoute) : Prop where
  paired : r.AllPaired
  sockets : ∀ n, ∀ socket ∈ r.socketsOf n, S socket
  bindings : ∀ c n socket, r.binding c n = some socket → S socket

variable {S : Socket → Prop} {r r' : RpcRoute}

theorem namesOnly_started : started.NamesOnly S where
  paired := consistent_started.paired
  sockets n socket hmem := by
    rw [socketsOf_started] at hmem
    cases hmem
  bindings c n socket hbinding := by
    have hnone : started.binding c n = none := by
      rw [binding, started, ExtTreeMap.getElem?_empty, Option.bind_none]
    rw [hnone] at hbinding
    cases hbinding

/-- A lookup finds no other. -/
theorem NamesOnly.findServiceSocket (h : r.NamesOnly S) {n : ServiceName} {a : ServiceAddr} {socket : Socket}
    (hfind : r.findServiceSocket n a = some (socket, r')) : socket = socketNull ∨ S socket := by
  cases hinfo : r.service2info[n]? with
  | none =>
    rw [RpcRoute.findServiceSocket, hinfo] at hfind
    exact Or.inl (Prod.mk.inj (Option.some.inj hfind)).1.symm
  | some infos =>
    rw [RpcRoute.findServiceSocket, hinfo] at hfind
    obtain ⟨⟨target, infos'⟩, hget, heq⟩ := Option.bind_eq_some_iff.mp hfind
    cases heq
    have hpaired := h.paired n
    have hsockets := h.sockets n
    rw [socketsOf, infosOf_of_some hinfo] at hsockets
    rw [infosOf_of_some hinfo] at hpaired
    exact (RouteServiceInfos.getServiceSocket_mem hpaired hget).imp_right (hsockets socket)

theorem NamesOnly.getServerSocket (h : r.NamesOnly S) {c : Socket} {n : ServiceName} {socket : Socket}
    (hserver : r.getServerSocket c n = some (socket, r')) : socket = socketNull ∨ S socket := by
  unfold RpcRoute.getServerSocket at hserver
  split at hserver
  · next bound hbinding =>
    cases hserver
    exact Or.inr (h.bindings c n _ hbinding)
  · exact h.findServiceSocket hserver

theorem NamesOnly.kept (h : r.NamesOnly S) (hkept : Kept r r')
    (hbindings : ∀ c n socket, r'.binding c n = some socket → S socket) : r'.NamesOnly S := by
  refine ⟨h.paired.kept hkept, fun n socket hmem => ?_, hbindings⟩
  rw [hkept.sockets n] at hmem
  exact h.sockets n socket hmem

theorem NamesOnly.of_bindings (h : r.NamesOnly S)
    (heq : r'.channelServiceRegister = r.channelServiceRegister) (c : Socket) (n : ServiceName)
    (socket : Socket) (hbinding : r'.binding c n = some socket) : S socket := by
  rw [binding, heq] at hbinding
  exact h.bindings c n socket hbinding

theorem NamesOnly.deleteService (h : r.NamesOnly S) (socket : Socket) :
    (r.deleteService socket).1.NamesOnly S := by
  refine ⟨h.paired.deleteService socket, fun n t hmem => ?_, h.of_bindings (bindings_deleteService r socket)⟩
  cases hname : r.serviceSocket2name[socket]? with
  | none =>
    rw [deleteService_unrecorded hname] at hmem
    exact h.sockets n t hmem
  | some m =>
    rw [socketsOf_deleteService hname n] at hmem
    split at hmem
    · exact h.sockets m t (List.mem_of_mem_erase hmem)
    · exact h.sockets n t hmem

theorem NamesOnly.onDisconnect (h : r.NamesOnly S) (socket : Socket) :
    (r.onDisconnect socket).NamesOnly S := by
  cases hservice : r.isServiceSocket socket with
  | true =>
    obtain ⟨hkept, hbindings⟩ := onDisconnect_service hservice
    exact (h.deleteService socket).kept hkept (h.of_bindings hbindings)
  | false =>
    obtain ⟨hkept, hbindings⟩ := onDisconnect_channel hservice
    refine h.kept hkept fun c n t hbinding => ?_
    rw [binding, hbindings, ExtTreeMap.getElem?_erase] at hbinding
    split at hbinding
    · cases hbinding
    · exact h.bindings c n t hbinding

variable [FrNet]

/-- **Only what registers is named.** -/
theorem NamesOnly.step (h : r.NamesOnly S) {e : Event} (hstep : step r e = some r')
    (hregister : ∀ socket binary, e = .serverServiceRegister socket binary → S socket) :
    r'.NamesOnly S := by
  cases step_effect hstep with
  | kept services bindings => exact h.kept services (h.of_bindings bindings)
  | @register socket binary info _ =>
    refine ⟨h.paired.addService _ _ _, fun n t hmem => ?_, h.of_bindings rfl⟩
    rw [socketsOf_addService] at hmem
    split at hmem
    · rcases List.mem_append.mp hmem with hold | hnew
      · exact h.sockets n t hold
      · rw [List.mem_singleton.mp hnew]
        exact hregister socket binary rfl
    · exact h.sockets n t hmem
  | cancel => exact h.deleteService _
  | bind found ne =>
    refine h.kept (kept_bindChannel found) fun c n t hbinding => ?_
    rw [binding_bindChannel] at hbinding
    split at hbinding
    · rw [← Option.some.inj hbinding]
      exact (h.findServiceSocket found).resolve_left ne
    · exact h.of_bindings (findServiceSocket_kept found).2 c n t hbinding
  | disconnect => exact h.onDisconnect _
  | close =>
    refine ⟨fun n => ?_, fun n t hmem => ?_, h.of_bindings rfl⟩
    · have hnew : r.onClose.infosOf n = .new := infosOf_of_none ExtTreeMap.getElem?_empty
      rw [hnew]
      exact RouteServiceInfos.paired_new
    · have hnew : r.onClose.infosOf n = .new := infosOf_of_none ExtTreeMap.getElem?_empty
      rw [socketsOf, hnew] at hmem
      cases hmem

end RpcRoute

/-! ## What a gateway has sent -/

namespace RpcRoute

/-- Everything that was sent here was sent before, or is one of these. -/
def SendsMore (Q : Socket → Bytes → Prop) (r r' : RpcRoute) : Prop :=
  ∀ socket packet, .send socket (some packet) ∈ r'.netCalls →
    .send socket (some packet) ∈ r.netCalls ∨ Q socket packet

variable {Q : Socket → Bytes → Prop} {r r' : RpcRoute}

theorem SendsMore.of_eq (h : r'.netCalls = r.netCalls) : SendsMore Q r r' := by
  intro socket packet hmem
  rw [h] at hmem
  exact Or.inl hmem

theorem SendsMore.of_append {calls : List NetCall} (h : r'.netCalls = r.netCalls ++ calls)
    (hcalls : ∀ socket packet, .send socket (some packet) ∈ calls → Q socket packet) : SendsMore Q r r' := by
  intro socket packet hmem
  rw [h] at hmem
  exact (List.mem_append.mp hmem).imp_right (hcalls socket packet)

/-- Disconnects send nothing. -/
theorem sendsMore_disconnect (r : RpcRoute) (sockets : List Socket) :
    SendsMore Q r (sockets.foldl netDisconnect r) := by
  rw [foldl_netDisconnect_eq]
  refine .of_append rfl fun socket packet hmem => ?_
  obtain ⟨_, _, heq⟩ := List.mem_map.mp hmem
  cases heq

theorem sendsMore_deleteService (r : RpcRoute) (socket : Socket) :
    SendsMore Q r (r.deleteService socket).1 := by
  unfold deleteService
  split
  · exact .of_eq rfl
  · split
    · exact .of_eq rfl
    · exact .of_eq rfl

theorem sendsMore_onDisconnect (r : RpcRoute) (socket : Socket) : SendsMore Q r (r.onDisconnect socket) := by
  unfold onDisconnect
  dsimp only
  split
  · exact sendsMore_deleteService _ socket
  · exact .of_eq rfl

variable [FrNet]

/-- **What a command does**: it is a step of the gateway that sends nothing, or it is not a command. -/
theorem commandProcess_step {socket : Socket} {netInfo : NetInfo} {ok : Bool} {request : RouteCmdRequest}
    (hparse : parse netInfo.netBinary = some request)
    (h : r.commandProcess socket netInfo = some (r', ok)) :
    SendsMore Q r r' ∧ (r' = r ∨ ∃ e, step r e = some r' ∧
      ∀ s binary, e = .serverServiceRegister s binary →
        s = socket ∧ request.cmd = eRouteCmdServerServiceRegister) := by
  rw [commandProcess, hparse] at h
  dsimp only at h
  split at h
  · next hcmd =>
    have hstep : step r (.serverServiceRegister socket request.requestBinary) = some r' := by
      rw [step, Option.some.inj h]
    refine ⟨?_, Or.inr ⟨_, hstep, ?_⟩⟩
    · have hr : r' = (r.serverServiceRegister socket request.requestBinary).1 := by
        rw [Option.some.inj h]
      rw [hr, serverServiceRegister]
      split
      · exact .of_eq rfl
      · exact .of_eq rfl
    · rintro s binary ⟨⟩
      exact ⟨rfl, hcmd⟩
  · split at h
    · have hstep : step r (.serverServiceCancel socket request.requestBinary) = some r' := by
        rw [step, Option.some.inj h]
      refine ⟨?_, Or.inr ⟨_, hstep, fun _ _ he => RpcRoute.Event.noConfusion he⟩⟩
      have hr : r' = (r.deleteService socket).1 := by
        rw [← serverServiceCancel, Option.some.inj h]
      rw [hr]
      exact sendsMore_deleteService r socket
    · split at h
      · have hstep : step r (.serverDisconnectChannelFunc socket request.requestBinary) = some r' := by
          rw [step, Option.some.inj h]
        refine ⟨?_, Or.inr ⟨_, hstep, fun _ _ he => RpcRoute.Event.noConfusion he⟩⟩
        have hr : r' = (r.serverDisconnectChannelFunc socket request.requestBinary).1 := by
          rw [Option.some.inj h]
        rcases r.serverDisconnectChannelFunc_cases socket request.requestBinary with heq | ⟨sockets, heq⟩
        · rw [hr, heq]
          exact .of_eq rfl
        · rw [hr, heq]
          exact sendsMore_disconnect r sockets
      · split at h
        · have hstep : step r (.channelServiceRegister socket request.requestBinary) = some r' := by
            rw [step, h]
            rfl
          refine ⟨?_, Or.inr ⟨_, hstep, fun _ _ he => RpcRoute.Event.noConfusion he⟩⟩
          rcases registerChannelService_cases h with ⟨_, rfl, _⟩ | ⟨_, _, _, _, hfind, hbind⟩
          · exact .of_eq rfl
          · have hcalls := congrArg RpcRoute.netCalls (findServiceSocket_eq hfind)
            rcases hbind with ⟨_, rfl, _⟩ | ⟨_, rfl, _⟩
            · exact .of_eq hcalls
            · exact .of_eq hcalls
        · cases h
          exact ⟨.of_eq rfl, Or.inl rfl⟩

end RpcRoute

/-! ## The invariant -/

/-- A frame for whom it is sent to; a frame for the null socket is for nobody. -/
def Delivers (p : Past) (gateway : Nat) (socket : Socket) (packet : Bytes) : Prop :=
  ∃ f : Frame, packet = f.bytes ∧ (socket ≠ socketNull → f.Says (GatewaySends p ⟨gateway, socket⟩))

/-- The gateway's tables name servers, and it sends only frames for their receivers. -/
structure GatewayOk (p : Past) (gateway : Nat) (r : RpcRoute) : Prop where
  names : r.NamesOnly fun socket => p.IsServer ⟨gateway, socket⟩
  sends : ∀ socket packet, .send socket (some packet) ∈ r.netCalls → Delivers p gateway socket packet

namespace GatewayOk

variable {p p' : Past} {gateway : Nat} {r r' : RpcRoute}

theorem init : GatewayOk p gateway .started where
  names := RpcRoute.namesOnly_started
  sends socket packet hmem := by cases hmem

theorem mono (h : GatewayOk p gateway r) (hgrows : p.Grows p') : GatewayOk p' gateway r where
  names := ⟨h.names.paired, fun n socket hmem => (h.names.sockets n socket hmem).mono hgrows,
    fun c n socket hbinding => (h.names.bindings c n socket hbinding).mono hgrows⟩
  sends socket packet hmem := by
    obtain ⟨f, hf, hsaid⟩ := h.sends socket packet hmem
    exact ⟨f, hf, fun hne => (hsaid hne).mono fun _ hsends => hsends.mono hgrows⟩

/-- A change that sends nothing but frames for their receivers. -/
theorem of_sendsMore (h : GatewayOk p gateway r)
    (hnames : r'.NamesOnly fun socket => p.IsServer ⟨gateway, socket⟩)
    (hsends : RpcRoute.SendsMore (Delivers p gateway) r r') : GatewayOk p gateway r' where
  names := hnames
  sends socket packet hmem := (hsends socket packet hmem).elim (h.sends socket packet) id

theorem onConnect (h : GatewayOk p gateway r) (socket : Socket) : GatewayOk p gateway (r.onConnect socket) :=
  h.of_sendsMore ⟨h.names.paired, h.names.sockets, h.names.bindings⟩ (.of_eq rfl)

theorem updateSocket (h : GatewayOk p gateway r) (socket : Socket) :
    GatewayOk p gateway (r.updateSocket socket) :=
  h.of_sendsMore ⟨h.names.paired, h.names.sockets, h.names.bindings⟩ (.of_eq rfl)

theorem onDisconnect (h : GatewayOk p gateway r) (socket : Socket) :
    GatewayOk p gateway (r.onDisconnect socket) :=
  h.of_sendsMore (h.names.onDisconnect socket) (RpcRoute.sendsMore_onDisconnect r socket)

theorem checkHeart (h : GatewayOk p gateway r) : GatewayOk p gateway r.checkHeart.1 := by
  have hheart : GatewayOk p gateway { r with rpcHeart := r.rpcHeart.checkTimeout.1 } :=
    h.of_sendsMore ⟨h.names.paired, h.names.sockets, h.names.bindings⟩ (.of_eq rfl)
  refine hheart.of_sendsMore ?_ (RpcRoute.sendsMore_disconnect _ r.rpcHeart.checkTimeout.2)
  have hnames := hheart.names
  have hcheck : r.checkHeart.1
      = r.rpcHeart.checkTimeout.2.foldl RpcRoute.netDisconnect { r with rpcHeart := r.rpcHeart.checkTimeout.1 } :=
    rfl
  rw [hcheck, RpcRoute.foldl_netDisconnect_eq]
  exact ⟨hnames.paired, hnames.sockets, hnames.bindings⟩

variable [FrNet]

/-- A request goes to a server, stamped. -/
theorem route_request (h : GatewayOk p gateway r) {f : Frame} {rpcMeta : RpcMeta} {body : Bytes}
    {socket : Socket} (hcalled : p.Called ⟨gateway, socket⟩ rpcMeta body)
    (hbuilt : f.BuiltFrom (requestParts rpcMeta body)) (hsize : f.size < netPacketMaxSize) (pre post : Bytes)
    (hlimit : pre.length + f.bytes.length < 2 ^ 31) {ok : Bool}
    (hroute : r.routeProcess socket (pre ++ f.bytes ++ post) pre.length (RpcChannelRoute.sendNetInfo rpcMeta)
      = some (r', ok)) : GatewayOk p gateway r' := by
  have hparse : parse (RpcChannelRoute.sendNetInfo rpcMeta).netBinary = some (channelRouteInfo rpcMeta) :=
    hbuilt.parse_routeNetInfo rfl
  rcases RpcRoute.routeProcess_cases hroute with rfl | ⟨routeNetInfo, hparse', hcases⟩
  · exact h
  · obtain rfl : channelRouteInfo rpcMeta = routeNetInfo := Option.some.inj (hparse.symm.trans hparse')
    rcases hcases with ⟨_, target, r₁, packet, hserver, hpacket, rfl⟩ | ⟨hnot, _⟩
    · obtain ⟨g, hg, hstamped⟩ := hbuilt.stamped hsize socket
      rw [hstamped pre post hlimit] at hpacket
      cases hpacket
      have hkept := RpcRoute.getServerSocket_kept hserver
      have hcalls := congrArg RpcRoute.netCalls (RpcRoute.getServerSocket_eq hserver)
      have hnames := h.names.kept hkept.1 (h.names.of_bindings hkept.2)
      rw [RpcRoute.sendAll_eq]
      refine h.of_sendsMore ⟨hnames.paired, hnames.sockets, hnames.bindings⟩
        (.of_append (congrArg (· ++ _) hcalls) ?_)
      intro t packet hmem
      obtain ⟨rfl, rfl⟩ : t = target ∧ packet = g.bytes := by
        simpa using hmem
      refine ⟨g, rfl, fun hne => ⟨stampedParts rpcMeta body socket, ?_, hg⟩⟩
      exact .request ((h.names.getServerSocket hserver).resolve_left hne) hcalled
    · cases hnot

/-- A server's message goes to its targets as it came in. -/
theorem route_message (h : GatewayOk p gateway r) {f : Frame} {sockets : List Socket} {rpcMeta : RpcMeta}
    {body : Bytes} {socket : Socket} (hreplied : rpcMeta.rpcRequestMeta.requestId ≠ rpcRequestIdNull →
      ∀ socket ∈ sockets, p.Replied ⟨gateway, socket⟩ rpcMeta body)
    (hbuilt : f.BuiltFrom (replyParts sockets rpcMeta body)) (pre post : Bytes) {ok : Bool}
    (hroute : r.routeProcess socket (pre ++ f.bytes ++ post) pre.length
      (replyParts sockets rpcMeta body).netInfo = some (r', ok)) : GatewayOk p gateway r' := by
  have hparse : parse (replyParts sockets rpcMeta body).netInfo.netBinary
      = some (⟨false, "", sockets, socketNull⟩ : RouteNetInfo) := hbuilt.parse_routeNetInfo rfl
  rcases RpcRoute.routeProcess_cases hroute with rfl | ⟨routeNetInfo, hparse', hcases⟩
  · exact h
  · obtain rfl := Option.some.inj (hparse.symm.trans hparse')
    rcases hcases with ⟨hnot, _⟩ | ⟨_, size, frame, hsize, hframe, rfl⟩
    · cases hnot
    · obtain rfl := Except.ok.inj ((f.readNumber_size pre post).symm.trans hsize)
      have hwhole : sizeofPacketSize + f.size = f.bytes.length := by
        rw [f.bytes_length, Nat.add_comm]
      obtain rfl := Except.ok.inj ((f.readBytes_frame pre post hwhole).symm.trans hframe)
      rw [RpcRoute.sendAll_eq]
      refine h.of_sendsMore ⟨h.names.paired, h.names.sockets, h.names.bindings⟩ (.of_append rfl ?_)
      intro t packet hmem
      obtain ⟨target, htarget, heq⟩ := List.mem_map.mp hmem
      cases heq
      exact ⟨f, rfl, fun _ => ⟨_, .message fun hid => hreplied hid t htarget, hbuilt⟩⟩

/-- A heart goes back to its sender. -/
theorem heart (h : GatewayOk p gateway r) {f : Frame} {socket : Socket} (hbuilt : f.BuiltFrom heartParts)
    (pre post : Bytes) {ok : Bool}
    (hheart : r.heartProcess socket (pre ++ f.bytes ++ post) pre.length = some (r', ok)) :
    GatewayOk p gateway r' := by
  obtain ⟨size, hsize, hrest⟩ := Option.bind_eq_some_iff.mp hheart
  obtain ⟨packet, hpacket, heq⟩ := Option.bind_eq_some_iff.mp hrest
  obtain rfl := Except.ok.inj ((f.readNumber_size pre post).symm.trans (toOption_eq_some.mp hsize))
  obtain rfl := Except.ok.inj
    ((f.readBytes_frame pre post f.bytes_length.symm).symm.trans (toOption_eq_some.mp hpacket))
  cases heq
  refine h.of_sendsMore ⟨h.names.paired, h.names.sockets, h.names.bindings⟩ (.of_append rfl ?_)
  intro t packet hmem
  obtain ⟨rfl, rfl⟩ : t = socket ∧ packet = f.bytes := by
    simpa using hmem
  exact ⟨f, rfl, fun _ => ⟨heartParts, .heart, hbuilt⟩⟩

/-- A command changes the tables, and only a server registers. -/
theorem command (h : GatewayOk p gateway r) {f : Frame} {socket : Socket} {cmd : ERouteCmd} {cmdInfo : Bytes}
    (hbuilt : f.BuiltFrom (commandParts cmd cmdInfo))
    (hserver : cmd = eRouteCmdServerServiceRegister → p.IsServer ⟨gateway, socket⟩) {ok : Bool}
    (hcommand : r.commandProcess socket (commandParts cmd cmdInfo).netInfo = some (r', ok)) :
    GatewayOk p gateway r' := by
  obtain ⟨hsends, hsteps⟩ := RpcRoute.commandProcess_step (Q := Delivers p gateway) hbuilt.parse_command hcommand
  rcases hsteps with rfl | ⟨e, hstep, hregister⟩
  · exact h
  · refine h.of_sendsMore (h.names.step hstep fun s binary he => ?_) hsends
    obtain ⟨rfl, hcmd⟩ := hregister s binary he
    exact hserver hcmd

/-- **Every handler keeps the invariant** at the frames that the peer sends. -/
theorem handlersKeep (p : Past) (addr : Addr) :
    HandlersKeep (Frame.Says (PeerSends p addr)) addr.socket (GatewayOk p addr.gateway) := by
  rintro f pre post r r' ok handler netInfo ⟨parts, hsends, hbuilt⟩ hsize hlimit h hnetInfo hhandler hhandle
  obtain rfl := Except.ok.inj ((hbuilt.getNetInfo_eq pre post hlimit).symm.trans hnetInfo)
  cases hsends with
  | channel peer sends =>
    cases sends with
    | request called =>
      cases hhandler
      exact h.route_request called hbuilt hsize pre post hlimit hhandle
    | command cmdInfo =>
      cases hhandler
      exact h.command hbuilt (fun hcmd => absurd hcmd (by decide)) hhandle
    | heart =>
      cases hhandler
      exact h.heart hbuilt pre post hhandle
  | server peer sends =>
    cases sends with
    | message replied =>
      cases hhandler
      exact h.route_message replied hbuilt pre post hhandle
    | command cmdInfo server =>
      cases hhandler
      exact h.command hbuilt (fun _ => peer) hhandle
    | heart =>
      cases hhandler
      exact h.heart hbuilt pre post hhandle

end GatewayOk

end Frrpc
