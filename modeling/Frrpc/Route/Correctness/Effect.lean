import Frrpc.Route.Machine

/-!
# `Route.Correctness.Effect` — what an event does to the registry

The registry is read through `infosOf`, which sees a missing service as an empty one, so that creating and
dropping an empty service shows nowhere. `Effect` says once what an event can do to it: keep it, or one of
the five updates (`step_effect`). The invariants of the gateway are proved from `Effect`.
-/

namespace Frrpc

open Lib Std

/-! ## One service -/

namespace RouteServiceInfos

/-- The address map and the list hold the same sockets, as often. -/
def Paired (infos : RouteServiceInfos) : Prop := (vals infos.addr2socket).Perm infos.sockets

theorem paired_new : new.Paired := by
  rw [Paired, new, vals_empty]

/-- A registration is appended, or the address is taken and nothing changes. -/
theorem addService_cases (infos : RouteServiceInfos) (socket : Socket) (serviceAddr : ServiceAddr) :
    (infos.addr2socket[serviceAddr]? = none ∧ infos.addService socket serviceAddr =
      (⟨infos.sockets ++ [socket], infos.addr2socket.insertIfNew serviceAddr socket, infos.curSendIndex⟩,
        true)) ∨
    (infos.addr2socket[serviceAddr]? ≠ none ∧ infos.addService socket serviceAddr = (infos, false)) := by
  by_cases hfree : infos.addr2socket[serviceAddr]? = none
  · exact Or.inl ⟨hfree, if_pos hfree⟩
  · exact Or.inr ⟨hfree, if_neg hfree⟩

theorem Paired.addService {infos : RouteServiceInfos} (h : infos.Paired) (socket : Socket)
    (serviceAddr : ServiceAddr) : (infos.addService socket serviceAddr).1.Paired := by
  rcases addService_cases infos socket serviceAddr with ⟨hfree, heq⟩ | ⟨_, heq⟩
  · rw [heq]
    have hadd := vals_insertIfNew_perm (v := socket) hfree
    exact hadd.trans ((h.cons socket).trans (List.perm_append_singleton _ _).symm)
  · rw [heq]
    exact h

theorem Paired.deleteService {infos : RouteServiceInfos} (h : infos.Paired) (socket : Socket) :
    (infos.deleteService socket).Paired :=
  (vals_eraseFirst_perm socket infos.addr2socket).trans (h.erase socket)

/-- A lookup only moves the send index; it yields none, a server of the list or the one at the address. -/
theorem getServiceSocket_cases {infos infos' : RouteServiceInfos} {serviceAddr : ServiceAddr}
    {socket : Socket} (h : infos.getServiceSocket serviceAddr = some (socket, infos')) :
    (infos'.sockets = infos.sockets ∧ infos'.addr2socket = infos.addr2socket) ∧
      (socket = socketNull ∨ socket ∈ infos.sockets ∨ infos.addr2socket[serviceAddr]? = some socket) := by
  unfold getServiceSocket at h
  split at h
  · cases h
    exact ⟨⟨rfl, rfl⟩, Or.inl rfl⟩
  · split at h
    · dsimp only at h
      split at h
      · obtain ⟨_, hget, heq⟩ := Option.bind_eq_some_iff.mp h
        cases heq
        exact ⟨⟨rfl, rfl⟩, Or.inr (Or.inl (List.mem_of_getElem? hget))⟩
      · cases h
    · cases haddr : infos.addr2socket[serviceAddr]? with
      | none =>
        rw [haddr] at h
        cases h
        exact ⟨⟨rfl, rfl⟩, Or.inl rfl⟩
      | some target =>
        rw [haddr] at h
        cases h
        exact ⟨⟨rfl, rfl⟩, Or.inr (Or.inr rfl)⟩

/-- **A lookup yields a server of the service or none.** -/
theorem getServiceSocket_mem {infos infos' : RouteServiceInfos} (hpaired : infos.Paired)
    {serviceAddr : ServiceAddr} {socket : Socket}
    (h : infos.getServiceSocket serviceAddr = some (socket, infos')) :
    socket = socketNull ∨ socket ∈ infos.sockets := by
  rcases (getServiceSocket_cases h).2 with hnull | hmem | haddr
  · exact Or.inl hnull
  · exact Or.inr hmem
  · exact Or.inr (hpaired.mem_iff.mp (mem_vals.mpr ⟨serviceAddr, haddr⟩))

/-- The send index stays inside a list that an `int32_t` can index. -/
theorem getServiceSocket_isSome (infos : RouteServiceInfos) (serviceAddr : ServiceAddr)
    (hlen : infos.sockets.length ≤ 2 ^ 31) :
    ∃ socket infos', infos.getServiceSocket serviceAddr = some (socket, infos') := by
  unfold getServiceSocket
  split
  · exact ⟨_, _, rfl⟩
  · next hne =>
    split
    · -- the remainder is below the length, so narrowing it to `int32_t` changes nothing
      have hpos : 0 < infos.sockets.length := List.length_pos_iff.mpr hne
      have hmod₀ : 0 ≤ int32 (infos.curSendIndex + 1) % 2 ^ 64 % infos.sockets.length :=
        Int.emod_nonneg _ (by omega)
      have hmod : int32 (infos.curSendIndex + 1) % 2 ^ 64 % infos.sockets.length < infos.sockets.length :=
        Int.emod_lt_of_pos _ (by omega)
      have hindex : infos.nextSendIndex
          = int32 (infos.curSendIndex + 1) % 2 ^ 64 % infos.sockets.length :=
        int32_of_lt hmod₀ (by omega)
      have hlt : infos.nextSendIndex.toNat < infos.sockets.length := by omega
      dsimp only
      rw [if_pos (by omega), List.getElem?_eq_getElem hlt]
      exact ⟨_, _, rfl⟩
    · exact ⟨_, _, rfl⟩

end RouteServiceInfos

/-! ## The registry -/

namespace RpcRoute

/-- The servers of a service; a service that is not there has none. -/
def infosOf (r : RpcRoute) (serviceName : ServiceName) : RouteServiceInfos :=
  r.service2info[serviceName]?.getD .new

def socketsOf (r : RpcRoute) (serviceName : ServiceName) : List Socket := (r.infosOf serviceName).sockets

def addrOf (r : RpcRoute) (serviceName : ServiceName) : ExtTreeMap ServiceAddr Socket :=
  (r.infosOf serviceName).addr2socket

theorem infosOf_of_some {r : RpcRoute} {n : ServiceName} {infos : RouteServiceInfos}
    (h : r.service2info[n]? = some infos) : r.infosOf n = infos := by
  rw [infosOf, h, Option.getD_some]

theorem infosOf_of_none {r : RpcRoute} {n : ServiceName} (h : r.service2info[n]? = none) :
    r.infosOf n = .new := by
  rw [infosOf, h, Option.getD_none]

/-- The same servers under the same addresses, with the same recorded names. -/
structure Kept (r r' : RpcRoute) : Prop where
  sockets : ∀ n, r'.socketsOf n = r.socketsOf n
  addrs : ∀ n, r'.addrOf n = r.addrOf n
  names : r'.serviceSocket2name = r.serviceSocket2name

theorem Kept.of_eq {r r' : RpcRoute} (hinfo : r'.service2info = r.service2info)
    (hname : r'.serviceSocket2name = r.serviceSocket2name) : Kept r r' := by
  refine ⟨fun n => ?_, fun n => ?_, hname⟩
  · rw [socketsOf, infosOf, hinfo]; rfl
  · rw [addrOf, infosOf, hinfo]; rfl

theorem Kept.trans {r r' r'' : RpcRoute} (h : Kept r r') (h' : Kept r' r'') : Kept r r'' :=
  ⟨fun n => (h'.sockets n).trans (h.sockets n), fun n => (h'.addrs n).trans (h.addrs n),
    h'.names.trans h.names⟩

theorem infosOf_addService (r : RpcRoute) (socket : Socket) (serviceName : ServiceName)
    (serviceAddr : ServiceAddr) (n : ServiceName) :
    (r.addService socket serviceName serviceAddr).1.infosOf n
      = if serviceName = n then ((r.infosOf serviceName).addService socket serviceAddr).1
        else r.infosOf n := by
  by_cases hn : serviceName = n
  · subst hn
    simp [addService, infosOf]
  · simp [addService, infosOf, hn, ExtTreeMap.getElem?_insert]

theorem deleteService_unrecorded {r : RpcRoute} {socket : Socket}
    (hname : r.serviceSocket2name[socket]? = none) : (r.deleteService socket).1 = r := by
  simp only [deleteService, hname]

/-- A recorded name without a service is left alone. -/
theorem deleteService_unknown {r : RpcRoute} {socket : Socket} {n : ServiceName}
    (hname : r.serviceSocket2name[socket]? = some n) (hinfo : r.service2info[n]? = none) :
    (r.deleteService socket).1 = r := by
  simp only [deleteService, hname, hinfo]

/-- The service of an unregistered socket loses it; one that is left without servers is dropped. -/
theorem infosOf_deleteService {r : RpcRoute} {socket : Socket} {n : ServiceName}
    {infos : RouteServiceInfos} (hname : r.serviceSocket2name[socket]? = some n)
    (hinfo : r.service2info[n]? = some infos) (m : ServiceName) :
    (r.deleteService socket).1.infosOf m =
      if n = m then
        if (infos.deleteService socket).serviceSize = 0 then .new else infos.deleteService socket
      else r.infosOf m := by
  have hdelete : (r.deleteService socket).1.service2info
      = if (infos.deleteService socket).serviceSize = 0 then r.service2info.erase n
        else r.service2info.insert n (infos.deleteService socket) := by
    simp only [deleteService, hname, hinfo]
  rw [infosOf, hdelete]
  by_cases hn : n = m
  · subst hn
    split <;> simp
  · split <;> simp [hn, infosOf, ExtTreeMap.getElem?_insert, ExtTreeMap.getElem?_erase]

/-- **One registration of the socket goes, under its recorded name.** -/
theorem socketsOf_deleteService {r : RpcRoute} {socket : Socket} {n : ServiceName}
    (hname : r.serviceSocket2name[socket]? = some n) (m : ServiceName) :
    (r.deleteService socket).1.socketsOf m
      = if n = m then (r.socketsOf n).erase socket else r.socketsOf m := by
  cases hinfo : r.service2info[n]? with
  | none =>
    -- the recorded service is gone: nothing is done, and there was nothing to remove
    have hsockets : r.socketsOf n = [] := congrArg RouteServiceInfos.sockets (infosOf_of_none hinfo)
    rw [deleteService_unknown hname hinfo, hsockets]
    split
    · next hn => rw [← hn, hsockets]; rfl
    · rfl
  | some infos =>
    have hsockets : r.socketsOf n = infos.sockets := congrArg RouteServiceInfos.sockets (infosOf_of_some hinfo)
    rw [socketsOf, infosOf_deleteService hname hinfo, hsockets]
    split
    · split
      · next hzero => exact (List.eq_nil_of_length_eq_zero hzero).symm
      · rfl
    · rfl

theorem names_deleteService {r : RpcRoute} {socket : Socket} {n : ServiceName}
    (hname : r.serviceSocket2name[socket]? = some n) (hmem : r.socketsOf n ≠ []) :
    (r.deleteService socket).1.serviceSocket2name = r.serviceSocket2name.erase socket := by
  cases hinfo : r.service2info[n]? with
  | none => exact absurd (congrArg RouteServiceInfos.sockets (infosOf_of_none hinfo)) hmem
  | some infos => simp only [deleteService, hname, hinfo]

theorem bindings_deleteService (r : RpcRoute) (socket : Socket) :
    (r.deleteService socket).1.channelServiceRegister = r.channelServiceRegister := by
  unfold deleteService
  split
  · rfl
  · split <;> rfl

/-- The disconnect of a service is its unregistration. -/
theorem onDisconnect_service {r : RpcRoute} {socket : Socket} (h : r.isServiceSocket socket = true) :
    Kept (r.deleteService socket).1 (r.onDisconnect socket) ∧
      (r.onDisconnect socket).channelServiceRegister = r.channelServiceRegister := by
  have hservice : ({ r with rpcHeart := r.rpcHeart.delSocket socket } : RpcRoute).isServiceSocket socket
      = true := h
  simp only [onDisconnect, hservice, if_true]
  refine ⟨.of_eq ?_ ?_, bindings_deleteService _ _⟩
  all_goals
    unfold deleteService
    dsimp only
    split
    · rfl
    · split <;> rfl

/-- The disconnect of any other socket drops its bindings. -/
theorem onDisconnect_channel {r : RpcRoute} {socket : Socket} (h : r.isServiceSocket socket = false) :
    Kept r (r.onDisconnect socket) ∧
      (r.onDisconnect socket).channelServiceRegister = r.channelServiceRegister.erase socket := by
  have hchannel : ({ r with rpcHeart := r.rpcHeart.delSocket socket } : RpcRoute).isServiceSocket socket
      = false := h
  have heq : r.onDisconnect socket = { r with
      rpcHeart := r.rpcHeart.delSocket socket
      channelServiceRegister := r.channelServiceRegister.erase socket } := by
    simp only [onDisconnect, hchannel, Bool.false_eq_true, if_false]
  rw [heq]
  exact ⟨.of_eq rfl rfl, rfl⟩

/-! ## Lookups and bindings -/

/-- A lookup changes the services at most. -/
theorem findServiceSocket_eq {r r' : RpcRoute} {serviceName : ServiceName} {serviceAddr : ServiceAddr}
    {socket : Socket} (h : r.findServiceSocket serviceName serviceAddr = some (socket, r')) :
    r' = { r with service2info := r'.service2info } := by
  unfold findServiceSocket at h
  split at h
  · cases h
    rfl
  · obtain ⟨_, _, heq⟩ := Option.bind_eq_some_iff.mp h
    cases heq
    rfl

theorem getServerSocket_eq {r r' : RpcRoute} {channelSocket socket : Socket} {serviceName : ServiceName}
    (h : r.getServerSocket channelSocket serviceName = some (socket, r')) :
    r' = { r with service2info := r'.service2info } := by
  unfold getServerSocket at h
  split at h
  · cases h
    rfl
  · exact findServiceSocket_eq h

theorem findServiceSocket_kept {r r' : RpcRoute} {serviceName : ServiceName} {serviceAddr : ServiceAddr}
    {socket : Socket} (h : r.findServiceSocket serviceName serviceAddr = some (socket, r')) :
    Kept r r' ∧ r'.channelServiceRegister = r.channelServiceRegister := by
  unfold findServiceSocket at h
  cases hinfo : r.service2info[serviceName]? with
  | none =>
    simp only [hinfo, Option.some.injEq, Prod.mk.injEq] at h
    rw [← h.2]
    exact ⟨.of_eq rfl rfl, rfl⟩
  | some infos =>
    simp only [hinfo] at h
    obtain ⟨⟨target, infos'⟩, hget, heq⟩ := Option.bind_eq_some_iff.mp h
    cases heq
    obtain ⟨hsockets, haddrs⟩ := (RouteServiceInfos.getServiceSocket_cases hget).1
    refine ⟨⟨fun n => ?_, fun n => ?_, rfl⟩, rfl⟩
    · by_cases hn : serviceName = n
      · subst hn
        simp [socketsOf, infosOf, hinfo, hsockets]
      · simp [socketsOf, infosOf, hn, ExtTreeMap.getElem?_insert]
    · by_cases hn : serviceName = n
      · subst hn
        simp [addrOf, infosOf, hinfo, haddrs]
      · simp [addrOf, infosOf, hn, ExtTreeMap.getElem?_insert]

theorem getServerSocket_kept {r r' : RpcRoute} {channelSocket socket : Socket} {serviceName : ServiceName}
    (h : r.getServerSocket channelSocket serviceName = some (socket, r')) :
    Kept r r' ∧ r'.channelServiceRegister = r.channelServiceRegister := by
  unfold getServerSocket at h
  split at h
  · cases h
    exact ⟨.of_eq rfl rfl, rfl⟩
  · exact findServiceSocket_kept h

/-- Finding a server and binding a channel to it changes no registration. -/
theorem kept_bindChannel {r r' : RpcRoute} {serviceName n : ServiceName} {serviceAddr : ServiceAddr}
    {socket channelSocket : Socket} (h : r.findServiceSocket serviceName serviceAddr = some (socket, r')) :
    Kept r (r'.bindChannel channelSocket n socket) :=
  (findServiceSocket_kept h).1.trans (.of_eq rfl rfl)

theorem binding_bindChannel (r : RpcRoute) (channelSocket : Socket) (serviceName : ServiceName)
    (serverSocket c : Socket) (n : ServiceName) :
    (r.bindChannel channelSocket serviceName serverSocket).binding c n
      = if channelSocket = c ∧ serviceName = n ∧ r.binding c n = none then some serverSocket
        else r.binding c n := by
  by_cases hc : channelSocket = c
  · subst hc
    cases hmap : r.channelServiceRegister[channelSocket]? with
    | none => simp [binding, bindChannel, hmap, getElem?_insertIfNew_eq]
    | some bindings => simp [binding, bindChannel, hmap, getElem?_insertIfNew_eq]
  · simp [binding, bindChannel, hc, ExtTreeMap.getElem?_insert]

/-! ## Calls to the network -/

theorem foldl_netDisconnect_eq (r : RpcRoute) (sockets : List Socket) :
    sockets.foldl netDisconnect r = { r with netCalls := r.netCalls ++ sockets.map .disconnect } := by
  induction sockets generalizing r with
  | nil => simp
  | cons socket sockets ih =>
    rw [List.foldl_cons, ih (r.netDisconnect socket), List.map_cons]
    simp [netDisconnect]

theorem sendAll_eq [FrNet] (r : RpcRoute) (targets : List Socket) (packet : Option Bytes) :
    r.sendAll targets packet
      = { r with netCalls := r.netCalls ++ targets.map (fun target => .send target packet) } := by
  induction targets generalizing r with
  | nil => simp [sendAll]
  | cons target targets ih =>
    have htail := ih (r.netSend target packet).1
    rw [sendAll] at htail ⊢
    rw [List.foldl_cons, htail, List.map_cons]
    simp [netSend]

/-! ## Handlers -/

section

variable [Protobuf]

theorem serverDisconnectChannelFunc_cases (r : RpcRoute) (socket : Socket) (binary : Bytes) :
    (r.serverDisconnectChannelFunc socket binary).1 = r ∨ ∃ sockets : List Socket,
      (r.serverDisconnectChannelFunc socket binary).1 = sockets.foldl netDisconnect r := by
  unfold serverDisconnectChannelFunc
  split
  · exact Or.inl rfl
  · next request _ =>
    split
    · exact Or.inr ⟨request.channelSocket, rfl⟩
    · exact Or.inl rfl

/-- **What `ChannelServiceRegister` does**: nothing, or it looks a server up and binds the channel to what it
    has found. -/
theorem registerChannelService_cases {r r' : RpcRoute} {socket : Socket} {binary : Bytes} {ok : Bool}
    (h : r.registerChannelService socket binary = some (r', ok)) :
    ((parse binary : Option ChannelServiceRegister) = none ∧ r' = r ∧ ok = false) ∨
    ∃ (register : ChannelServiceRegister) (serverSocket : Socket) (r₁ : RpcRoute),
      parse binary = some register ∧
      r.findServiceSocket register.serviceName register.serviceAddr = some (serverSocket, r₁) ∧
      ((serverSocket = socketNull ∧ r' = r₁ ∧ ok = false) ∨
        (serverSocket ≠ socketNull ∧ r' = r₁.bindChannel socket register.serviceName serverSocket ∧
          ok = true)) := by
  unfold registerChannelService at h
  split at h
  · next hparse =>
    cases h
    exact Or.inl ⟨hparse, rfl, rfl⟩
  · next register hparse =>
    obtain ⟨⟨serverSocket, r₁⟩, hfind, h⟩ := Option.bind_eq_some_iff.mp h
    refine Or.inr ⟨register, serverSocket, r₁, hparse, hfind, ?_⟩
    dsimp only at h
    split at h
    · next hnull =>
      cases h
      exact Or.inl ⟨hnull, rfl, rfl⟩
    · next hne =>
      cases h
      exact Or.inr ⟨hne, rfl, rfl⟩

variable [FrNet]

/-- **What `RouteProcess` does**: nothing, or it sends the stamped frame to one socket, or the frame as it
    came in to each of its targets. -/
theorem routeProcess_cases {r r' : RpcRoute} {socket : Socket} {binary : Bytes} {offset : Int}
    {netInfo : NetInfo} {ok : Bool} (h : r.routeProcess socket binary offset netInfo = some (r', ok)) :
    r' = r ∨
    ∃ routeNetInfo : RouteNetInfo, parse netInfo.netBinary = some routeNetInfo ∧
      ((routeNetInfo.isChannelPacket = true ∧ ∃ target r₁ packet,
          r.getServerSocket socket routeNetInfo.serviceName = some (target, r₁) ∧
          packetPtr (channelPacket binary offset netInfo routeNetInfo socket) = some packet ∧
          r' = r₁.sendAll [target] packet) ∨
        (routeNetInfo.isChannelPacket = false ∧ ∃ size frame,
          readNumber sizeofPacketSize binary offset = .ok size ∧
          readBytes binary offset (sizeofPacketSize + size) = .ok frame ∧
          r' = r.sendAll routeNetInfo.targetSockets (some frame))) := by
  unfold routeProcess at h
  split at h
  · cases h
    exact Or.inl rfl
  · next routeNetInfo hparse =>
    refine Or.inr ⟨routeNetInfo, hparse, ?_⟩
    split at h
    · next hchannel =>
      obtain ⟨⟨target, r₁⟩, hserver, h⟩ := Option.bind_eq_some_iff.mp h
      obtain ⟨packet, hpacket, h⟩ := Option.bind_eq_some_iff.mp h
      cases h
      exact Or.inl ⟨hchannel, target, r₁, packet, hserver, hpacket, rfl⟩
    · next hchannel =>
      obtain ⟨size, hsize, h⟩ := Option.bind_eq_some_iff.mp h
      obtain ⟨frame, hframe, h⟩ := Option.bind_eq_some_iff.mp h
      cases h
      exact Or.inr ⟨Bool.eq_false_iff.mpr hchannel, size, frame, toOption_eq_some.mp hsize,
        toOption_eq_some.mp hframe, rfl⟩

omit [Protobuf] in
theorem heartProcess_cases {r r' : RpcRoute} {socket : Socket} {binary : Bytes} {offset : Int} {ok : Bool}
    (h : r.heartProcess socket binary offset = some (r', ok)) :
    ∃ packet, r' = (r.netSend socket (some packet)).1 := by
  obtain ⟨size, _, h⟩ := Option.bind_eq_some_iff.mp h
  obtain ⟨packet, _, h⟩ := Option.bind_eq_some_iff.mp h
  cases h
  exact ⟨packet, rfl⟩

end

/-! ## Events -/

section

variable [Protobuf] [FrNet]

/-- What an event can do to the registry and the bindings. -/
inductive Effect (r : RpcRoute) : Event → RpcRoute → Prop where
  | kept {e : Event} {r' : RpcRoute} (services : Kept r r')
      (bindings : r'.channelServiceRegister = r.channelServiceRegister) : Effect r e r'
  | register {socket : Socket} {binary : Bytes} {info : RouteServiceInfo} (parsed : parse binary = some info) :
      Effect r (.serverServiceRegister socket binary) (r.addService socket info.name info.addr).1
  | cancel {socket : Socket} {binary : Bytes} :
      Effect r (.serverServiceCancel socket binary) (r.deleteService socket).1
  | bind {socket serverSocket : Socket} {binary : Bytes} {n : ServiceName} {a : ServiceAddr} {r₁ : RpcRoute}
      (found : r.findServiceSocket n a = some (serverSocket, r₁)) (ne : serverSocket ≠ socketNull) :
      Effect r (.channelServiceRegister socket binary) (r₁.bindChannel socket n serverSocket)
  | disconnect {socket : Socket} : Effect r (.onDisconnect socket) (r.onDisconnect socket)
  | close : Effect r .onClose r.onClose

omit [FrNet] in
theorem Effect.of_eq {r r' : RpcRoute} {e : Event} (hinfo : r'.service2info = r.service2info)
    (hname : r'.serviceSocket2name = r.serviceSocket2name)
    (hbind : r'.channelServiceRegister = r.channelServiceRegister) : Effect r e r' :=
  .kept (.of_eq hinfo hname) hbind

theorem step_effect {r r' : RpcRoute} {e : Event} (h : step r e = some r') : Effect r e r' := by
  cases e with
  | onConnect socket => cases h; exact .of_eq rfl rfl rfl
  | updateSocket socket => cases h; exact .of_eq rfl rfl rfl
  | serverServiceRegister socket binary =>
    cases h
    unfold serverServiceRegister
    split
    · exact .of_eq rfl rfl rfl
    · next info hparse => exact .register hparse
  | serverServiceCancel socket binary => cases h; exact .cancel
  | serverDisconnectChannelFunc socket binary =>
    cases h
    rcases r.serverDisconnectChannelFunc_cases socket binary with heq | ⟨sockets, heq⟩
    · rw [heq]
      exact .of_eq rfl rfl rfl
    · rw [heq, foldl_netDisconnect_eq]
      exact .of_eq rfl rfl rfl
  | channelServiceRegister socket binary =>
    obtain ⟨⟨r₁, ok⟩, hregister, rfl⟩ := Option.map_eq_some_iff.mp h
    rcases registerChannelService_cases hregister with ⟨_, rfl, _⟩ | ⟨register, serverSocket, r₂, _, hfind, hbind⟩
    · exact .of_eq rfl rfl rfl
    · rcases hbind with ⟨_, rfl, _⟩ | ⟨hne, rfl, _⟩
      · obtain ⟨hkept, hbindings⟩ := findServiceSocket_kept hfind
        exact .kept hkept hbindings
      · exact .bind hfind hne
  | routeProcess socket binary offset netInfo =>
    obtain ⟨⟨r₁, ok⟩, hroute, rfl⟩ := Option.map_eq_some_iff.mp h
    rcases routeProcess_cases hroute with rfl | ⟨routeNetInfo, _, ⟨_, target, r₂, packet, hserver, _, rfl⟩ |
      ⟨_, size, frame, _, _, rfl⟩⟩
    · exact .of_eq rfl rfl rfl
    · obtain ⟨hkept, hbindings⟩ := getServerSocket_kept hserver
      rw [sendAll_eq]
      exact .kept (hkept.trans (.of_eq rfl rfl)) hbindings
    · rw [sendAll_eq]
      exact .of_eq rfl rfl rfl
  | heartProcess socket binary offset =>
    obtain ⟨⟨r₁, ok⟩, hheart, rfl⟩ := Option.map_eq_some_iff.mp h
    obtain ⟨packet, rfl⟩ := heartProcess_cases hheart
    exact .of_eq rfl rfl rfl
  | onDisconnect socket => cases h; exact .disconnect
  | onClose => cases h; exact .close

end

end RpcRoute

end Frrpc
