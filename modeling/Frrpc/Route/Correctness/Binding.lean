import Frrpc.Route.Correctness.Registry

/-!
# `Route.Correctness.Binding` — where a channel's messages go

A channel is bound to a server of a service, or the next server in turn is taken. A binding leads to a
server of its service (`Bound`) until that server is unregistered, or the gateway is closed: nothing clears
the bindings of other channels to it. Every other event keeps the relation (`bindingStep_iff`), and in every
run without those two a channel's message goes to a server of the service (`channel_routed`).
-/

namespace Frrpc

open Lib Std

namespace RpcRoute

/-- Every binding leads to a server of its service. -/
structure Bound (r : RpcRoute) : Prop where
  paired : r.AllPaired
  bound : ∀ c n s, r.binding c n = some s → s ≠ socketNull ∧ s ∈ r.socketsOf n

/-- No binding leads to the registration that the socket's unregistration takes away. -/
def Unbound (r : RpcRoute) (socket : Socket) : Prop :=
  ∀ n, r.serviceSocket2name[socket]? = some n →
    2 ≤ (r.socketsOf n).count socket ∨ ∀ c, r.binding c n ≠ some socket

theorem bound_started : started.Bound where
  paired := consistent_started.paired
  bound c n s h := by simp [binding, started] at h

theorem binding_of_eq {r r' : RpcRoute} (h : r'.channelServiceRegister = r.channelServiceRegister)
    (c : Socket) (n : ServiceName) : r'.binding c n = r.binding c n := by
  rw [binding, binding, h]

/-- With the same bindings, a service may only gain servers. -/
theorem Bound.grow {r r' : RpcRoute} (h : r.Bound) (hpaired : r'.AllPaired)
    (hbindings : r'.channelServiceRegister = r.channelServiceRegister)
    (hsockets : ∀ n s, s ∈ r.socketsOf n → s ∈ r'.socketsOf n) : r'.Bound where
  paired := hpaired
  bound c n s hbinding := by
    rw [binding_of_eq hbindings] at hbinding
    obtain ⟨hnull, hmem⟩ := h.bound c n s hbinding
    exact ⟨hnull, hsockets n s hmem⟩

theorem Bound.kept {r r' : RpcRoute} (h : r.Bound) (hkept : Kept r r')
    (hbindings : r'.channelServiceRegister = r.channelServiceRegister) : r'.Bound :=
  h.grow (h.paired.kept hkept) hbindings fun n s hmem => by rw [hkept.sockets]; exact hmem

theorem Bound.addService {r : RpcRoute} (h : r.Bound) (socket : Socket) (serviceName : ServiceName)
    (serviceAddr : ServiceAddr) : (r.addService socket serviceName serviceAddr).1.Bound := by
  refine h.grow (h.paired.addService socket serviceName serviceAddr) rfl fun n s hmem => ?_
  rw [socketsOf_addService]
  split
  · exact List.mem_append_left _ hmem
  · exact hmem

/-- **An unregistration that no binding leads to keeps every binding.** -/
theorem Bound.deleteService {r : RpcRoute} (h : r.Bound) {socket : Socket} (hok : r.Unbound socket) :
    (r.deleteService socket).1.Bound := by
  cases hname : r.serviceSocket2name[socket]? with
  | none => rw [deleteService_unrecorded hname]; exact h
  | some n =>
    refine ⟨h.paired.deleteService socket, fun c m s hbinding => ?_⟩
    rw [binding_of_eq (bindings_deleteService r socket)] at hbinding
    obtain ⟨hnull, hmem⟩ := h.bound c m s hbinding
    refine ⟨hnull, ?_⟩
    rw [socketsOf_deleteService hname]
    split
    · next hnm =>
      subst hnm
      by_cases hs : s = socket
      · subst hs
        rcases hok n hname with htwice | hunbound
        · -- registered twice, it stays in the list
          rw [← List.count_pos_iff, List.count_erase_self]
          omega
        · exact absurd hbinding (hunbound c)
      · exact (List.mem_erase_of_ne hs).mpr hmem
    · exact hmem

/-- A lookup yields a server of the service or none. -/
theorem findServiceSocket_mem {r r' : RpcRoute} (hpaired : r.AllPaired) {serviceName : ServiceName}
    {serviceAddr : ServiceAddr} {socket : Socket}
    (h : r.findServiceSocket serviceName serviceAddr = some (socket, r')) :
    socket = socketNull ∨ socket ∈ r.socketsOf serviceName := by
  unfold findServiceSocket at h
  cases hinfo : r.service2info[serviceName]? with
  | none =>
    simp only [hinfo, Option.some.injEq, Prod.mk.injEq] at h
    exact Or.inl h.1.symm
  | some infos =>
    simp only [hinfo] at h
    obtain ⟨⟨target, infos'⟩, hget, heq⟩ := Option.bind_eq_some_iff.mp h
    cases heq
    have hinfos : r.infosOf serviceName = infos := infosOf_of_some hinfo
    have hserver := RouteServiceInfos.getServiceSocket_mem (hinfos ▸ hpaired serviceName) hget
    rw [socketsOf, hinfos]
    exact hserver

/-- A taken address is found. -/
theorem findServiceSocket_addr {r : RpcRoute} (hpaired : r.AllPaired) {serviceName : ServiceName}
    {serviceAddr : ServiceAddr} {socket : Socket} (hne : serviceAddr ≠ "")
    (haddr : (r.addrOf serviceName)[serviceAddr]? = some socket) :
    ∃ r', r.findServiceSocket serviceName serviceAddr = some (socket, r') := by
  have hmem : socket ∈ (r.infosOf serviceName).sockets :=
    (hpaired serviceName).mem_iff.mp (mem_vals.mpr ⟨serviceAddr, haddr⟩)
  unfold findServiceSocket
  cases hinfo : r.service2info[serviceName]? with
  | none =>
    rw [infosOf_of_none hinfo] at hmem
    cases hmem
  | some infos =>
    have hinfos : r.infosOf serviceName = infos := infosOf_of_some hinfo
    rw [addrOf, hinfos] at haddr
    rw [hinfos] at hmem
    have hget : infos.getServiceSocket serviceAddr = some (socket, infos) := by
      rw [RouteServiceInfos.getServiceSocket, if_neg (List.ne_nil_of_mem hmem), if_neg hne, haddr]
      rfl
    simp only [hget]
    exact ⟨_, rfl⟩

theorem findServiceSocket_isSome (r : RpcRoute) (serviceName : ServiceName) (serviceAddr : ServiceAddr)
    (hlen : (r.socketsOf serviceName).length ≤ 2 ^ 31) :
    ∃ socket r', r.findServiceSocket serviceName serviceAddr = some (socket, r') := by
  unfold findServiceSocket
  cases hinfo : r.service2info[serviceName]? with
  | none => exact ⟨_, _, rfl⟩
  | some infos =>
    have hinfos : r.infosOf serviceName = infos := infosOf_of_some hinfo
    rw [socketsOf, hinfos] at hlen
    obtain ⟨socket, infos', hget⟩ := infos.getServiceSocket_isSome serviceAddr hlen
    simp only [hget]
    exact ⟨_, _, rfl⟩

theorem Bound.bindChannel {r r₁ : RpcRoute} (h : r.Bound) {channelSocket serverSocket : Socket}
    {serviceName : ServiceName} {serviceAddr : ServiceAddr}
    (hfind : r.findServiceSocket serviceName serviceAddr = some (serverSocket, r₁))
    (hne : serverSocket ≠ socketNull) : (r₁.bindChannel channelSocket serviceName serverSocket).Bound := by
  obtain ⟨hkept, hbindings⟩ := findServiceSocket_kept hfind
  have hmem := (findServiceSocket_mem h.paired hfind).resolve_left hne
  have hsockets : ∀ n, (r₁.bindChannel channelSocket serviceName serverSocket).socketsOf n = r.socketsOf n :=
    hkept.sockets
  refine ⟨h.paired.kept (kept_bindChannel hfind), fun c n s hbinding => ?_⟩
  rw [hsockets]
  rw [binding_bindChannel, binding_of_eq hbindings] at hbinding
  split at hbinding
  · -- the new binding is to the server just found
    next hnew =>
    obtain ⟨_, rfl, _⟩ := hnew
    cases hbinding
    exact ⟨hne, hmem⟩
  · exact h.bound c n s hbinding

section

variable [Protobuf] [FrNet]

/-- The events that keep every binding at a server of its service: an unregistered server has no binding,
    and the gateway is closed without any. -/
def BindingStep (r : RpcRoute) : Event → Prop
  | .serverServiceCancel socket _ => r.Unbound socket
  | .onDisconnect socket => r.Unbound socket
  | .onClose => ∀ c n, r.binding c n = none
  | _ => True

theorem Bound.step {r r' : RpcRoute} {e : Event} (h : r.Bound) (hok : BindingStep r e)
    (hstep : step r e = some r') : r'.Bound := by
  cases step_effect hstep with
  | kept services bindings => exact h.kept services bindings
  | register _ => exact h.addService _ _ _
  | cancel => exact h.deleteService hok
  | bind found ne => exact h.bindChannel found ne
  | disconnect =>
    rename_i socket
    cases hservice : r.isServiceSocket socket with
    | true =>
      obtain ⟨hkept, hbindings⟩ := onDisconnect_service hservice
      exact (h.deleteService hok).kept hkept (hbindings.trans (bindings_deleteService r socket).symm)
    | false =>
      obtain ⟨hkept, hbindings⟩ := onDisconnect_channel hservice
      refine ⟨h.paired.kept hkept, fun c n s hbinding => ?_⟩
      rw [hkept.sockets]
      rw [binding, hbindings, ExtTreeMap.getElem?_erase] at hbinding
      split at hbinding
      · cases hbinding
      · exact h.bound c n s hbinding
  | close =>
    refine ⟨consistent_started.paired.kept (.of_eq rfl rfl), fun c n s hbinding => ?_⟩
    have hnone : r.onClose.binding c n = none := hok c n
    rw [hnone] at hbinding
    cases hbinding

end

/-! ## Routing -/

/-- Every channel's message for a service goes nowhere or to a server of the service. -/
def Routes (r : RpcRoute) : Prop :=
  ∀ c n target r', r.getServerSocket c n = some (target, r') → target = socketNull ∨ target ∈ r.socketsOf n

theorem getServerSocket_bound {r : RpcRoute} {c target : Socket} {n : ServiceName}
    (h : r.binding c n = some target) : r.getServerSocket c n = some (target, r) := by
  rw [getServerSocket, h]

theorem Bound.routes {r : RpcRoute} (h : r.Bound) : r.Routes := by
  intro c n target r' hserver
  unfold getServerSocket at hserver
  split at hserver
  · next s hbinding =>
    cases hserver
    exact Or.inr (h.bound c n _ hbinding).2
  · exact findServiceSocket_mem h.paired hserver

/-- `sockets_.at` does not throw as long as an `int32_t` indexes the servers of the service. -/
theorem getServerSocket_isSome (r : RpcRoute) (c : Socket) (n : ServiceName)
    (hlen : (r.socketsOf n).length ≤ 2 ^ 31) : ∃ target r', r.getServerSocket c n = some (target, r') := by
  unfold getServerSocket
  split
  · exact ⟨_, _, rfl⟩
  · exact findServiceSocket_isSome r n "" hlen

/-- A binding that routes leads to a server of its service. -/
theorem Routes.mem {r : RpcRoute} (h : r.Routes) {c s : Socket} {n : ServiceName}
    (hbinding : r.binding c n = some s) (hne : s ≠ socketNull) : s ∈ r.socketsOf n :=
  (h c n s r (getServerSocket_bound hbinding)).resolve_left hne

/-- If every message is routed after an unregistration, no binding led to it. -/
theorem unbound_of_routes {r r' : RpcRoute} (h : r.Bound) {socket : Socket}
    (hkept : Kept (r.deleteService socket).1 r')
    (hbindings : r'.channelServiceRegister = r.channelServiceRegister) (hroutes : r'.Routes) :
    r.Unbound socket := by
  intro n hname
  by_contra hbad
  obtain ⟨hcount, hbound⟩ := not_or.mp hbad
  obtain ⟨c, hc⟩ := not_forall.mp hbound
  have hbinding : r.binding c n = some socket := not_not.mp hc
  have hmem := hroutes.mem ((binding_of_eq hbindings c n).trans hbinding) (h.bound c n socket hbinding).1
  rw [hkept.sockets, socketsOf_deleteService hname, if_pos rfl, ← List.count_pos_iff,
    List.count_erase_self] at hmem
  omega

section

variable [Protobuf] [FrNet]

/-- **The condition on an event is exact.** -/
theorem bindingStep_iff {r r' : RpcRoute} {e : Event} (h : r.Bound) (hstep : step r e = some r') :
    r'.Routes ↔ BindingStep r e := by
  refine ⟨fun hroutes => ?_, fun hok => (h.step hok hstep).routes⟩
  cases e with
  | serverServiceCancel socket binary =>
    cases hstep
    exact unbound_of_routes h (.of_eq rfl rfl) (bindings_deleteService r socket) hroutes
  | onDisconnect socket =>
    cases hstep
    cases hservice : r.isServiceSocket socket with
    | true =>
      obtain ⟨hkept, hbindings⟩ := onDisconnect_service hservice
      exact unbound_of_routes h hkept hbindings hroutes
    | false =>
      intro n hname
      rw [(isServiceSocket_iff r socket).mpr ⟨n, hname⟩] at hservice
      cases hservice
  | onClose =>
    cases hstep
    intro c n
    cases hbinding : r.binding c n with
    | none => rfl
    | some s =>
      -- closing leaves no servers, so a binding leads nowhere
      have hmem : s ∈ started.socketsOf n :=
        hroutes.mem (show r.onClose.binding c n = some s from hbinding) (h.bound c n s hbinding).1
      rw [socketsOf_started] at hmem
      cases hmem
  | _ => trivial

/-- **A channel's message goes to a server of the named service in every run that meets the condition**,
    and the next step keeps it so exactly when it meets the condition. -/
theorem channel_routed {r : RpcRoute} (hrun : Reaches step BindingStep started r) :
    (∀ c n target r', r.getServerSocket c n = some (target, r') →
      target = socketNull ∨ target ∈ r.socketsOf n) ∧
    (∀ c n, (r.socketsOf n).length ≤ 2 ^ 31 → ∃ target r', r.getServerSocket c n = some (target, r')) ∧
    ∀ e r', step r e = some r' → (r'.Routes ↔ BindingStep r e) := by
  have hbound : r.Bound := hrun.invariant bound_started fun _ _ _ hok h hstep => h.step hok hstep
  exact ⟨hbound.routes, r.getServerSocket_isSome, fun e r' hstep => bindingStep_iff hbound hstep⟩

end

/-! ## A bound channel -/

section

attribute [local instance] networkUp

/-- The payload of a channel's registration. -/
def channelRegistration (name : ServiceName) (addr : ServiceAddr) : Bytes :=
  serialize (⟨name, addr⟩ : ChannelServiceRegister)

theorem step_channelRegistration {r r₁ : RpcRoute} {c server : Socket} {n : ServiceName} {a : ServiceAddr}
    (hlen : (channelRegistration n a).length < 2 ^ 31)
    (hfind : r.findServiceSocket n a = some (server, r₁)) (hne : server ≠ socketNull) :
    step r (.channelServiceRegister c (channelRegistration n a)) = some (r₁.bindChannel c n server) := by
  have hparse : parse (channelRegistration n a) = some (⟨n, a⟩ : ChannelServiceRegister) :=
    PbMessage.parse_serialize _ hlen
  simp only [step, registerChannelService, hparse, hfind, Option.bind_eq_bind, Option.bind_some, if_neg hne]
  rfl

/-- Channel 2 binds itself to the only server of a service. -/
theorem boundChannel_run :
    ∃ r, exec step started [.serverServiceRegister 1 (registration "A" "x"),
        .channelServiceRegister 2 (channelRegistration "A" "x")] = some r ∧
      Reaches step BindingStep started r ∧ r.binding 2 "A" = some 1 ∧
      Kept (started.addService 1 "A" "x").1 r := by
  obtain ⟨r₁, hfind⟩ := findServiceSocket_addr (consistent_first 1 "A" "x").paired
    (show "x" ≠ "" by decide) (addrOf_first 1 "A" "x")
  obtain ⟨hkept, hbindings⟩ := findServiceSocket_kept hfind
  have hbind : step (started.addService 1 "A" "x").1
      (.channelServiceRegister 2 (channelRegistration "A" "x")) = some (r₁.bindChannel 2 "A" 1) :=
    step_channelRegistration (by decide) hfind (by decide)
  have hnone : r₁.binding 2 "A" = none := (binding_of_eq hbindings 2 "A").trans rfl
  refine ⟨r₁.bindChannel 2 "A" 1, ?_, ?_, ?_, hkept.trans (.of_eq rfl rfl)⟩
  · simp only [exec, List.foldlM_cons, List.foldlM_nil, step_registration_Ax, hbind, Option.bind_eq_bind,
      Option.bind_some]
    rfl
  · have hregister : Reaches step BindingStep started (started.addService 1 "A" "x").1 :=
      (Reaches.refl started).snoc (show BindingStep started (.serverServiceRegister 1 _) from trivial)
        (step_registration_Ax started 1)
    exact hregister.snoc (show BindingStep _ (.channelServiceRegister 2 _) from trivial) hbind
  · rw [binding_bindChannel, if_pos ⟨rfl, rfl, hnone⟩]

/-- The bound channel's messages go to the server. -/
theorem channel_routed_bound : ∃ r : RpcRoute, r.binding 2 "A" = some 1 ∧
    ∀ target r', r.getServerSocket 2 "A" = some (target, r') →
      target = socketNull ∨ target ∈ r.socketsOf "A" := by
  obtain ⟨r, _, hrun, hbinding, _⟩ := boundChannel_run
  exact ⟨r, hbinding, (channel_routed hrun).1 2 "A"⟩

/-- **After the server has disconnected the channel's messages still go to its socket.** -/
theorem channel_not_routed :
    ∃ r, exec step started [.serverServiceRegister 1 (registration "A" "x"),
        .channelServiceRegister 2 (channelRegistration "A" "x"), .onDisconnect 1] = some r ∧
      r.getServerSocket 2 "A" = some (1, r) ∧ 1 ≠ socketNull ∧ 1 ∉ r.socketsOf "A" := by
  obtain ⟨r, hexec, _, hbinding, hkept⟩ := boundChannel_run
  have hname : r.serviceSocket2name[(1 : Socket)]? = some "A" := by
    rw [hkept.names]
    exact names_first 1 "A" "x"
  obtain ⟨hdisconnect, hbindings⟩ := onDisconnect_service ((isServiceSocket_iff r 1).mpr ⟨"A", hname⟩)
  refine ⟨r.onDisconnect 1, ?_, ?_, by decide, ?_⟩
  · rw [exec] at hexec ⊢
    rw [show [Event.serverServiceRegister 1 (registration "A" "x"),
        .channelServiceRegister 2 (channelRegistration "A" "x"), .onDisconnect 1]
      = [.serverServiceRegister 1 (registration "A" "x"),
        .channelServiceRegister 2 (channelRegistration "A" "x")] ++ [.onDisconnect 1] from rfl,
      List.foldlM_append, hexec]
    rfl
  · exact getServerSocket_bound ((binding_of_eq hbindings 2 "A").trans hbinding)
  · rw [hdisconnect.sockets, socketsOf_deleteService hname, if_pos rfl, hkept.sockets, socketsOf_first]
    decide

end

end RpcRoute

end Frrpc
