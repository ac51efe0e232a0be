import Frrpc.Route.Correctness.Registry

/-!
# `Route.Correctness.Failed` — what a failed command leaves behind

`AddService` records the name of the socket before it asks whether the address is taken, and a lookup without
an address moves the send index before its result is looked at. So a registration that fails leaves a name
behind unless the socket had one, and a channel's registration that fails may leave the send index moved
(`failed_unchanged_iff`). An unregistration that fails leaves nothing.
-/

namespace Frrpc

open Lib Std

namespace RpcRoute

/-- The commands that change the registry or the bindings. -/
inductive Command where
  | serverServiceRegister | serverServiceCancel | channelServiceRegister
deriving DecidableEq, Repr

section

variable [Protobuf]

def perform (command : Command) (r : RpcRoute) (socket : Socket) (binary : Bytes) : Option (RpcRoute × Bool) :=
  match command with
  | .serverServiceRegister => some (r.serverServiceRegister socket binary)
  | .serverServiceCancel => some (r.serverServiceCancel socket binary)
  | .channelServiceRegister => r.registerChannelService socket binary

omit [Protobuf] in
/-- The services with all they hold, the recorded names and the bindings are the same. -/
structure SameRegistry (r r' : RpcRoute) : Prop where
  service2info : r'.service2info = r.service2info
  serviceSocket2name : r'.serviceSocket2name = r.serviceSocket2name
  channelServiceRegister : r'.channelServiceRegister = r.channelServiceRegister

/-- The conditions under which a command leaves nothing behind when it fails: a socket that registers is
    recorded already, or its payload does not parse; and a channel that names no address does not move the
    send index of the service, if there is one with servers. -/
def LeavesNothing (command : Command) (r : RpcRoute) (socket : Socket) (binary : Bytes) : Prop :=
  match command with
  | .serverServiceRegister => (parse binary : Option RouteServiceInfo) = none ∨ r.isServiceSocket socket = true
  | .serverServiceCancel => True
  | .channelServiceRegister => ∀ register : ChannelServiceRegister, parse binary = some register →
      register.serviceAddr = "" → ∀ infos, r.service2info[register.serviceName]? = some infos →
        infos.sockets ≠ [] → infos.nextSendIndex = infos.curSendIndex

variable {r r' : RpcRoute} {socket : Socket} {binary : Bytes}

omit [Protobuf] in
theorem SameRegistry.refl (r : RpcRoute) : SameRegistry r r := ⟨rfl, rfl, rfl⟩

omit [Protobuf] in
/-- A taken address belongs to a service that is there. -/
theorem addService_failed {serviceName : ServiceName} {serviceAddr : ServiceAddr}
    (h : r.addService socket serviceName serviceAddr = (r', false)) :
    r' = { r with serviceSocket2name := r.serviceSocket2name.insertIfNew socket serviceName } := by
  have hadd : r.addService socket serviceName serviceAddr = ({ r with
      serviceSocket2name := r.serviceSocket2name.insertIfNew socket serviceName
      service2info :=
        r.service2info.insert serviceName ((r.infosOf serviceName).addService socket serviceAddr).1 },
      ((r.infosOf serviceName).addService socket serviceAddr).2) := rfl
  rcases (r.infosOf serviceName).addService_cases socket serviceAddr with ⟨_, heq⟩ | ⟨htaken, heq⟩
  · rw [hadd, heq] at h
    cases h
  · cases hinfo : r.service2info[serviceName]? with
    | none =>
      rw [infosOf_of_none hinfo] at htaken
      exact absurd ExtTreeMap.getElem?_empty htaken
    | some infos =>
      rw [hadd, heq, infosOf_of_some hinfo] at h
      rw [← (Prod.mk.inj h).1, insert_of_getElem? hinfo]

theorem register_unchanged_iff (h : r.serverServiceRegister socket binary = (r', false)) :
    SameRegistry r r' ↔ LeavesNothing .serverServiceRegister r socket binary := by
  unfold serverServiceRegister at h
  rw [LeavesNothing]
  split at h
  · next hparse =>
    cases h
    exact iff_of_true (.refl r) (Or.inl hparse)
  · next info hparse =>
    obtain rfl := addService_failed h
    rw [hparse, isServiceSocket]
    constructor
    · intro hsame
      have hnames : r.serviceSocket2name.insertIfNew socket info.name = r.serviceSocket2name :=
        hsame.serviceSocket2name
      refine Or.inr ?_
      rw [← hnames]
      simp
    · rintro (hnone | hservice)
      · cases hnone
      · exact ⟨rfl, insertIfNew_of_contains hservice, rfl⟩

omit [Protobuf] in
theorem cancel_unchanged (h : r.serverServiceCancel socket binary = (r', false)) : SameRegistry r r' := by
  unfold serverServiceCancel deleteService at h
  split at h
  · cases h
    exact .refl r
  · split at h
    · cases h
      exact .refl r
    · cases h

omit [Protobuf] in
/-- A lookup changes nothing but the send index, and that only where it takes the next server. -/
theorem findServiceSocket_unchanged_iff {serviceName : ServiceName} {serviceAddr : ServiceAddr} {s : Socket}
    (h : r.findServiceSocket serviceName serviceAddr = some (s, r')) :
    SameRegistry r r' ↔ (serviceAddr = "" → ∀ infos, r.service2info[serviceName]? = some infos →
      infos.sockets ≠ [] → infos.nextSendIndex = infos.curSendIndex) := by
  unfold findServiceSocket at h
  split at h
  · next hnone =>
    cases h
    exact iff_of_true (.refl r) fun _ infos hinfo => by rw [hnone] at hinfo; cases hinfo
  · next infos hinfo =>
    obtain ⟨⟨s, infos'⟩, hget, heq⟩ := Option.bind_eq_some_iff.mp h
    cases heq
    have hsame : SameRegistry r { r with service2info := r.service2info.insert serviceName infos' }
        ↔ infos' = infos := by
      constructor
      · intro hsame
        have hlookup := congrArg (fun m : ExtTreeMap ServiceName RouteServiceInfos => m[serviceName]?)
          hsame.service2info
        simp only [ExtTreeMap.getElem?_insert_self, hinfo, Option.some.injEq] at hlookup
        exact hlookup
      · rintro rfl
        exact ⟨insert_of_getElem? hinfo, rfl, rfl⟩
    rw [hsame]
    simp only [hinfo, Option.some.injEq, forall_eq']
    unfold RouteServiceInfos.getServiceSocket at hget
    split at hget
    · next hnil =>
      cases hget
      exact iff_of_true rfl fun _ hne => absurd hnil hne
    · next hne =>
      split at hget
      · next haddr =>
        dsimp only at hget
        split at hget
        · obtain ⟨_, _, heq⟩ := Option.bind_eq_some_iff.mp hget
          cases heq
          constructor
          · intro heq _ _
            exact congrArg RouteServiceInfos.curSendIndex heq
          · intro hindex
            rw [hindex haddr hne]
        · cases hget
      · next haddr =>
        cases hget
        exact iff_of_true rfl fun hempty => absurd hempty haddr

theorem channel_unchanged_iff (h : r.registerChannelService socket binary = some (r', false)) :
    SameRegistry r r' ↔ LeavesNothing .channelServiceRegister r socket binary := by
  rw [LeavesNothing]
  rcases registerChannelService_cases h with ⟨hparse, rfl, _⟩ | ⟨register, s, r₁, hparse, hfind, hbind⟩
  · refine iff_of_true (.refl r') fun register hregister => ?_
    rw [hparse] at hregister
    cases hregister
  · rcases hbind with ⟨_, rfl, _⟩ | ⟨_, _, hok⟩
    · rw [findServiceSocket_unchanged_iff hfind]
      simp only [hparse, Option.some.injEq, forall_eq']
    · cases hok

/-- **A command that fails changes nothing exactly when** it meets its condition. -/
theorem failed_unchanged_iff {command : Command} (h : r.perform command socket binary = some (r', false)) :
    SameRegistry r r' ↔ LeavesNothing command r socket binary := by
  cases command with
  | serverServiceRegister => exact register_unchanged_iff (Option.some.inj h)
  | serverServiceCancel => exact iff_of_true (cancel_unchanged (Option.some.inj h)) trivial
  | channelServiceRegister => exact channel_unchanged_iff h

end

/-! ## A taken address -/

section

attribute [local instance] networkUp

/-- One server, at the address `x`. -/
def oneServer : List Event := [.serverServiceRegister 1 (registration "A" "x")]

/-- A server that registers for a taken address again leaves nothing new behind. -/
theorem failed_unchanged_again :
    ∃ r r', exec step started oneServer = some r ∧
      r.perform .serverServiceRegister 1 (registration "A" "x") = some (r', false) ∧ SameRegistry r r' := by
  have hrun : (exec step started oneServer).bind (fun r =>
      (r.perform .serverServiceRegister 1 (registration "A" "x")).map fun result =>
        (result.2, r.isServiceSocket 1)) = some (false, true) := by decide
  obtain ⟨r, hexec, hrun⟩ := Option.bind_eq_some_iff.mp hrun
  obtain ⟨⟨r', ok⟩, hperform, heq⟩ := Option.map_eq_some_iff.mp hrun
  obtain ⟨rfl, hservice⟩ := Prod.mk.inj heq
  exact ⟨r, r', hexec, hperform, (failed_unchanged_iff hperform).mpr (Or.inr hservice)⟩

/-- **A registration that fails records the server**, which has no registration. -/
theorem failed_recorded :
    ∃ r r', exec step started oneServer = some r ∧
      r.perform .serverServiceRegister 2 (registration "A" "x") = some (r', false) ∧
      r.isServiceSocket 2 = false ∧ r'.isServiceSocket 2 = true ∧ ¬ SameRegistry r r' := by
  have hrun : (exec step started oneServer).bind (fun r =>
      (r.perform .serverServiceRegister 2 (registration "A" "x")).map fun result =>
        (result.2, r.isServiceSocket 2, result.1.isServiceSocket 2)) = some (false, false, true) := by decide
  obtain ⟨r, hexec, hrun⟩ := Option.bind_eq_some_iff.mp hrun
  obtain ⟨⟨r', ok⟩, hperform, heq⟩ := Option.map_eq_some_iff.mp hrun
  obtain ⟨rfl, heq⟩ := Prod.mk.inj heq
  obtain ⟨hbefore, hafter⟩ := Prod.mk.inj heq
  refine ⟨r, r', hexec, hperform, hbefore, hafter, fun hsame => ?_⟩
  rw [isServiceSocket, hsame.serviceSocket2name, ← isServiceSocket, hbefore] at hafter
  cases hafter

end

end RpcRoute

end Frrpc
