import Frrpc.Pb.Wire
import Frrpc.Route.Correctness.Effect

/-!
# `Route.Correctness.Registry` — the service registry

Three containers record a registration: the list and the address map of its service, and the recorded name
of its socket. `Consistent` relates them. A registration of a taken address records a name without a
registration, and an unregistration takes one registration away with the only name that leads to the
others; every other event keeps the relation (`registryStep_iff`), and so does every run without those two
(`registry_consistent`).
-/

namespace Frrpc

open Lib Std

namespace RpcRoute

/-- The socket has at most one registration. -/
def RegisteredOnce (r : RpcRoute) (socket : Socket) : Prop :=
  ∀ n, socket ∈ r.socketsOf n →
    (r.socketsOf n).count socket = 1 ∧ ∀ m, socket ∈ r.socketsOf m → m = n

/-- Every address map holds the sockets of its list. -/
def AllPaired (r : RpcRoute) : Prop := ∀ n, (r.infosOf n).Paired

/-- A recorded name leads to a registration, and every registered socket has one. -/
structure Consistent (r : RpcRoute) : Prop where
  paired : r.AllPaired
  recorded : ∀ s n, r.serviceSocket2name[s]? = some n → s ∈ r.socketsOf n
  listed : ∀ s n, s ∈ r.socketsOf n → r.isServiceSocket s = true

theorem isServiceSocket_iff (r : RpcRoute) (socket : Socket) :
    r.isServiceSocket socket = true ↔ ∃ n, r.serviceSocket2name[socket]? = some n := by
  rw [isServiceSocket, ← ExtTreeMap.isSome_getElem?_eq_contains, Option.isSome_iff_exists]

theorem Consistent.registered_iff {r : RpcRoute} (h : r.Consistent) (socket : Socket) :
    (∃ n, socket ∈ r.socketsOf n) ↔ r.isServiceSocket socket = true := by
  constructor
  · rintro ⟨n, hn⟩
    exact h.listed socket n hn
  · intro hservice
    obtain ⟨n, hn⟩ := (isServiceSocket_iff r socket).mp hservice
    exact ⟨n, h.recorded socket n hn⟩

theorem socketsOf_started (n : ServiceName) : started.socketsOf n = [] := by
  simp [socketsOf, infosOf, started, RouteServiceInfos.new]

theorem consistent_started : started.Consistent where
  paired n := by
    have hnew : started.infosOf n = .new := by simp [infosOf, started]
    rw [hnew]
    exact RouteServiceInfos.paired_new
  recorded s n h := by simp [started] at h
  listed s n h := by
    rw [socketsOf_started] at h
    cases h

/-! ## Keeping the registry -/

theorem AllPaired.kept {r r' : RpcRoute} (h : r.AllPaired) (hkept : Kept r r') : r'.AllPaired := by
  intro n
  have hpaired : (vals (r.addrOf n)).Perm (r.socketsOf n) := h n
  rw [← hkept.addrs n, ← hkept.sockets n] at hpaired
  exact hpaired

theorem isServiceSocket_kept {r r' : RpcRoute} (hkept : Kept r r') (socket : Socket) :
    r'.isServiceSocket socket = r.isServiceSocket socket := by
  rw [isServiceSocket, isServiceSocket, hkept.names]

theorem Consistent.kept {r r' : RpcRoute} (h : r.Consistent) (hkept : Kept r r') : r'.Consistent where
  paired := h.paired.kept hkept
  recorded s n hname := by
    rw [hkept.names] at hname
    rw [hkept.sockets]
    exact h.recorded s n hname
  listed s n hmem := by
    rw [hkept.sockets] at hmem
    rw [isServiceSocket_kept hkept]
    exact h.listed s n hmem

/-! ## Registering -/

theorem AllPaired.addService {r : RpcRoute} (h : r.AllPaired) (socket : Socket) (serviceName : ServiceName)
    (serviceAddr : ServiceAddr) : (r.addService socket serviceName serviceAddr).1.AllPaired := by
  intro n
  rw [infosOf_addService]
  split
  · exact (h serviceName).addService socket serviceAddr
  · exact h n

theorem names_addService (r : RpcRoute) (socket : Socket) (serviceName : ServiceName)
    (serviceAddr : ServiceAddr) : (r.addService socket serviceName serviceAddr).1.serviceSocket2name
      = r.serviceSocket2name.insertIfNew socket serviceName := rfl

/-- The socket is added to its service if the address is free. -/
theorem socketsOf_addService (r : RpcRoute) (socket : Socket) (serviceName : ServiceName)
    (serviceAddr : ServiceAddr) (n : ServiceName) :
    (r.addService socket serviceName serviceAddr).1.socketsOf n
      = if serviceName = n ∧ (r.addrOf serviceName)[serviceAddr]? = none
        then r.socketsOf n ++ [socket] else r.socketsOf n := by
  rw [socketsOf, infosOf_addService]
  by_cases hn : serviceName = n
  · subst hn
    rcases (r.infosOf serviceName).addService_cases socket serviceAddr with ⟨hfree, heq⟩ | ⟨htaken, heq⟩
    · rw [if_pos rfl, heq, if_pos ⟨rfl, hfree⟩]; rfl
    · rw [if_pos rfl, heq, if_neg (fun h => htaken h.2)]; rfl
  · rw [if_neg hn, if_neg (fun h => hn h.1)]; rfl

/-- A registration keeps the registry consistent if the address is free, or the socket has a name
    already. -/
theorem Consistent.addService {r : RpcRoute} (h : r.Consistent) {socket : Socket} {serviceName : ServiceName}
    {serviceAddr : ServiceAddr}
    (hok : (r.addrOf serviceName)[serviceAddr]? = none ∨ r.isServiceSocket socket = true) :
    (r.addService socket serviceName serviceAddr).1.Consistent where
  paired := h.paired.addService socket serviceName serviceAddr
  recorded s n hname := by
    rw [names_addService, getElem?_insertIfNew_eq] at hname
    rw [socketsOf_addService]
    split at hname
    · next hnew =>
      obtain ⟨rfl, hnone⟩ := hnew
      obtain rfl := Option.some.inj hname
      -- a new name, so the condition says that the address is free
      have hfree : (r.addrOf serviceName)[serviceAddr]? = none := by
        refine hok.resolve_right fun hservice => ?_
        obtain ⟨m, hm⟩ := (isServiceSocket_iff r socket).mp hservice
        rw [hnone] at hm
        cases hm
      rw [if_pos ⟨rfl, hfree⟩]
      exact List.mem_append_right _ (List.mem_singleton_self socket)
    · have hmem := h.recorded s n hname
      split
      · exact List.mem_append_left _ hmem
      · exact hmem
  listed s n hmem := by
    rw [isServiceSocket_iff, names_addService, getElem?_insertIfNew_eq]
    rw [socketsOf_addService] at hmem
    -- in the list before, or the one that registers
    have hcases : s ∈ r.socketsOf n ∨ s = socket := by
      split at hmem
      · simpa using hmem
      · exact Or.inl hmem
    rcases hcases with hold | rfl
    · obtain ⟨m, hm⟩ := (isServiceSocket_iff r s).mp (h.listed s n hold)
      exact ⟨m, by rw [if_neg (by rw [hm]; simp), hm]⟩
    · by_cases hnone : r.serviceSocket2name[s]? = none
      · exact ⟨serviceName, if_pos ⟨rfl, hnone⟩⟩
      · obtain ⟨m, hm⟩ := Option.ne_none_iff_exists'.mp hnone
        exact ⟨m, by rw [if_neg (fun hc => hnone hc.2), hm]⟩

/-! ## Unregistering -/

theorem AllPaired.deleteService {r : RpcRoute} (h : r.AllPaired) (socket : Socket) :
    (r.deleteService socket).1.AllPaired := by
  cases hname : r.serviceSocket2name[socket]? with
  | none => rw [deleteService_unrecorded hname]; exact h
  | some n =>
    cases hinfo : r.service2info[n]? with
    | none =>
      rw [deleteService_unknown hname hinfo]
      exact h
    | some infos =>
      intro m
      rw [infosOf_deleteService hname hinfo]
      split
      · split
        · exact RouteServiceInfos.paired_new
        · have hpaired : (r.infosOf n).Paired := h n
          rw [infosOf_of_some hinfo] at hpaired
          exact hpaired.deleteService socket
      · exact h m

/-- **A socket with one registration has none after it is unregistered.** -/
theorem not_mem_deleteService {r : RpcRoute} (h : r.Consistent) {socket : Socket}
    (honce : r.RegisteredOnce socket) (n : ServiceName) :
    socket ∉ (r.deleteService socket).1.socketsOf n := by
  cases hname : r.serviceSocket2name[socket]? with
  | none =>
    intro hmem
    rw [deleteService_unrecorded hname] at hmem
    obtain ⟨m, hm⟩ := (isServiceSocket_iff r socket).mp (h.listed socket n hmem)
    rw [hname] at hm
    cases hm
  | some m =>
    obtain ⟨hcount, hunique⟩ := honce m (h.recorded socket m hname)
    rw [socketsOf_deleteService hname]
    split
    · rw [← List.count_eq_zero, List.count_erase_self, hcount]
    · next hmn => exact fun hmem => hmn (hunique n hmem).symm

theorem not_service_deleteService {r : RpcRoute} (h : r.Consistent) (socket : Socket) :
    (r.deleteService socket).1.isServiceSocket socket = false := by
  rw [← Bool.not_eq_true, isServiceSocket_iff]
  cases hname : r.serviceSocket2name[socket]? with
  | none => rw [deleteService_unrecorded hname, hname]; simp
  | some n =>
    rw [names_deleteService hname (List.ne_nil_of_mem (h.recorded socket n hname))]
    simp

theorem Consistent.deleteService {r : RpcRoute} (h : r.Consistent) {socket : Socket}
    (honce : r.RegisteredOnce socket) : (r.deleteService socket).1.Consistent := by
  cases hname : r.serviceSocket2name[socket]? with
  | none => rw [deleteService_unrecorded hname]; exact h
  | some n =>
    have hnames := names_deleteService hname (List.ne_nil_of_mem (h.recorded socket n hname))
    refine ⟨h.paired.deleteService socket, fun s m hs => ?_, fun s m hs => ?_⟩
    · rw [hnames, ExtTreeMap.getElem?_erase] at hs
      split at hs
      · cases hs
      · next hne =>
        have hmem := h.recorded s m hs
        rw [socketsOf_deleteService hname]
        split
        · next hnm =>
          have hs : s ≠ socket := by
            rintro rfl
            exact hne ReflCmp.compare_self
          exact (List.mem_erase_of_ne hs).mpr (hnm ▸ hmem)
        · exact hmem
    · -- the socket itself is in no list any more, the others keep their names
      have hne : s ≠ socket := fun hc => not_mem_deleteService h honce m (hc ▸ hs)
      have hmem : s ∈ r.socketsOf m := by
        rw [socketsOf_deleteService hname] at hs
        split at hs
        · next hnm => exact hnm ▸ List.mem_of_mem_erase hs
        · exact hs
      obtain ⟨k, hk⟩ := (isServiceSocket_iff r s).mp (h.listed s m hmem)
      rw [isServiceSocket_iff, hnames, ExtTreeMap.getElem?_erase]
      exact ⟨k, by rw [if_neg (fun hc => hne (LawfulEqCmp.compare_eq_iff_eq.mp hc).symm), hk]⟩

/-! ## Events -/

/-- Nothing in the registry leads to the socket. -/
structure Gone (r : RpcRoute) (socket : Socket) : Prop where
  sockets : ∀ n, socket ∉ r.socketsOf n
  addrs : ∀ n, socket ∉ vals (r.addrOf n)
  name : r.isServiceSocket socket = false

theorem gone_onDisconnect {r : RpcRoute} (h : r.Consistent) {socket : Socket}
    (honce : r.RegisteredOnce socket) : (r.onDisconnect socket).Gone socket := by
  cases hservice : r.isServiceSocket socket with
  | true =>
    obtain ⟨hkept, _⟩ := onDisconnect_service hservice
    have hnot := not_mem_deleteService h honce
    refine ⟨fun n => ?_, fun n => ?_, ?_⟩
    · rw [hkept.sockets]
      exact hnot n
    · have hpaired : (vals ((r.deleteService socket).1.addrOf n)).Perm
          ((r.deleteService socket).1.socketsOf n) := h.paired.deleteService socket n
      rw [hkept.addrs]
      exact fun hmem => hnot n (hpaired.mem_iff.mp hmem)
    · rw [isServiceSocket_kept hkept]
      exact not_service_deleteService h socket
  | false =>
    obtain ⟨hkept, _⟩ := onDisconnect_channel hservice
    -- not recorded, so not listed either
    have hnot : ∀ n, socket ∉ r.socketsOf n := fun n hmem => by
      rw [h.listed socket n hmem] at hservice
      cases hservice
    refine ⟨fun n => ?_, fun n => ?_, ?_⟩
    · rw [hkept.sockets]
      exact hnot n
    · have hpaired : (vals (r.addrOf n)).Perm (r.socketsOf n) := h.paired n
      rw [hkept.addrs]
      exact fun hmem => hnot n (hpaired.mem_iff.mp hmem)
    · rw [isServiceSocket_kept hkept]
      exact hservice

/-- A socket that is unregistered and matches had one registration. -/
theorem registeredOnce_of_matches {r : RpcRoute} (h : r.Consistent) {socket : Socket}
    (hmatches : (∃ n, socket ∈ (r.deleteService socket).1.socketsOf n) ↔
      (r.deleteService socket).1.isServiceSocket socket = true) : r.RegisteredOnce socket := by
  have hnot : ∀ n, socket ∉ (r.deleteService socket).1.socketsOf n := fun n hmem => by
    have hservice := hmatches.mp ⟨n, hmem⟩
    rw [not_service_deleteService h socket] at hservice
    cases hservice
  intro n hn
  obtain ⟨m, hname⟩ := (isServiceSocket_iff r socket).mp (h.listed socket n hn)
  -- only the recorded service is touched, and there one occurrence goes
  have hunique : ∀ k, socket ∈ r.socketsOf k → k = m := by
    intro k hk
    by_contra hne
    apply hnot k
    rw [socketsOf_deleteService hname, if_neg (Ne.symm hne)]
    exact hk
  have hcount : (r.socketsOf m).count socket ≤ 1 := by
    have hm := hnot m
    rw [socketsOf_deleteService hname, if_pos rfl, ← List.count_eq_zero, List.count_erase_self] at hm
    omega
  obtain rfl := hunique n hn
  have hpos := List.count_pos_iff.mpr hn
  exact ⟨by omega, hunique⟩

section

variable [Protobuf] [FrNet]

/-- The events that keep the registry consistent: a registration names a free address unless the socket
    is recorded already, and a socket that is unregistered has one registration. -/
def RegistryStep (r : RpcRoute) : Event → Prop
  | .serverServiceRegister socket binary => ∀ info : RouteServiceInfo, parse binary = some info →
      (r.addrOf info.name)[info.addr]? = none ∨ r.isServiceSocket socket = true
  | .serverServiceCancel socket _ => r.RegisteredOnce socket
  | .onDisconnect socket => r.RegisteredOnce socket
  | _ => True

theorem Consistent.step {r r' : RpcRoute} {e : Event} (h : r.Consistent) (hok : RegistryStep r e)
    (hstep : step r e = some r') : r'.Consistent := by
  cases step_effect hstep with
  | kept services _ => exact h.kept services
  | register parsed => exact h.addService (hok _ parsed)
  | cancel => exact h.deleteService hok
  | bind found _ => exact h.kept (kept_bindChannel found)
  | disconnect =>
    rename_i socket
    cases hservice : r.isServiceSocket socket with
    | true => exact (h.deleteService hok).kept (onDisconnect_service hservice).1
    | false => exact h.kept (onDisconnect_channel hservice).1
  | close => exact consistent_started.kept (.of_eq rfl rfl)

/-- The registered sockets are the recorded ones. -/
def Matches (r : RpcRoute) : Prop :=
  ∀ s, (∃ n, s ∈ r.socketsOf n) ↔ r.isServiceSocket s = true

/-- **The condition on an event is exact.** -/
theorem registryStep_iff {r r' : RpcRoute} {e : Event} (h : r.Consistent) (hstep : step r e = some r') :
    r'.Matches ↔ RegistryStep r e := by
  refine ⟨fun hmatches => ?_, fun hok => (h.step hok hstep).registered_iff⟩
  cases e with
  | serverServiceRegister socket binary =>
    intro info hparse
    cases hstep
    have hregister : (r.serverServiceRegister socket binary).1
        = (r.addService socket info.name info.addr).1 := by
      rw [serverServiceRegister, hparse]
    rw [hregister] at hmatches
    by_contra hbad
    obtain ⟨htaken, hunrecorded⟩ := not_or.mp hbad
    have hnone : r.serviceSocket2name[socket]? = none := by
      cases hname : r.serviceSocket2name[socket]? with
      | none => rfl
      | some n => exact absurd ((isServiceSocket_iff r socket).mpr ⟨n, hname⟩) hunrecorded
    -- recorded, but in no list
    obtain ⟨n, hmem⟩ := (hmatches socket).mpr ((isServiceSocket_iff _ _).mpr
      ⟨info.name, by rw [names_addService, getElem?_insertIfNew_eq, if_pos ⟨rfl, hnone⟩]⟩)
    rw [socketsOf_addService, if_neg (fun hc => htaken hc.2)] at hmem
    exact hunrecorded (h.listed socket n hmem)
  | serverServiceCancel socket binary =>
    cases hstep
    exact registeredOnce_of_matches h (hmatches socket)
  | onDisconnect socket =>
    cases hstep
    cases hservice : r.isServiceSocket socket with
    | true =>
      obtain ⟨hkept, _⟩ := onDisconnect_service hservice
      have hsocket := hmatches socket
      simp only [hkept.sockets, isServiceSocket_kept hkept] at hsocket
      exact registeredOnce_of_matches h hsocket
    | false =>
      intro n hmem
      rw [h.listed socket n hmem] at hservice
      cases hservice
  | _ => trivial

/-- **The registry stays consistent in every run that meets the condition**: the registered sockets are
    the recorded ones, a disconnect that meets the condition leaves nothing behind, and the next step
    keeps them the same exactly when it meets the condition. -/
theorem registry_consistent {r : RpcRoute} (hrun : Reaches step RegistryStep started r) :
    (∀ s, (∃ n, s ∈ r.socketsOf n) ↔ r.isServiceSocket s = true) ∧
    (∀ s, RegistryStep r (.onDisconnect s) → (r.onDisconnect s).Gone s) ∧
    ∀ e r', step r e = some r' →
      ((∀ s, (∃ n, s ∈ r'.socketsOf n) ↔ r'.isServiceSocket s = true) ↔ RegistryStep r e) := by
  have hconsistent : r.Consistent :=
    hrun.invariant consistent_started fun _ _ _ hok h hstep => h.step hok hstep
  exact ⟨hconsistent.registered_iff, fun s honce => gone_onDisconnect hconsistent honce,
    fun e r' hstep => registryStep_iff hconsistent hstep⟩

end

/-! ## A server with two services -/

section

attribute [local instance] networkUp

/-- The payload of a registration. -/
def registration (name : ServiceName) (addr : ServiceAddr) : Bytes :=
  serialize (⟨name, addr⟩ : RouteServiceInfo)

theorem serverServiceRegister_registration (r : RpcRoute) (socket : Socket) {name : ServiceName}
    {addr : ServiceAddr} (hlen : (registration name addr).length < 2 ^ 31) :
    (r.serverServiceRegister socket (registration name addr)).1 = (r.addService socket name addr).1 := by
  have hparse : parse (registration name addr) = some (⟨name, addr⟩ : RouteServiceInfo) :=
    PbMessage.parse_serialize _ hlen
  rw [serverServiceRegister, hparse]

theorem step_registration (r : RpcRoute) (socket : Socket) {name : ServiceName}
    {addr : ServiceAddr} (hlen : (registration name addr).length < 2 ^ 31) :
    step r (.serverServiceRegister socket (registration name addr))
      = some (r.addService socket name addr).1 :=
  congrArg some (serverServiceRegister_registration r socket hlen)

theorem addrOf_started (n : ServiceName) : started.addrOf n = ∅ := by
  simp [addrOf, infosOf, started, RouteServiceInfos.new]

/-- The first registration of a gateway. -/
theorem socketsOf_first (socket : Socket) (name : ServiceName) (addr : ServiceAddr) (n : ServiceName) :
    (started.addService socket name addr).1.socketsOf n = if name = n then [socket] else [] := by
  rw [socketsOf_addService, socketsOf_started, addrOf_started]
  by_cases hn : name = n <;> simp [hn]

theorem names_first (socket : Socket) (name : ServiceName) (addr : ServiceAddr) :
    (started.addService socket name addr).1.serviceSocket2name[socket]? = some name := by
  rw [names_addService, getElem?_insertIfNew_eq, if_pos ⟨rfl, by simp [started]⟩]

theorem addrOf_first (socket : Socket) (name : ServiceName) (addr : ServiceAddr) :
    ((started.addService socket name addr).1.addrOf name)[addr]? = some socket := by
  have haddr : (started.addService socket name addr).1.addrOf name
      = (∅ : ExtTreeMap ServiceAddr Socket).insertIfNew addr socket := by
    rw [addrOf, infosOf_addService, if_pos rfl]
    simp [infosOf, started, RouteServiceInfos.new, RouteServiceInfos.addService]
  rw [haddr, getElem?_insertIfNew_eq, if_pos ⟨rfl, rfl⟩]

theorem consistent_first (socket : Socket) (name : ServiceName) (addr : ServiceAddr) :
    (started.addService socket name addr).1.Consistent :=
  consistent_started.addService (Or.inl (by simp [addrOf_started]))

/-- A server with one service leaves nothing behind. -/
theorem registry_consistent_oneService :
    ((started.addService 1 "A" "x").1.onDisconnect 1).Gone 1 := by
  have hok : RegistryStep started (.serverServiceRegister 1 (registration "A" "x")) :=
    fun _ _ => Or.inl (by simp [addrOf_started])
  have hrun : Reaches step RegistryStep started (started.addService 1 "A" "x").1 :=
    (Reaches.refl started).snoc hok (step_registration started 1 (by decide))
  apply (registry_consistent hrun).2.1 1
  intro n hmem
  have hname : ∀ m, 1 ∈ (started.addService 1 "A" "x").1.socketsOf m → "A" = m := by
    intro m hm
    rw [socketsOf_first] at hm
    by_contra hne
    rw [if_neg hne] at hm
    cases hm
  obtain rfl := hname n hmem
  refine ⟨?_, fun m hm => (hname m hm).symm⟩
  rw [socketsOf_first]
  rfl

theorem step_registration_Ax (r : RpcRoute) (socket : Socket) :
    step r (.serverServiceRegister socket (registration "A" "x")) = some (r.addService socket "A" "x").1 :=
  step_registration r socket (by decide)

theorem step_registration_By (r : RpcRoute) (socket : Socket) :
    step r (.serverServiceRegister socket (registration "B" "y")) = some (r.addService socket "B" "y").1 :=
  step_registration r socket (by decide)

/-- The name recorded for a server is its first, and the only one its disconnect looks at. -/
theorem twoServices_leftBehind {r : RpcRoute} (h : r.Consistent) {socket : Socket} {n m : ServiceName}
    {a : ServiceAddr} (hname : r.serviceSocket2name[socket]? = some n) (hnm : n ≠ m)
    (hfree : (r.addrOf m)[a]? = none) :
    socket ∈ ((r.addService socket m a).1.onDisconnect socket).socketsOf m ∧
      ((r.addService socket m a).1.onDisconnect socket).isServiceSocket socket = false := by
  have hservice := (isServiceSocket_iff r socket).mpr ⟨n, hname⟩
  have hconsistent : (r.addService socket m a).1.Consistent := h.addService (Or.inr hservice)
  have hname' : (r.addService socket m a).1.serviceSocket2name[socket]? = some n := by
    rw [names_addService, getElem?_insertIfNew_eq, if_neg (by rw [hname]; simp), hname]
  obtain ⟨hkept, _⟩ := onDisconnect_service ((isServiceSocket_iff _ _).mpr ⟨n, hname'⟩)
  constructor
  · rw [hkept.sockets, socketsOf_deleteService hname', if_neg hnm, socketsOf_addService,
      if_pos ⟨rfl, hfree⟩]
    exact List.mem_append_right _ (List.mem_singleton_self socket)
  · rw [isServiceSocket_kept hkept]
    exact not_service_deleteService hconsistent socket

/-- **A server with two services leaves one behind**, and a registration of a taken address records a
    server without one. -/
theorem registry_not_consistent :
    (∃ r, exec step started [.serverServiceRegister 1 (registration "A" "x"),
        .serverServiceRegister 1 (registration "B" "y"), .onDisconnect 1] = some r ∧
      1 ∈ r.socketsOf "B" ∧ r.isServiceSocket 1 = false) ∧
    (∃ r, exec step started [.serverServiceRegister 1 (registration "A" "x"),
        .serverServiceRegister 2 (registration "A" "x")] = some r ∧
      (∀ n, 2 ∉ r.socketsOf n) ∧ r.isServiceSocket 2 = true) := by
  constructor
  · refine ⟨((started.addService 1 "A" "x").1.addService 1 "B" "y").1.onDisconnect 1, ?_, ?_⟩
    · simp only [exec, List.foldlM_cons, List.foldlM_nil, step_registration_Ax, step_registration_By,
        Option.bind_eq_bind, Option.bind_some]
      rfl
    · have hfree : ((started.addService 1 "A" "x").1.addrOf "B")["y"]? = none := by
        rw [addrOf, infosOf_addService, if_neg (by decide), ← addrOf, addrOf_started]
        rfl
      exact twoServices_leftBehind (consistent_first 1 "A" "x") (names_first 1 "A" "x") (by decide) hfree
  · refine ⟨((started.addService 1 "A" "x").1.addService 2 "A" "x").1, ?_, fun n => ?_, ?_⟩
    · simp only [exec, List.foldlM_cons, List.foldlM_nil, step_registration_Ax, Option.bind_eq_bind,
        Option.bind_some]
      rfl
    · have htaken := addrOf_first 1 "A" "x"
      rw [socketsOf_addService, htaken, if_neg (by simp), socketsOf_first]
      split <;> decide
    · have hnone : (started.addService 1 "A" "x").1.serviceSocket2name[(2 : Socket)]? = none := by
        rw [names_addService, getElem?_insertIfNew_eq, if_neg (by decide)]
        rfl
      rw [isServiceSocket_iff, names_addService]
      exact ⟨"A", by rw [getElem?_insertIfNew_eq, if_pos ⟨rfl, hnone⟩]⟩

end

end RpcRoute

end Frrpc
