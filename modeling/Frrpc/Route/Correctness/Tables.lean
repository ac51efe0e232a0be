import Frrpc.Route.Correctness.Binding
import Frrpc.Route.Correctness.RoundRobin

/-!
# `Route.Correctness.Tables` — the tables behind a lookup

Each service of the gateway has a list of sockets for balancing and a map of them by address. The list and
the map are updated by loops of their own, and the gateway makes and drops the entry around them; whatever
the order of events, an entry that is there has a server, the same sockets in both places and a send index
that can move on (`Tables`). So a lookup without an address fails exactly for the services that are not there
(`tables_wellFormed`).
-/

namespace Frrpc

open Lib Std

/-! ## One service -/

namespace RouteServiceInfos

/-- What a stored service is like: it has a server, and the list and the map hold the same sockets, as
    often. -/
structure WellFormed (infos : RouteServiceInfos) : Prop where
  nonempty : infos.sockets ≠ []
  paired : (vals infos.addr2socket).Perm infos.sockets
  nonneg : 0 ≤ infos.curSendIndex

/-- What its operations keep, also while it is empty: the next send index is in range, and no socket is
    null. -/
structure Sound (infos : RouteServiceInfos) : Prop where
  indexable : infos.Indexable
  paired : infos.Paired
  nonNull : ∀ socket ∈ infos.sockets, socket ≠ socketNull

variable {infos infos' : RouteServiceInfos} {socket : Socket} {serviceAddr : ServiceAddr}

theorem sound_new : new.Sound := ⟨indexable_new, paired_new, nofun⟩

/-- A registration leaves a server behind: its own, or the one that has the address. -/
theorem addService_ne_nil (h : infos.Paired) (socket : Socket) (serviceAddr : ServiceAddr) :
    (infos.addService socket serviceAddr).1.sockets ≠ [] := by
  rcases addService_cases infos socket serviceAddr with ⟨_, heq⟩ | ⟨htaken, heq⟩
  · rw [heq]
    exact List.append_ne_nil_of_right_ne_nil _ (List.cons_ne_nil _ _)
  · rw [heq]
    obtain ⟨owner, howner⟩ := Option.ne_none_iff_exists'.mp htaken
    exact List.ne_nil_of_mem (h.mem_iff.mp (mem_vals.mpr ⟨serviceAddr, howner⟩))

theorem Sound.addService (h : infos.Sound) (hsocket : socket ≠ socketNull)
    (hlength : (infos.addService socket serviceAddr).1.sockets.length ≤ 2 ^ 31 - 1) :
    (infos.addService socket serviceAddr).1.Sound := by
  refine ⟨⟨hlength, ?_, ?_⟩, h.paired.addService socket serviceAddr, ?_⟩
  · rw [curSendIndex_addService]
    exact h.indexable.nonneg
  · rw [curSendIndex_addService]
    exact h.indexable.lt
  · rcases addService_cases infos socket serviceAddr with ⟨_, heq⟩ | ⟨_, heq⟩
    · rw [heq]
      intro s hs
      rcases List.mem_append.mp hs with hs | hs
      · exact h.nonNull s hs
      · rw [List.mem_singleton.mp hs]
        exact hsocket
    · rw [heq]
      exact h.nonNull

theorem Sound.deleteService (h : infos.Sound) (socket : Socket) : (infos.deleteService socket).Sound where
  indexable :=
    ⟨Nat.le_trans List.length_erase_le h.indexable.length_le, h.indexable.nonneg, h.indexable.lt⟩
  paired := h.paired.deleteService socket
  nonNull s hs := h.nonNull s (List.mem_of_mem_erase hs)

/-- A lookup moves at most the send index. -/
theorem Sound.getServiceSocket (h : infos.Sound)
    (hget : infos.getServiceSocket serviceAddr = some (socket, infos')) : infos'.Sound := by
  obtain ⟨hsockets, haddrs⟩ := (getServiceSocket_cases hget).1
  have hstep : infos.step (.getServiceSocket serviceAddr) = some infos' := by
    rw [step, hget]
    rfl
  have hcounted : Counted infos (.getServiceSocket serviceAddr) := by
    intro infos₁ hstep₁
    obtain rfl := Option.some.inj (hstep.symm.trans hstep₁)
    rw [hsockets]
    exact h.indexable.length_le
  refine ⟨h.indexable.step hcounted hstep, ?_, ?_⟩
  · rw [Paired, hsockets, haddrs]
    exact h.paired
  · rw [hsockets]
    exact h.nonNull

theorem Sound.wellFormed (h : infos.Sound) (hne : infos.sockets ≠ []) : infos.WellFormed :=
  ⟨hne, h.paired, h.indexable.nonneg⟩

end RouteServiceInfos

/-! ## All services -/

namespace RpcRoute

/-- Every service that is there has a server and is sound. -/
def Tables (r : RpcRoute) : Prop :=
  ∀ (n : ServiceName) (infos : RouteServiceInfos), r.service2info[n]? = some infos →
    infos.Sound ∧ infos.sockets ≠ []

variable {r r' : RpcRoute}

theorem tables_of_empty (h : r.service2info = ∅) : r.Tables := by
  intro n infos hinfo
  rw [h, ExtTreeMap.getElem?_empty] at hinfo
  cases hinfo

theorem Tables.of_eq (h : r.Tables) (hinfo : r'.service2info = r.service2info) : r'.Tables := by
  rw [Tables, hinfo]
  exact h

/-- One service is replaced. -/
theorem Tables.insert (h : r.Tables) {n : ServiceName} {infos : RouteServiceInfos}
    (hinfo : r'.service2info = r.service2info.insert n infos) (hsound : infos.Sound)
    (hne : infos.sockets ≠ []) : r'.Tables := by
  intro m infos' hm
  rw [hinfo, ExtTreeMap.getElem?_insert] at hm
  split at hm
  · cases hm
    exact ⟨hsound, hne⟩
  · exact h m infos' hm

theorem Tables.infosOf_sound (h : r.Tables) (n : ServiceName) : (r.infosOf n).Sound := by
  cases hinfo : r.service2info[n]? with
  | none =>
    rw [infosOf_of_none hinfo]
    exact RouteServiceInfos.sound_new
  | some infos =>
    rw [infosOf_of_some hinfo]
    exact (h n infos hinfo).1

theorem Tables.addService (h : r.Tables) {socket : Socket} {n : ServiceName} {a : ServiceAddr}
    (hsocket : socket ≠ socketNull) (hlength : ((r.addService socket n a).1.socketsOf n).length ≤ 2 ^ 31 - 1) :
    (r.addService socket n a).1.Tables := by
  rw [socketsOf, infosOf_addService, if_pos rfl] at hlength
  exact h.insert rfl ((h.infosOf_sound n).addService hsocket hlength)
    (RouteServiceInfos.addService_ne_nil (h.infosOf_sound n).paired socket a)

/-- A service whose last server goes is dropped, so what is kept has one. -/
theorem Tables.deleteService (h : r.Tables) (socket : Socket) : (r.deleteService socket).1.Tables := by
  cases hname : r.serviceSocket2name[socket]? with
  | none =>
    rw [deleteService_unrecorded hname]
    exact h
  | some n =>
    cases hinfo : r.service2info[n]? with
    | none =>
      rw [deleteService_unknown hname hinfo]
      exact h
    | some infos =>
      have hdelete : (r.deleteService socket).1.service2info
          = if (infos.deleteService socket).serviceSize = 0 then r.service2info.erase n
            else r.service2info.insert n (infos.deleteService socket) := by
        simp only [RpcRoute.deleteService, hname, hinfo]
      by_cases hzero : (infos.deleteService socket).serviceSize = 0
      · rw [if_pos hzero] at hdelete
        intro m infos' hm
        rw [hdelete, ExtTreeMap.getElem?_erase] at hm
        split at hm
        · cases hm
        · exact h m infos' hm
      · rw [if_neg hzero] at hdelete
        exact h.insert hdelete ((h n infos hinfo).1.deleteService socket) fun hnil =>
          hzero (congrArg List.length hnil)

theorem Tables.findServiceSocket (h : r.Tables) {n : ServiceName} {a : ServiceAddr} {socket : Socket}
    (hfind : r.findServiceSocket n a = some (socket, r')) : r'.Tables := by
  unfold RpcRoute.findServiceSocket at hfind
  cases hinfo : r.service2info[n]? with
  | none =>
    rw [hinfo] at hfind
    cases hfind
    exact h
  | some infos =>
    rw [hinfo] at hfind
    obtain ⟨⟨target, infos'⟩, hget, heq⟩ := Option.bind_eq_some_iff.mp hfind
    cases heq
    obtain ⟨hsound, hne⟩ := h n infos hinfo
    refine h.insert rfl (hsound.getServiceSocket hget) ?_
    rw [(RouteServiceInfos.getServiceSocket_cases hget).1.1]
    exact hne

theorem Tables.getServerSocket (h : r.Tables) {channelSocket socket : Socket} {n : ServiceName}
    (hserver : r.getServerSocket channelSocket n = some (socket, r')) : r'.Tables := by
  unfold RpcRoute.getServerSocket at hserver
  split at hserver
  · cases hserver
    exact h
  · exact h.findServiceSocket hserver

/-- **The null socket comes exactly from a service that is not there**, and an addressed lookup yields a
    server of the service or none. -/
theorem Tables.lookup (h : r.Tables) (n : ServiceName) :
    (∃ socket r', r.findServiceSocket n "" = some (socket, r') ∧
      (socket = socketNull ↔ n ∉ r.service2info)) ∧
    ∀ a, a ≠ "" → ∃ socket r', r.findServiceSocket n a = some (socket, r') ∧
      (socket ∈ r.socketsOf n ∨ socket = socketNull) := by
  have hlength : (r.socketsOf n).length ≤ 2 ^ 31 :=
    Nat.le_trans (h.infosOf_sound n).indexable.length_le (by decide)
  have hpaired : r.AllPaired := fun m => (h.infosOf_sound m).paired
  constructor
  · rw [← ExtTreeMap.isSome_getElem?_iff_mem, Bool.not_eq_true, Option.isSome_eq_false_iff,
      Option.isNone_iff_eq_none]
    cases hinfo : r.service2info[n]? with
    | none =>
      refine ⟨socketNull, r, ?_, by simp⟩
      rw [RpcRoute.findServiceSocket, hinfo]
    | some infos =>
      obtain ⟨hsound, hne⟩ := h n infos hinfo
      obtain ⟨socket, hsocket, hturn⟩ := hsound.indexable.getServiceSocket_turn hne
      have hnonNull := hsound.nonNull socket (List.mem_of_getElem? hsocket)
      obtain ⟨r', hfind⟩ : ∃ r', r.findServiceSocket n "" = some (socket, r') := by
        rw [RpcRoute.findServiceSocket, hinfo]
        simp only [hturn]
        exact ⟨_, rfl⟩
      exact ⟨socket, r', hfind, by simp [hnonNull]⟩
  · intro a _
    obtain ⟨socket, r', hfind⟩ := r.findServiceSocket_isSome n a hlength
    exact ⟨socket, r', hfind, (findServiceSocket_mem hpaired hfind).symm⟩

/-! ## Every reachable state -/

section

variable [Protobuf] [FrNet]

/-- A server does not register with the null socket. -/
def Event.NonNull : Event → Prop
  | .serverServiceRegister socket _ => socket ≠ socketNull
  | _ => True

/-- Sockets are not null, and no service ever has more of them than an `int32_t` counts. -/
def TableStep (r : RpcRoute) (e : Event) : Prop :=
  e.NonNull ∧ ∀ r' n, step r e = some r' → (r'.socketsOf n).length ≤ 2 ^ 31 - 1

/-- **Every event keeps the tables.** -/
theorem Tables.step {e : Event} (h : r.Tables) (hok : TableStep r e) (hstep : step r e = some r') :
    r'.Tables := by
  obtain ⟨hnonNull, hlength⟩ := hok
  have hlength := fun n => hlength r' n hstep
  cases e with
  | onConnect socket => cases hstep; exact h.of_eq rfl
  | updateSocket socket => cases hstep; exact h.of_eq rfl
  | serverServiceRegister socket binary =>
    cases hstep
    unfold serverServiceRegister at hlength ⊢
    split at hlength
    · exact h
    · exact h.addService hnonNull (hlength _)
  | serverServiceCancel socket binary => cases hstep; exact h.deleteService socket
  | serverDisconnectChannelFunc socket binary =>
    cases hstep
    rcases r.serverDisconnectChannelFunc_cases socket binary with heq | ⟨sockets, heq⟩
    · rw [heq]
      exact h
    · rw [heq, foldl_netDisconnect_eq]
      exact h.of_eq rfl
  | channelServiceRegister socket binary =>
    obtain ⟨⟨r₁, ok⟩, hregister, rfl⟩ := Option.map_eq_some_iff.mp hstep
    rcases registerChannelService_cases hregister with ⟨_, rfl, _⟩ | ⟨register, server, r₂, _, hfind, hbind⟩
    · exact h
    · rcases hbind with ⟨_, rfl, _⟩ | ⟨_, rfl, _⟩
      · exact h.findServiceSocket hfind
      · exact (h.findServiceSocket hfind).of_eq rfl
  | routeProcess socket binary offset netInfo =>
    obtain ⟨⟨r₁, ok⟩, hroute, rfl⟩ := Option.map_eq_some_iff.mp hstep
    rcases routeProcess_cases hroute with rfl | ⟨routeNetInfo, _, ⟨_, target, r₂, packet, hserver, _, rfl⟩ |
      ⟨_, size, frame, _, _, rfl⟩⟩
    · exact h
    · rw [sendAll_eq]
      exact (h.getServerSocket hserver).of_eq rfl
    · rw [sendAll_eq]
      exact h.of_eq rfl
  | heartProcess socket binary offset =>
    obtain ⟨⟨r₁, ok⟩, hheart, rfl⟩ := Option.map_eq_some_iff.mp hstep
    obtain ⟨packet, rfl⟩ := heartProcess_cases hheart
    exact h.of_eq rfl
  | onDisconnect socket =>
    cases hstep
    unfold RpcRoute.onDisconnect
    dsimp only
    split
    · have hheart : { r with rpcHeart := r.rpcHeart.delSocket socket }.Tables := h.of_eq rfl
      exact hheart.deleteService socket
    · exact h.of_eq rfl
  | onClose => cases hstep; exact tables_of_empty rfl

/-- **Every service of a reachable gateway is well formed**; so a lookup without an address yields the null
    socket exactly for a service that is not there, and one with an address a server of the service or the
    null socket. -/
theorem tables_wellFormed (hrun : Reaches step TableStep started r) :
    (∀ (n : ServiceName) (infos : RouteServiceInfos), r.service2info[n]? = some infos → infos.WellFormed) ∧
    (∀ n, ∃ socket r', r.findServiceSocket n "" = some (socket, r') ∧
      (socket = socketNull ↔ n ∉ r.service2info)) ∧
    ∀ n a, a ≠ "" → ∃ socket r', r.findServiceSocket n a = some (socket, r') ∧
      (socket ∈ r.socketsOf n ∨ socket = socketNull) := by
  have htables : r.Tables := by
    apply hrun.invariant (tables_of_empty rfl)
    intro r e r' hok h hstep
    exact h.step hok hstep
  exact ⟨fun n infos hinfo => (htables n infos hinfo).1.wellFormed (htables n infos hinfo).2,
    fun n => (htables.lookup n).1, fun n => (htables.lookup n).2⟩

/-! ## Short runs -/

omit [Protobuf] [FrNet] in
theorem length_deleteService_le (r : RpcRoute) (socket : Socket) (n : ServiceName) :
    ((r.deleteService socket).1.socketsOf n).length ≤ (r.socketsOf n).length := by
  cases hname : r.serviceSocket2name[socket]? with
  | none => rw [deleteService_unrecorded hname]
  | some m =>
    rw [socketsOf_deleteService hname]
    split
    · next hmn => exact hmn ▸ List.length_erase_le
    · exact Nat.le_refl _

/-- An event brings a service at most one socket. -/
theorem length_step_le {e : Event} (hstep : step r e = some r') (n : ServiceName) :
    (r'.socketsOf n).length ≤ (r.socketsOf n).length + 1 := by
  cases step_effect hstep with
  | kept services _ => rw [services.sockets]; exact Nat.le_succ _
  | register _ =>
    rw [socketsOf_addService]
    split
    · rw [List.length_append, List.length_singleton]
    · exact Nat.le_succ _
  | cancel => exact Nat.le_succ_of_le (length_deleteService_le r _ n)
  | bind found _ => rw [(kept_bindChannel found).sockets]; exact Nat.le_succ _
  | disconnect =>
    rename_i socket
    cases hservice : r.isServiceSocket socket with
    | true =>
      rw [(onDisconnect_service hservice).1.sockets]
      exact Nat.le_succ_of_le (length_deleteService_le r socket n)
    | false => rw [(onDisconnect_channel hservice).1.sockets]; exact Nat.le_succ _
  | close =>
    have hempty : r.onClose.socketsOf n = [] := by simp [socketsOf, infosOf, onClose, RouteServiceInfos.new]
    rw [hempty]
    exact Nat.zero_le _

/-- **A run of fewer than `2 ^ 31` events never has too many sockets.** -/
theorem reaches_tableStep {es : List Event} (hexec : exec step started es = some r)
    (hnonNull : ∀ e ∈ es, e.NonNull) (hshort : es.length ≤ 2 ^ 31 - 1) :
    Reaches step TableStep started r ∧ ∀ n, (r.socketsOf n).length ≤ es.length := by
  induction es using List.reverseRecOn generalizing r with
  | nil =>
    obtain rfl := Option.some.inj hexec
    exact ⟨.refl _, fun n => Nat.le_of_eq (congrArg List.length (socketsOf_started n))⟩
  | append_singleton es e ih =>
    rw [exec_append] at hexec
    obtain ⟨r₁, hfirst, hlast⟩ := Option.bind_eq_some_iff.mp hexec
    have hstep : step r₁ e = some r := by simpa [exec] using hlast
    rw [List.length_append, List.length_singleton] at hshort ⊢
    obtain ⟨hrun, hlength⟩ := ih hfirst
      (fun e' hmem => hnonNull e' (List.mem_append_left _ hmem)) (by omega)
    have hcount : ∀ n, (r.socketsOf n).length ≤ es.length + 1 := fun n =>
      Nat.le_trans (length_step_le hstep n) (Nat.succ_le_succ (hlength n))
    refine ⟨hrun.snoc ⟨hnonNull e (by simp), fun r₂ n hstep₂ => ?_⟩ hstep, hcount⟩
    obtain rfl := Option.some.inj (hstep.symm.trans hstep₂)
    exact Nat.le_trans (hcount n) hshort

end

/-! ## A service that comes and goes -/

section

attribute [local instance] networkUp

/-- Server 1 takes both addresses of a service before server 3 gets one, and cancels once. -/
theorem tables_wellFormed_duplicate :
    ∃ r, exec step started [.serverServiceRegister 1 (registration "A" "x"),
        .serverServiceRegister 1 (registration "A" "y"), .serverServiceRegister 3 (registration "A" "y"),
        .serverServiceRegister 3 (registration "A" "z"), .serverServiceCancel 1 []] = some r ∧
      r.socketsOf "A" = [1, 3] ∧
      (∃ socket r', r.findServiceSocket "A" "" = some (socket, r') ∧
        (socket = socketNull ↔ "A" ∉ r.service2info)) ∧
      ∃ socket r', r.findServiceSocket "B" "" = some (socket, r') ∧
        (socket = socketNull ↔ "B" ∉ r.service2info) := by
  have hrun : (exec step started [.serverServiceRegister 1 (registration "A" "x"),
      .serverServiceRegister 1 (registration "A" "y"), .serverServiceRegister 3 (registration "A" "y"),
      .serverServiceRegister 3 (registration "A" "z"), .serverServiceCancel 1 []]).map
        (fun r => r.socketsOf "A") = some [1, 3] := by decide
  obtain ⟨r, hexec, hsockets⟩ := Option.map_eq_some_iff.mp hrun
  have hreaches := (reaches_tableStep hexec (by simp [Event.NonNull, socketNull]) (by decide)).1
  exact ⟨r, hexec, hsockets, (tables_wellFormed hreaches).2.1 "A", (tables_wellFormed hreaches).2.1 "B"⟩

end

end RpcRoute

end Frrpc
