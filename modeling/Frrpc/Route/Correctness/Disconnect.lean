import Frrpc.Route.Correctness.Binding

/-!
# `Route.Correctness.Disconnect` — what a disconnect leaves alone

A disconnect takes away one registration of the socket, or its bindings, and drops a service that is left
without servers. In every reachable state, also one with duplicates or with names that failed registrations
left behind, an address map holds the sockets of its list (`allPaired_reachable`), so a service that is dropped
has no address of anyone, and all that belongs to another socket stays (`disconnect_spares`).
-/

namespace Frrpc

open Lib Std

/-- The first match that is erased is no entry of another value. -/
theorem RouteServiceInfos.deleteService_addr_iff (infos : RouteServiceInfos) {s t : Socket} (hne : s ≠ t)
    (a : ServiceAddr) :
    (infos.deleteService s).addr2socket[a]? = some t ↔ infos.addr2socket[a]? = some t := by
  show (eraseFirst (fun v => s == v) infos.addr2socket)[a]? = some t ↔ _
  rcases eraseFirst_cases (fun v => s == v) infos.addr2socket with ⟨k, v, hk, hv, heq⟩ | ⟨-, heq⟩
  · obtain rfl := eq_of_beq hv
    rw [heq, ExtTreeMap.getElem?_erase]
    split
    · next hka =>
      obtain rfl := LawfulEqCmp.compare_eq_iff_eq.mp hka
      rw [hk, Option.some.injEq]
      exact ⟨nofun, fun h => absurd h hne⟩
    · rfl
  · rw [heq]

namespace RpcRoute

section

variable [Protobuf] [FrNet]

/-- Every event keeps lists and address maps together. -/
theorem allPaired_step {r r' : RpcRoute} {e : Event} (h : r.AllPaired) (hstep : step r e = some r') :
    r'.AllPaired := by
  cases step_effect hstep with
  | kept services _ => exact h.kept services
  | register _ => exact h.addService _ _ _
  | cancel => exact h.deleteService _
  | bind found _ => exact h.kept (kept_bindChannel found)
  | disconnect =>
    rename_i socket
    cases hservice : r.isServiceSocket socket with
    | true => exact (h.deleteService socket).kept (onDisconnect_service hservice).1
    | false => exact h.kept (onDisconnect_channel hservice).1
  | close => exact consistent_started.paired.kept (.of_eq rfl rfl)

theorem allPaired_reachable {r : RpcRoute} (hrun : Reaches step anyStep started r) : r.AllPaired := by
  apply hrun.invariant consistent_started.paired
  intro r e r' _ h hstep
  exact allPaired_step h hstep

end

/-- All that belongs to `t` is as it was, where `s` may have lost something: the lists without `s`, the
    addresses of `t`, its recorded name and its bindings; and its addresses are still found. -/
structure Spares (s t : Socket) (r r' : RpcRoute) : Prop where
  order : ∀ n, (r'.socketsOf n).filter (· ≠ s) = (r.socketsOf n).filter (· ≠ s)
  count : ∀ n, (r'.socketsOf n).count t = (r.socketsOf n).count t
  addrs : ∀ n (a : ServiceAddr), (r'.addrOf n)[a]? = some t ↔ (r.addrOf n)[a]? = some t
  service : r'.isServiceSocket t = r.isServiceSocket t
  name : r'.serviceSocket2name[t]? = r.serviceSocket2name[t]?
  bindings : r'.channelServiceRegister[t]? = r.channelServiceRegister[t]?
  found : ∀ n (a : ServiceAddr), a ≠ "" → (r.addrOf n)[a]? = some t →
    ∃ r'', r'.findServiceSocket n a = some (t, r'')

section

variable {r r' : RpcRoute} {s t : Socket}

/-- Without `s`, the lists of an unregistration of `s` are what they were. -/
theorem filter_deleteService (r : RpcRoute) (s : Socket) (n : ServiceName) :
    ((r.deleteService s).1.socketsOf n).filter (· ≠ s) = (r.socketsOf n).filter (· ≠ s) := by
  cases hname : r.serviceSocket2name[s]? with
  | none => rw [deleteService_unrecorded hname]
  | some m =>
    rw [socketsOf_deleteService hname]
    split
    · next hmn =>
      have hnot : s ∉ (r.socketsOf m).filter (· ≠ s) := by simp
      rw [← List.erase_filter, List.erase_of_not_mem hnot, hmn]
    · rfl

theorem addrOf_deleteService_iff (hpaired : r.AllPaired) (hne : s ≠ t) (n : ServiceName) (a : ServiceAddr) :
    ((r.deleteService s).1.addrOf n)[a]? = some t ↔ (r.addrOf n)[a]? = some t := by
  cases hname : r.serviceSocket2name[s]? with
  | none => rw [deleteService_unrecorded hname]
  | some m =>
    cases hinfo : r.service2info[m]? with
    | none => rw [deleteService_unknown hname hinfo]
    | some infos =>
      rw [addrOf, infosOf_deleteService hname hinfo]
      split
      · next hmn =>
        subst hmn
        rw [addrOf, infosOf_of_some hinfo, ← infos.deleteService_addr_iff hne]
        split
        · next hempty =>
          -- without servers there are no addresses either
          have hinfos : infos.Paired := infosOf_of_some hinfo ▸ hpaired m
          have hvals := hinfos.deleteService s
          rw [RouteServiceInfos.Paired, List.eq_nil_of_length_eq_zero hempty, List.perm_nil] at hvals
          refine iff_of_false (fun h => ?_) fun h => ?_
          · rw [RouteServiceInfos.new, ExtTreeMap.getElem?_empty] at h
            cases h
          · have hmem := mem_vals.mpr ⟨a, h⟩
            rw [hvals] at hmem
            cases hmem
        · rfl
      · rfl

/-- Only the recorded name of the socket may go. -/
theorem name_deleteService (r : RpcRoute) (hne : s ≠ t) :
    (r.deleteService s).1.serviceSocket2name[t]? = r.serviceSocket2name[t]? := by
  unfold deleteService
  split
  · rfl
  · split
    · rfl
    · dsimp only
      rw [ExtTreeMap.getElem?_erase, if_neg]
      exact fun heq => hne (LawfulEqCmp.compare_eq_iff_eq.mp heq)

theorem isServiceSocket_of_name (h : r'.serviceSocket2name[t]? = r.serviceSocket2name[t]?) :
    r'.isServiceSocket t = r.isServiceSocket t := by
  rw [isServiceSocket, isServiceSocket, ← ExtTreeMap.isSome_getElem?_eq_contains,
    ← ExtTreeMap.isSome_getElem?_eq_contains, h]

/-- The parts of `Spares` that say the same. -/
theorem Spares.intro (hpaired : r'.AllPaired) (hne : s ≠ t)
    (order : ∀ n, (r'.socketsOf n).filter (· ≠ s) = (r.socketsOf n).filter (· ≠ s))
    (addrs : ∀ n (a : ServiceAddr), (r'.addrOf n)[a]? = some t ↔ (r.addrOf n)[a]? = some t)
    (name : r'.serviceSocket2name[t]? = r.serviceSocket2name[t]?)
    (bindings : r'.channelServiceRegister[t]? = r.channelServiceRegister[t]?) : Spares s t r r' where
  order := order
  count n := by
    have hcount : ∀ xs : List Socket, (xs.filter (· ≠ s)).count t = xs.count t :=
      fun xs => List.count_filter (by simpa using Ne.symm hne)
    rw [← hcount, order, hcount]
  addrs := addrs
  service := isServiceSocket_of_name name
  name := name
  bindings := bindings
  found n a ha haddr := findServiceSocket_addr hpaired ha ((addrs n a).mpr haddr)

end

section

variable [Protobuf] [FrNet]

/-- **Disconnecting one socket does not disturb the others**, in whatever state the gateway is. -/
theorem disconnect_spares {r : RpcRoute} (hrun : Reaches step anyStep started r) {s t : Socket} (hne : s ≠ t) :
    Spares s t r (r.onDisconnect s) := by
  have hpaired := allPaired_reachable hrun
  have hpaired' : (r.onDisconnect s).AllPaired := allPaired_step (e := .onDisconnect s) hpaired rfl
  cases hservice : r.isServiceSocket s with
  | true =>
    obtain ⟨hkept, hbindings⟩ := onDisconnect_service hservice
    refine .intro hpaired' hne (fun n => ?_) (fun n a => ?_) ?_ ?_
    · rw [hkept.sockets]
      exact filter_deleteService r s n
    · rw [hkept.addrs]
      exact addrOf_deleteService_iff hpaired hne n a
    · rw [hkept.names]
      exact name_deleteService r hne
    · rw [hbindings]
  | false =>
    obtain ⟨hkept, hbindings⟩ := onDisconnect_channel hservice
    refine .intro hpaired' hne (fun n => ?_) (fun n a => ?_) ?_ ?_
    · rw [hkept.sockets]
    · rw [hkept.addrs]
    · rw [hkept.names]
    · rw [hbindings, ExtTreeMap.getElem?_erase, if_neg]
      exact fun heq => hne (LawfulEqCmp.compare_eq_iff_eq.mp heq)

end

/-! ## A server with two services -/

section

attribute [local instance] networkUp

/-- Servers 1 and 3 of a service, 1 also of another and a second time of the first, and a failed registration
    of 3. -/
def manyRegistrations : List Event :=
  [.serverServiceRegister 1 (registration "A" "x"), .serverServiceRegister 3 (registration "A" "z"),
    .serverServiceRegister 1 (registration "B" "y"), .serverServiceRegister 1 (registration "A" "w"),
    .serverServiceRegister 3 (registration "B" "y")]

theorem disconnect_spares_many :
    ∃ r, exec step started manyRegistrations = some r ∧ r.socketsOf "A" = [1, 3, 1] ∧
      Spares 1 3 r (r.onDisconnect 1) := by
  have hrun : (exec step started manyRegistrations).map (fun r => r.socketsOf "A") = some [1, 3, 1] := by decide
  obtain ⟨r, hexec, hsockets⟩ := Option.map_eq_some_iff.mp hrun
  exact ⟨r, hexec, hsockets, disconnect_spares (reaches_exec hexec) (by decide)⟩

end

end RpcRoute

end Frrpc
