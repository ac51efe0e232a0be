import Frrpc.Lib.TreeMap
import Frrpc.Rpc.AddService

/-!
# `Rpc.Correctness.AddService` — what a failed `AddService` leaves behind

The map is changed before the gateways are asked, and stays changed when one of them cannot be. So a service
is in the map exactly when a call for it returned `true` in every run in which each new service reaches every
gateway (`addService_allOrNothing`); a service that did not is there, and can never be added again
(`addService_refused`).
-/

namespace Frrpc

open Lib Std

section

variable [Protobuf] [FrNet]

/-- The registration of a service is sent to every gateway. -/
def Server.Announces (s : Server) (serviceName : ServiceName) : Prop :=
  ∀ client ∈ s.rpcNet.routeClientList, (client.registerService serviceName s.serviceAddr).2 = true

theorem registerEach_iff (serviceName : ServiceName) (serviceAddr : ServiceAddr)
    (clients : List RpcServerRouteClient) :
    (RpcServerRoute.registerEach serviceName serviceAddr clients).2 = true ↔
      ∀ client ∈ clients, (client.registerService serviceName serviceAddr).2 = true := by
  induction clients with
  | nil => exact iff_of_true rfl nofun
  | cons client clients ih =>
    rw [RpcServerRoute.registerEach, List.forall_mem_cons, ← ih]
    exact Bool.and_eq_true_iff

/-- **What a call does**: a name that is there is refused; a new one goes into the map whatever the gateways
    make of it. -/
theorem addService_cases (s : Server) (serviceName : ServiceName) (service : Service) :
    (serviceName ∈ s.name2Service ∧ s.addService serviceName service = (s, false)) ∨
    (serviceName ∉ s.name2Service ∧
      (s.addService serviceName service).1.name2Service = s.name2Service.insertIfNew serviceName service ∧
      ((s.addService serviceName service).2 = true ↔ s.Announces serviceName)) := by
  by_cases hmem : serviceName ∈ s.name2Service
  · exact Or.inl ⟨hmem, if_pos (ExtTreeMap.contains_iff_mem.mpr hmem)⟩
  · have hnew : ¬ s.name2Service.contains serviceName = true := fun h => hmem (ExtTreeMap.contains_iff_mem.mp h)
    rw [Server.addService, if_neg hnew]
    exact Or.inr ⟨hmem, rfl, registerEach_iff _ _ _⟩

namespace ServerCalls

/-- A service is in the map exactly when a call for it returned `true`. -/
def AllOrNothing (s : ServerCalls) : Prop :=
  ∀ serviceName : ServiceName, serviceName ∈ s.server.name2Service ↔ (serviceName, true) ∈ s.results

/-- The call keeps that, and changes the map only if it returns `true`. -/
def Atomic (s : ServerCalls) (e : Event) : Prop :=
  (∀ s', s.step e = some s' → s'.AllOrNothing) ∧
    ((s.server.addService e.serviceName e.service).2 = false →
      (s.server.addService e.serviceName e.service).1.name2Service = s.server.name2Service)

/-- A service that is not there yet reaches every gateway. -/
def AddStep (s : ServerCalls) (e : Event) : Prop :=
  e.serviceName ∉ s.server.name2Service → s.server.Announces e.serviceName

omit [Protobuf] [FrNet] in
theorem allOrNothing_started (gateways : Nat) (serviceAddr : ServiceAddr) :
    (started gateways serviceAddr).AllOrNothing := fun _ =>
  iff_of_false ExtTreeMap.not_mem_empty List.not_mem_nil

/-- A call that meets the condition is all or nothing. -/
theorem AllOrNothing.atomic {s : ServerCalls} (h : s.AllOrNothing) {e : Event} (hok : AddStep s e) :
    s.Atomic e := by
  unfold Atomic step
  rcases addService_cases s.server e.serviceName e.service with ⟨hmem, heq⟩ | ⟨hmem, hmap, hret⟩
  · rw [heq]
    refine ⟨?_, fun _ => rfl⟩
    rintro _ ⟨⟩ n
    show n ∈ s.server.name2Service ↔ (n, true) ∈ s.results ++ [(e.serviceName, false)]
    rw [h n]
    simp
  · have htrue := hret.mpr (hok hmem)
    refine ⟨?_, fun hfalse => by rw [htrue] at hfalse; cases hfalse⟩
    rintro _ ⟨⟩ n
    show n ∈ (s.server.addService e.serviceName e.service).1.name2Service ↔
      (n, true) ∈ s.results ++ [(e.serviceName, (s.server.addService e.serviceName e.service).2)]
    rw [hmap, htrue, ExtTreeMap.mem_insertIfNew, h n, LawfulEqCmp.compare_eq_iff_eq, List.mem_append,
      List.mem_singleton, Prod.mk.injEq, and_iff_left rfl, or_comm, eq_comm]

/-- A call that does not is neither: the service is in the map. -/
theorem addStep_of_atomic {s : ServerCalls} {e : Event} (h : s.Atomic e) : AddStep s e := by
  intro hmem
  rcases addService_cases s.server e.serviceName e.service with ⟨hmem', _⟩ | ⟨_, hmap, hret⟩
  · exact absurd hmem' hmem
  · by_contra hnot
    have hfalse : (s.server.addService e.serviceName e.service).2 = false :=
      Bool.eq_false_iff.mpr fun htrue => hnot (hret.mp htrue)
    have hsame := h.2 hfalse
    rw [hmap] at hsame
    have hin : e.serviceName ∈ s.server.name2Service := by
      rw [← hsame]
      exact ExtTreeMap.mem_insertIfNew_self
    exact hmem hin

/-- **`AddService` is all or nothing in every run in which each new service reaches every gateway**, and the
    next call is exactly when its service is there already or does. -/
theorem addService_allOrNothing {gateways : Nat} {serviceAddr : ServiceAddr} {s : ServerCalls}
    (hrun : Reaches step AddStep (started gateways serviceAddr) s) :
    s.AllOrNothing ∧ ∀ e, s.Atomic e ↔ AddStep s e := by
  have h : s.AllOrNothing := by
    apply hrun.invariant (allOrNothing_started gateways serviceAddr)
    intro s e s' hok h hstep
    exact (h.atomic hok).1 s' hstep
  exact ⟨h, fun e => ⟨addStep_of_atomic, h.atomic⟩⟩

/-- **Whatever is in the map is refused for ever**, whether a call for it returned `true` or not. -/
theorem addService_refused {s s' : ServerCalls} {serviceName : ServiceName}
    (hmem : serviceName ∈ s.server.name2Service) (hrun : Reaches step anyStep s s') (service : Service) :
    (s'.server.addService serviceName service).2 = false := by
  have hstays : serviceName ∈ s'.server.name2Service := by
    apply hrun.invariant hmem
    rintro s₁ e _ - hmem₁ ⟨⟩
    show serviceName ∈ (s₁.server.addService e.serviceName e.service).1.name2Service
    rcases addService_cases s₁.server e.serviceName e.service with ⟨_, heq⟩ | ⟨_, hmap, _⟩
    · rw [heq]
      exact hmem₁
    · rw [hmap]
      exact ExtTreeMap.mem_insertIfNew.mpr (Or.inr hmem₁)
  rcases addService_cases s'.server serviceName service with ⟨_, heq⟩ | ⟨hnot, _⟩
  · rw [heq]
  · exact absurd hstays hnot

instance (s : ServerCalls) (e : Event) : Decidable (AddStep s e) :=
  inferInstanceAs (Decidable (_ → ∀ client ∈ s.server.rpcNet.routeClientList, _ = true))

end ServerCalls

end

namespace ServerCalls

section

attribute [local instance] networkUp

/-- Two services, and the first one a second time, with two gateways. -/
theorem addService_allOrNothing_twice :
    ∃ s, exec step (started 2 "x") [⟨"S", ⟨[]⟩⟩, ⟨"T", ⟨[]⟩⟩, ⟨"S", ⟨[]⟩⟩] = some s ∧
      s.results = [("S", true), ("T", true), ("S", false)] ∧ s.AllOrNothing := by
  have hrun : (exec (guarded step AddStep) (started 2 "x") [⟨"S", ⟨[]⟩⟩, ⟨"T", ⟨[]⟩⟩, ⟨"S", ⟨[]⟩⟩]).map
      ServerCalls.results = some [("S", true), ("T", true), ("S", false)] := by decide
  obtain ⟨s, hguarded, hresults⟩ := Option.map_eq_some_iff.mp hrun
  obtain ⟨hexec, hreaches⟩ := reaches_guarded hguarded
  exact ⟨s, hexec, hresults, (addService_allOrNothing hreaches).1⟩

end

section

/-- A network that loses the first packet of every connection. -/
@[reducible] def losesFirst : FrNet := ⟨0, fun _ _ _ => 0, fun _ sent _ => if sent = [] then 1 else 0⟩

attribute [local instance] losesFirst

/-- **A service whose registration was lost is in the map**, and adding it again fails when the network
    works. -/
theorem addService_not_allOrNothing :
    ∃ s, exec step (started 1 "x") [⟨"S", ⟨[]⟩⟩] = some s ∧ s.results = [("S", false)] ∧
      ¬ s.AllOrNothing ∧ s.server.Announces "S" ∧ (s.server.addService "S" ⟨[]⟩).2 = false := by
  have hrun : (exec step (started 1 "x") [⟨"S", ⟨[]⟩⟩]).map (fun s => (s.results,
      s.server.name2Service.contains "S", s.server.rpcNet.routeClientList.all fun client =>
        (client.registerService "S" s.server.serviceAddr).2)) = some ([("S", false)], true, true) := by decide
  obtain ⟨s, hexec, hs⟩ := Option.map_eq_some_iff.mp hrun
  obtain ⟨hresults, hs⟩ := Prod.mk.inj hs
  obtain ⟨hcontains, hall⟩ := Prod.mk.inj hs
  have hmem : "S" ∈ s.server.name2Service := ExtTreeMap.contains_iff_mem.mp hcontains
  refine ⟨s, hexec, hresults, fun h => ?_, List.all_eq_true.mp hall, addService_refused hmem (.refl s) ⟨[]⟩⟩
  have htrue := (h "S").mp hmem
  rw [hresults] at htrue
  revert htrue
  decide

end

end ServerCalls

end Frrpc
