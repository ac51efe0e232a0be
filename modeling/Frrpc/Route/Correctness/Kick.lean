import Mathlib.Logic.Function.Basic
import Frrpc.Route.Correctness.Registry

/-!
# `Route.Correctness.Kick` — who may disconnect channels

A service may disconnect channels, and a socket counts as a service while a name is recorded for it. The
name is recorded before the registration is known to succeed, and a disconnect removes it only while the
service it names is still there. So a socket whose registration failed leaves its name behind if the service
goes first, and the next connection with its number may disconnect channels. Where the service is still
there at every such disconnect, only a registered service passes the check (`kicks_earned`).
-/

namespace Frrpc

open Lib Std

namespace RpcRoute

/-! ## What happens to the recorded names -/

theorem names_of_deleteService {r : RpcRoute} {socket k : Socket}
    (h : (r.deleteService socket).1.isServiceSocket k = true) : r.isServiceSocket k = true := by
  unfold deleteService at h
  split at h
  · exact h
  · split at h
    · exact h
    · obtain ⟨n, hname⟩ := (isServiceSocket_iff _ _).mp h
      have hname : (r.serviceSocket2name.erase socket)[k]? = some n := hname
      rw [ExtTreeMap.getElem?_erase] at hname
      split at hname
      · cases hname
      · exact (isServiceSocket_iff _ _).mpr ⟨n, hname⟩

/-- A service that is still there loses the socket, and the name is removed. -/
theorem not_service_deleteService_of_info {r : RpcRoute} {socket : Socket}
    (h : ∀ n, r.serviceSocket2name[socket]? = some n → r.service2info[n]? ≠ none) :
    (r.deleteService socket).1.isServiceSocket socket = false := by
  unfold deleteService
  split
  · next hname =>
    rw [Bool.eq_false_iff]
    intro hservice
    obtain ⟨n, hrecorded⟩ := (isServiceSocket_iff _ _).mp hservice
    rw [hname] at hrecorded
    cases hrecorded
  · next n hname =>
    split
    · next hinfo => exact absurd hinfo (h n hname)
    · rw [Bool.eq_false_iff]
      intro hservice
      obtain ⟨m, hrecorded⟩ := (isServiceSocket_iff _ _).mp hservice
      have hrecorded : (r.serviceSocket2name.erase socket)[socket]? = some m := hrecorded
      rw [ExtTreeMap.getElem?_erase_self] at hrecorded
      cases hrecorded

theorem isServiceSocket_onDisconnect {r : RpcRoute} {socket k : Socket}
    (h : (r.onDisconnect socket).isServiceSocket k = true) : r.isServiceSocket k = true := by
  cases hservice : r.isServiceSocket socket with
  | true =>
    rw [isServiceSocket_kept (onDisconnect_service hservice).1] at h
    exact names_of_deleteService h
  | false =>
    rw [isServiceSocket_kept (onDisconnect_channel hservice).1] at h
    exact h

theorem not_service_onDisconnect {r : RpcRoute} {socket : Socket}
    (h : ∀ n, r.serviceSocket2name[socket]? = some n → r.service2info[n]? ≠ none) :
    (r.onDisconnect socket).isServiceSocket socket = false := by
  cases hservice : r.isServiceSocket socket with
  | true =>
    rw [isServiceSocket_kept (onDisconnect_service hservice).1]
    exact not_service_deleteService_of_info h
  | false =>
    rw [isServiceSocket_kept (onDisconnect_channel hservice).1]
    exact hservice

variable [Protobuf] [FrNet]

/-- **Only a registration makes a service of a socket.** -/
theorem isServiceSocket_of_step {r r' : RpcRoute} {e : Event} (h : step r e = some r') {k : Socket}
    (hservice : r'.isServiceSocket k = true) :
    r.isServiceSocket k = true ∨ ∃ binary, e = .serverServiceRegister k binary := by
  cases step_effect h with
  | kept hkept _ =>
    rw [isServiceSocket_kept hkept] at hservice
    exact Or.inl hservice
  | @register socket binary info _ =>
    by_cases heq : socket = k
    · exact Or.inr ⟨binary, by rw [heq]⟩
    · left
      obtain ⟨n, hname⟩ := (isServiceSocket_iff _ _).mp hservice
      rw [names_addService, getElem?_insertIfNew_eq, if_neg (fun hand => heq hand.1)] at hname
      exact (isServiceSocket_iff _ _).mpr ⟨n, hname⟩
  | cancel => exact Or.inl (names_of_deleteService hservice)
  | @bind socket serverSocket binary n a r₁ hfound _ =>
    have hservice : r₁.isServiceSocket k = true := hservice
    rw [isServiceSocket_kept (findServiceSocket_kept hfound).1] at hservice
    exact Or.inl hservice
  | disconnect => exact Or.inl (isServiceSocket_onDisconnect hservice)
  | close =>
    obtain ⟨n, hname⟩ := (isServiceSocket_iff _ _).mp hservice
    have hname : (∅ : ExtTreeMap Socket ServiceName)[k]? = some n := hname
    simp at hname

/-- What a handler returns. -/
def result (r : RpcRoute) : Event → Bool
  | .serverServiceRegister socket binary => (r.serverServiceRegister socket binary).2
  | .serverServiceCancel socket binary => (r.serverServiceCancel socket binary).2
  | .serverDisconnectChannelFunc socket binary => (r.serverDisconnectChannelFunc socket binary).2
  | .channelServiceRegister socket binary => ((r.registerChannelService socket binary).map Prod.snd).getD false
  | .routeProcess socket binary offset netInfo =>
    ((r.routeProcess socket binary offset netInfo).map Prod.snd).getD false
  | .heartProcess socket binary offset => ((r.heartProcess socket binary offset).map Prod.snd).getD false
  | _ => true

def Event.isRegister : Event → Bool
  | .serverServiceRegister _ _ => true
  | _ => false

end RpcRoute

/-! ## Connections -/

/-- A connection, and whether a registration returned `true` since it was made. After a handler has returned
    `false` nothing but the disconnect follows. -/
inductive Link where
  | closed
  | opened (registered : Bool)
  | refused
deriving DecidableEq, Repr

/-- The gateway with the connections to it. -/
structure Sessions where
  route : RpcRoute
  links : Socket → Link

namespace Sessions

open RpcRoute

def started : Sessions := ⟨.started, fun _ => .closed⟩

variable [Protobuf] [FrNet]

/-- The connections after an event, which only an open connection causes. -/
def nextLinks (s : Sessions) (e : RpcRoute.Event) : Option (Socket → Link) :=
  match e with
  | .onConnect socket =>
    if s.links socket = .closed then some (Function.update s.links socket (.opened false)) else none
  | .onDisconnect socket =>
    if s.links socket = .closed then none else some (Function.update s.links socket .closed)
  | .onClose => some s.links
  | .updateSocket socket | .serverServiceRegister socket _ | .serverServiceCancel socket _
  | .serverDisconnectChannelFunc socket _ | .channelServiceRegister socket _ | .routeProcess socket _ _ _
  | .heartProcess socket _ _ =>
    match s.links socket with
    | .opened registered =>
      some (Function.update s.links socket
        (if result s.route e then .opened (registered || e.isRegister) else .refused))
    | _ => none

def step (s : Sessions) (e : RpcRoute.Event) : Option Sessions := do
  let route ← RpcRoute.step s.route e
  let links ← s.nextLinks e
  return ⟨route, links⟩

/-- **Who passes the check of `ServerDisconnectChannelFunc` has registered** since its connection was made. -/
def KicksEarned (s : Sessions) : Prop :=
  ∀ socket registered, s.links socket = .opened registered → s.route.isServiceSocket socket = true →
    registered = true

/-- When a socket with a recorded name disconnects, the service of that name is still there. -/
def ServiceThere (s : Sessions) : RpcRoute.Event → Prop
  | .onDisconnect socket => ∀ n, s.route.serviceSocket2name[socket]? = some n → s.route.service2info[n]? ≠ none
  | _ => True

/-- A recorded socket has registered, or is about to be disconnected. -/
def Earned (s : Sessions) : Prop :=
  ∀ socket, s.route.isServiceSocket socket = true → s.links socket = .opened true ∨ s.links socket = .refused

/-! ## Runs -/

theorem step_cases {s s' : Sessions} {e : RpcRoute.Event} (h : step s e = some s') :
    RpcRoute.step s.route e = some s'.route ∧ s.nextLinks e = some s'.links := by
  obtain ⟨route, hroute, h⟩ := Option.bind_eq_some_iff.mp h
  obtain ⟨links, hlinks, h⟩ := Option.bind_eq_some_iff.mp h
  obtain rfl := Option.some.inj h
  exact ⟨hroute, hlinks⟩

/-- **An event of an open connection** keeps it, or a handler refuses it; a registration that returns `true`
    is remembered. -/
theorem earned_command {s s' : Sessions} {e : RpcRoute.Event} {socket : Socket} {registered : Bool}
    (h : s.Earned) (hroute : RpcRoute.step s.route e = some s'.route)
    (hopen : s.links socket = .opened registered)
    (hlinks : s'.links = Function.update s.links socket
      (if result s.route e then .opened (registered || e.isRegister) else .refused))
    (hregister : ∀ k binary, e = .serverServiceRegister k binary → k = socket) : s'.Earned := by
  intro k hservice
  rw [hlinks]
  by_cases hk : k = socket
  · subst hk
    rw [Function.update_self]
    split
    · left
      rcases isServiceSocket_of_step hroute hservice with hbefore | ⟨binary, rfl⟩
      · -- it was recorded before
        rcases h k hbefore with hold | hold
        · rw [hopen] at hold
          rw [Link.opened.inj hold, Bool.true_or]
        · rw [hopen] at hold
          cases hold
      · rw [Event.isRegister, Bool.or_true]
    · exact Or.inr rfl
  · rw [Function.update_of_ne hk]
    rcases isServiceSocket_of_step hroute hservice with hbefore | ⟨binary, heq⟩
    · exact h k hbefore
    · exact absurd (hregister k binary heq) hk

theorem earned_step {s s' : Sessions} {e : RpcRoute.Event} (h : s.Earned) (hok : s.ServiceThere e)
    (hstep : step s e = some s') : s'.Earned := by
  obtain ⟨hroute, hlinks⟩ := step_cases hstep
  cases e with
  | onConnect socket =>
    simp only [nextLinks] at hlinks
    split at hlinks
    · next hclosed =>
      intro k hservice
      have hbefore : s.route.isServiceSocket k = true :=
        (isServiceSocket_of_step hroute hservice).resolve_right nofun
      -- a connection that is not there yet is not recorded
      have hk : k ≠ socket := by
        rintro rfl
        rcases h k hbefore with hold | hold
        · rw [hclosed] at hold
          cases hold
        · rw [hclosed] at hold
          cases hold
      rw [← Option.some.inj hlinks, Function.update_of_ne hk]
      exact h k hbefore
    · cases hlinks
  | onDisconnect socket =>
    simp only [nextLinks] at hlinks
    split at hlinks
    · cases hlinks
    · intro k hservice
      have hbefore : s.route.isServiceSocket k = true :=
        (isServiceSocket_of_step hroute hservice).resolve_right nofun
      have hk : k ≠ socket := by
        rintro rfl
        have hgone := not_service_onDisconnect hok
        rw [Option.some.inj hroute, hservice] at hgone
        cases hgone
      rw [← Option.some.inj hlinks, Function.update_of_ne hk]
      exact h k hbefore
  | onClose =>
    intro k hservice
    rw [← Option.some.inj hlinks]
    exact h k ((isServiceSocket_of_step hroute hservice).resolve_right nofun)
  | updateSocket socket | serverServiceCancel socket _ | serverDisconnectChannelFunc socket _
  | channelServiceRegister socket _ | routeProcess socket _ _ _ | heartProcess socket _ _ =>
    simp only [nextLinks] at hlinks
    split at hlinks
    · next hopen => exact earned_command h hroute hopen (Option.some.inj hlinks).symm nofun
    · cases hlinks
  | serverServiceRegister socket binary =>
    simp only [nextLinks] at hlinks
    split at hlinks
    · next hopen =>
      apply earned_command h hroute hopen (Option.some.inj hlinks).symm
      rintro k _ ⟨⟩
      rfl
    · cases hlinks

/-- **Only registered services can kick clients** in every run in which, whenever a socket with a recorded
    service name disconnects, the service of that name is still there. -/
theorem kicks_earned {s : Sessions} (hrun : Reaches step ServiceThere started s) : s.KicksEarned := by
  have h : s.Earned := by
    apply hrun.invariant
    · intro socket hservice
      obtain ⟨n, hname⟩ := (isServiceSocket_iff _ _).mp hservice
      have hname : (∅ : ExtTreeMap Socket ServiceName)[socket]? = some n := hname
      simp at hname
    · intro s e s' hok h hstep
      exact earned_step h hok hstep
  intro socket registered hopen hservice
  rcases h socket hservice with hold | hold
  · rw [hopen] at hold
    exact Link.opened.inj hold
  · rw [hopen] at hold
    cases hold

end Sessions

/-! ## A name that is left behind -/

section

attribute [local instance] networkUp

namespace Sessions

open RpcRoute

/-- A server that registers, and may kick. -/
theorem kicks_earned_oneService :
    ∃ s, Reaches step ServiceThere started s ∧ s.links 1 = .opened true ∧
      s.route.isServiceSocket 1 = true ∧ s.KicksEarned := by
  have hresult : (exec step started [.onConnect 1, .serverServiceRegister 1 (registration "A" "x")]).map
      (fun s => (s.links 1, s.route.isServiceSocket 1)) = some (.opened true, true) := by
    decide
  obtain ⟨s, hexec, hs⟩ := Option.map_eq_some_iff.mp hresult
  obtain ⟨hopen, hservice⟩ := Prod.mk.inj hs
  have hrun : Reaches step ServiceThere started s := reaches_exec_of hexec (by simp [ServiceThere])
  exact ⟨s, hrun, hopen, hservice, kicks_earned hrun⟩

/-- Two servers register one address, and the first one goes first. -/
def nameLeftBehind : List RpcRoute.Event :=
  [.onConnect 1, .onConnect 2, .serverServiceRegister 1 (registration "A" "x"),
    .serverServiceRegister 2 (registration "A" "x"), .onDisconnect 1, .onDisconnect 2, .onConnect 2]

theorem kicks_not_earned :
    ∃ s, exec step started nameLeftBehind = some s ∧ s.links 2 = .opened false ∧
      s.route.isServiceSocket 2 = true ∧ ¬ s.KicksEarned := by
  have hresult : (exec step started nameLeftBehind).map (fun s => (s.links 2, s.route.isServiceSocket 2))
      = some (.opened false, true) := by
    decide
  obtain ⟨s, hexec, hs⟩ := Option.map_eq_some_iff.mp hresult
  obtain ⟨hopen, hservice⟩ := Prod.mk.inj hs
  refine ⟨s, hexec, hopen, hservice, ?_⟩
  intro hearned
  have hregistered := hearned 2 false hopen hservice
  cases hregistered

end Sessions

end

end Frrpc
