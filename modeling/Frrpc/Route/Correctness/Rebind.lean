import Frrpc.Route.Correctness.Binding

/-!
# `Route.Correctness.Rebind` — a second registration of a channel for a service

`ChannelServiceRegister` inserts the server it has found and reports success, but an insertion does not
overwrite: a channel that is bound already stays where it is. So a registration takes effect exactly when the
channel had no binding for the service, or the same one (`rebind_takes_effect_iff`). A binding that is there
stays until the channel disconnects, whatever the others do (`binding_step`).
-/

namespace Frrpc

open Lib Std

namespace RpcRoute

section

variable [Protobuf]

/-- A registration that succeeds binds the channel to the server it has found. -/
theorem registerChannelService_true {r r₀ r₁ : RpcRoute} {c s : Socket} {n : ServiceName} {a : ServiceAddr}
    {binary : Bytes} (hparse : parse binary = some (⟨n, a⟩ : ChannelServiceRegister))
    (hfind : r.findServiceSocket n a = some (s, r₀))
    (hregister : r.registerChannelService c binary = some (r₁, true)) : r₁ = r₀.bindChannel c n s := by
  simp only [registerChannelService, hparse, hfind, Option.bind_eq_bind, Option.bind_some] at hregister
  split at hregister
  · cases hregister
  · exact (Prod.mk.inj (Option.some.inj hregister)).1.symm

/-- The new binding, if there was none. -/
theorem binding_registered {r r₀ r₁ : RpcRoute} {c s : Socket} {n : ServiceName} {a : ServiceAddr}
    {binary : Bytes} (hparse : parse binary = some (⟨n, a⟩ : ChannelServiceRegister))
    (hfind : r.findServiceSocket n a = some (s, r₀))
    (hregister : r.registerChannelService c binary = some (r₁, true)) :
    r₁.binding c n = some ((r.binding c n).getD s) := by
  obtain ⟨-, hbindings⟩ := findServiceSocket_kept hfind
  rw [registerChannelService_true hparse hfind hregister, binding_bindChannel, binding_of_eq hbindings]
  cases r.binding c n with
  | none => rw [if_pos ⟨rfl, rfl, rfl⟩]; rfl
  | some t => rw [if_neg (fun h => nomatch h.2.2)]; rfl

variable [FrNet]

/-- **A binding stays until its channel disconnects.** -/
theorem binding_step {r r' : RpcRoute} {e : Event} {c s : Socket} {n : ServiceName}
    (h : r.binding c n = some s) (hne : e ≠ .onDisconnect c) (hstep : step r e = some r') :
    r'.binding c n = some s := by
  cases step_effect hstep with
  | kept _ bindings => rw [binding_of_eq bindings, h]
  | register _ => exact h
  | cancel => rw [binding_of_eq (bindings_deleteService r _), h]
  | bind found _ =>
    obtain ⟨-, hbindings⟩ := findServiceSocket_kept found
    rw [binding_bindChannel, binding_of_eq hbindings, if_neg, h]
    rintro ⟨-, -, hnone⟩
    rw [h] at hnone
    cases hnone
  | disconnect =>
    rename_i socket
    cases hservice : r.isServiceSocket socket with
    | true => rw [binding_of_eq (onDisconnect_service hservice).2, h]
    | false =>
      -- the bindings of another channel go
      have hsocket : socket ≠ c := fun heq => hne (heq ▸ rfl)
      rw [binding, (onDisconnect_channel hservice).2, ExtTreeMap.getElem?_erase, if_neg, ← binding, h]
      exact fun heq => hsocket (LawfulEqCmp.compare_eq_iff_eq.mp heq)
  | close => exact h

/-- The event is a registration of the channel for the service. -/
def RegistersFor (c : Socket) (n : ServiceName) (e : Event) : Prop :=
  ∃ binary a, e = .channelServiceRegister c binary ∧ parse binary = some (⟨n, a⟩ : ChannelServiceRegister)

/-- Neither does the channel register for the service again, nor does it disconnect, nor does the server
    lose its registration for the service. -/
def Undisturbed (c : Socket) (n : ServiceName) (s : Socket) (r : RpcRoute) (e : Event) : Prop :=
  ¬ RegistersFor c n e ∧ e ≠ .onDisconnect c ∧
    ∀ r', step r e = some r' → s ∈ r.socketsOf n → s ∈ r'.socketsOf n

/-- From this state on the channel's messages for the service go to the server, until one of the events
    that end it. -/
def TakesEffect (c : Socket) (n : ServiceName) (s : Socket) (r : RpcRoute) : Prop :=
  ∀ r', Reaches step (Undisturbed c n s) r r' → r'.getServerSocket c n = some (s, r')

theorem takesEffect_iff (c : Socket) (n : ServiceName) (s t : Socket) {r : RpcRoute}
    (h : r.binding c n = some t) : TakesEffect c n s r ↔ t = s := by
  constructor
  · intro htakes
    have hserver := htakes r (.refl r)
    rw [getServerSocket_bound h] at hserver
    exact (Prod.mk.inj (Option.some.inj hserver)).1
  · rintro rfl r' hrun
    have hbinding : r'.binding c n = some t := by
      apply hrun.invariant h
      intro r e r' hok hbinding hstep
      exact binding_step hbinding hok.2.1 hstep
    exact getServerSocket_bound hbinding

/-- **A registration that succeeds takes effect exactly when** the channel was not bound for the service, or
    was bound to the same server. -/
theorem rebind_takes_effect_iff {r r₀ r₁ : RpcRoute} {c s : Socket} {n : ServiceName} {a : ServiceAddr}
    {binary : Bytes} (hparse : parse binary = some (⟨n, a⟩ : ChannelServiceRegister))
    (hfind : r.findServiceSocket n a = some (s, r₀))
    (hregister : r.registerChannelService c binary = some (r₁, true)) :
    TakesEffect c n s r₁ ↔ r.binding c n = none ∨ r.binding c n = some s := by
  rw [takesEffect_iff c n s _ (binding_registered hparse hfind hregister)]
  cases r.binding c n with
  | none => simp
  | some t => simp

end

/-! ## Bound twice -/

section

attribute [local instance] networkUp

/-- Two servers of a service, at the addresses `x` and `z`. -/
def twoServers : List Event :=
  [.serverServiceRegister 1 (registration "A" "x"), .serverServiceRegister 3 (registration "A" "z")]

/-- What a registration of channel 2 at this address finds and reports, and the binding before it. -/
def rebound (r : RpcRoute) (a : ServiceAddr) : Option (Socket × Bool × Option Socket) := do
  let (s, _) ← r.findServiceSocket "A" a
  let (_, ok) ← r.registerChannelService 2 (channelRegistration "A" a)
  return (s, ok, r.binding 2 "A")

theorem exists_of_rebound {r : RpcRoute} {a : ServiceAddr} {s : Socket} {ok : Bool} {t : Option Socket}
    (h : rebound r a = some (s, ok, t)) :
    ∃ r₀ r₁, r.findServiceSocket "A" a = some (s, r₀) ∧
      r.registerChannelService 2 (channelRegistration "A" a) = some (r₁, ok) ∧ r.binding 2 "A" = t := by
  obtain ⟨⟨s', r₀⟩, hfind, h⟩ := Option.bind_eq_some_iff.mp h
  obtain ⟨⟨r₁, ok'⟩, hregister, h⟩ := Option.bind_eq_some_iff.mp h
  cases h
  exact ⟨r₀, r₁, hfind, hregister, rfl⟩

/-- The first registration takes effect. -/
theorem rebind_takes_effect_first :
    ∃ r r₁, exec step started twoServers = some r ∧
      r.registerChannelService 2 (channelRegistration "A" "z") = some (r₁, true) ∧ TakesEffect 2 "A" 3 r₁ := by
  have hrun : (exec step started twoServers).bind (rebound · "z") = some (3, true, none) := by decide
  obtain ⟨r, hexec, hrebound⟩ := Option.bind_eq_some_iff.mp hrun
  obtain ⟨r₀, r₁, hfind, hregister, hbinding⟩ := exists_of_rebound hrebound
  exact ⟨r, r₁, hexec, hregister,
    (rebind_takes_effect_iff (by decide) hfind hregister).mpr (Or.inl hbinding)⟩

/-- **A second registration succeeds and changes nothing**: the channel, bound to server 1 and now told to
    go to server 3, still goes to server 1. -/
theorem rebind_without_effect :
    ∃ r r₀ r₁, exec step started (twoServers ++ [.channelServiceRegister 2 (channelRegistration "A" "x")])
        = some r ∧
      r.findServiceSocket "A" "z" = some (3, r₀) ∧
      r.registerChannelService 2 (channelRegistration "A" "z") = some (r₁, true) ∧
      r₁.getServerSocket 2 "A" = some (1, r₁) ∧ ¬ TakesEffect 2 "A" 3 r₁ := by
  have hrun : (exec step started (twoServers ++ [.channelServiceRegister 2 (channelRegistration "A" "x")])).bind
      (rebound · "z") = some (3, true, some 1) := by decide
  obtain ⟨r, hexec, hrebound⟩ := Option.bind_eq_some_iff.mp hrun
  obtain ⟨r₀, r₁, hfind, hregister, hbinding⟩ := exists_of_rebound hrebound
  have hold := binding_registered (by decide) hfind hregister
  rw [hbinding] at hold
  refine ⟨r, r₀, r₁, hexec, hfind, hregister, getServerSocket_bound hold, fun htakes => ?_⟩
  exact absurd ((takesEffect_iff 2 "A" 3 1 hold).mp htakes) (by decide)

end

end RpcRoute

end Frrpc
