import Frrpc.Public.Correctness.Heart
import Frrpc.Route.Correctness.Effect
import Frrpc.Route.Start

/-!
# `Route.Correctness.Start` — which clients a gateway's heart supervises

A gateway changes its heart at four points only (`step_rpcHeart`), so a run of it is a run of its heart. A
heart that does not check yet ignores whoever connects, and `RunServer` leaves it as it is: a client that is
connected by then stays unsupervised, and every later one is supervised (`supervised_iff`).
-/

namespace Frrpc

open Lib Std

/-! ## The heart of a gateway -/

namespace RpcRoute

theorem rpcHeart_deleteService (r : RpcRoute) (socket : Socket) :
    (r.deleteService socket).1.rpcHeart = r.rpcHeart := by
  unfold deleteService
  split
  · rfl
  · split
    · rfl
    · rfl

theorem rpcHeart_onDisconnect (r : RpcRoute) (socket : Socket) :
    (r.onDisconnect socket).rpcHeart = r.rpcHeart.delSocket socket := by
  unfold onDisconnect
  dsimp only
  split
  · exact rpcHeart_deleteService _ socket
  · rfl

theorem rpcHeart_checkHeart (r : RpcRoute) : r.checkHeart.1.rpcHeart = r.rpcHeart.checkTimeout.1 := by
  unfold checkHeart
  dsimp only
  rw [foldl_netDisconnect_eq]

variable [Protobuf] [FrNet]

/-- The handlers of `OnReceive` do not touch the heart. -/
theorem rpcHeart_handled {r r' : RpcRoute} {e : Event} (hhandled : r.Handled e) (h : step r e = some r') :
    r'.rpcHeart = r.rpcHeart := by
  cases e with
  | onConnect | updateSocket | onDisconnect | onClose => exact hhandled.elim
  | serverServiceRegister socket binary =>
    cases h
    unfold serverServiceRegister
    split
    · rfl
    · rfl
  | serverServiceCancel socket binary =>
    cases h
    exact rpcHeart_deleteService r socket
  | serverDisconnectChannelFunc socket binary =>
    cases h
    rcases r.serverDisconnectChannelFunc_cases socket binary with heq | ⟨sockets, heq⟩
    · rw [heq]
    · rw [heq, foldl_netDisconnect_eq]
  | channelServiceRegister socket binary =>
    obtain ⟨⟨r₁, ok⟩, hregister, rfl⟩ := Option.map_eq_some_iff.mp h
    rcases registerChannelService_cases hregister with ⟨_, rfl, _⟩ | ⟨register, server, r₂, _, hfind, hbind⟩
    · rfl
    · have hsame : r₂.rpcHeart = r.rpcHeart := by rw [findServiceSocket_eq hfind]
      rcases hbind with ⟨_, rfl, _⟩ | ⟨_, rfl, _⟩
      · exact hsame
      · exact hsame
  | routeProcess socket binary offset netInfo =>
    obtain ⟨⟨r₁, ok⟩, hroute, rfl⟩ := Option.map_eq_some_iff.mp h
    rcases routeProcess_cases hroute with rfl | ⟨routeNetInfo, _, ⟨_, target, r₂, packet, hserver, _, rfl⟩ |
      ⟨_, size, frame, _, _, rfl⟩⟩
    · rfl
    · rw [sendAll_eq, getServerSocket_eq hserver]
    · rw [sendAll_eq]
  | heartProcess socket binary offset =>
    obtain ⟨⟨r₁, ok⟩, hheart, rfl⟩ := Option.map_eq_some_iff.mp h
    obtain ⟨packet, rfl⟩ := heartProcess_cases hheart
    rfl

/-- **Whatever bytes arrive, the heart hears of the socket**, and of nothing else. -/
theorem rpcHeart_onReceive (s : Logged) (socket : Socket) (binary : Bytes) :
    (onReceive s socket binary).state.1.rpcHeart = s.1.rpcHeart.updateSocket socket := by
  have hloop := reaches_onReceiveLoop socket binary (binary.length + 1) (s.1.updateSocket socket, s.2) 0
  rw [onReceive]
  generalize (onReceiveLoop socket binary (binary.length + 1) (s.1.updateSocket socket, s.2) 0).state.1 = r'
    at hloop ⊢
  apply hloop.invariant
  · rfl
  · intro r e r' hhandled h hstep
    exact (rpcHeart_handled hhandled hstep).trans h

end RpcRoute

/-! ## Connected sockets -/

/-- The socket has had `OnConnect`, and since then neither `OnDisconnect` nor a check that disconnects it. -/
def Connected (log : List SocketEvent) (socket : Socket) : Prop :=
  ∃ before after, log = before ++ .onConnect socket :: after ∧
    .onDisconnect socket ∉ after ∧ .heartTimeout socket ∉ after

section

variable {log new : List SocketEvent} {socket : Socket}

theorem not_connected_nil : ¬ Connected [] socket := by
  rintro ⟨before, after, hlog, _⟩
  exact absurd hlog.symm (List.append_ne_nil_of_right_ne_nil before (List.cons_ne_nil _ _))

theorem connected_onConnect : Connected (log ++ [.onConnect socket]) socket :=
  ⟨log, [], rfl, List.not_mem_nil, List.not_mem_nil⟩

/-- **Without a new connection, the socket was connected already**, and is left alone. -/
theorem connected_append_iff (hnew : .onConnect socket ∉ new) :
    Connected (log ++ new) socket ↔
      Connected log socket ∧ .onDisconnect socket ∉ new ∧ .heartTimeout socket ∉ new := by
  constructor
  · rintro ⟨before, after, hlog, hdisconnect, htimeout⟩
    rcases List.append_eq_append_iff.mp hlog with ⟨more, rfl, hmore⟩ | ⟨more, rfl, hmore⟩
    · exact absurd (hmore ▸ List.mem_append_right more List.mem_cons_self) hnew
    · cases more with
      | nil =>
        rw [List.nil_append] at hmore
        exact absurd (hmore ▸ List.mem_cons_self) hnew
      | cons e more =>
        rw [List.cons_append] at hmore
        obtain ⟨rfl, rfl⟩ := List.cons.inj hmore
        rw [List.mem_append, not_or] at hdisconnect htimeout
        exact ⟨⟨before, more, rfl, hdisconnect.1, htimeout.1⟩, hdisconnect.2, htimeout.2⟩
  · rintro ⟨⟨before, after, rfl, hdisconnect, htimeout⟩, hdisconnect', htimeout'⟩
    refine ⟨before, after ++ new, by rw [List.append_assoc, List.cons_append], ?_, ?_⟩
    · rw [List.mem_append]
      exact not_or.mpr ⟨hdisconnect, hdisconnect'⟩
    · rw [List.mem_append]
      exact not_or.mpr ⟨htimeout, htimeout'⟩

end

/-! ## A run of the gateway is a run of its heart -/

namespace StartingRoute

/-- What an event does to the heart. -/
def Event.onHeart (heart : RpcHeart) : Event → RpcHeart
  | .runServer => heart.runServer
  | .onConnect socket => heart.addSocket socket
  | .onReceive socket _ => heart.updateSocket socket
  | .onDisconnect socket => heart.delSocket socket
  | .checkTimeout => heart.checkTimeout.1
  | .netStart _ | .onClose => heart

/-- What an event adds to the log. -/
def Event.logged (heart : RpcHeart) : Event → List SocketEvent
  | .onConnect socket => [.onConnect socket]
  | .onDisconnect socket => [.onDisconnect socket]
  | .checkTimeout => heart.waitHeartArray.toList.map .heartTimeout
  | .netStart _ | .runServer | .onReceive _ _ | .onClose => []

/-! ## Supervision -/

/-- Once `RunServer` has run, every connected socket is in `socket_array_`. -/
def Supervised (s : StartingRoute) : Prop :=
  s.route.rpcHeart.running = true → ∀ socket, Connected s.log socket → socket ∈ s.route.rpcHeart.socketArray

/-- Nobody is connected when `RunServer` runs. -/
def StartStep (s : StartingRoute) (e : Event) : Prop := e = .runServer → ∀ socket, ¬ Connected s.log socket

/-- A heart that does not check yet is as it was constructed; one that does has every connected socket. -/
def Supervises (heart : RpcHeart) (log : List SocketEvent) : Prop :=
  heart = .new ∨ heart.Serves ∧ ∀ socket, Connected log socket → socket ∈ heart.socketArray

theorem Supervises.supervised {s : StartingRoute} (h : Supervises s.route.rpcHeart s.log) : s.Supervised := by
  intro hrunning
  rcases h with hnew | ⟨_, hmem⟩
  · rw [hnew] at hrunning
    cases hrunning
  · exact hmem

/-- Before `RunServer`, every event leaves the heart as it is. -/
theorem onHeart_new {e : Event} (hserver : e ≠ .runServer) (hcheck : e ≠ .checkTimeout) :
    e.onHeart .new = .new := by
  cases e with
  | runServer => exact absurd rfl hserver
  | checkTimeout => exact absurd rfl hcheck
  | _ => rfl

/-- **A heart that checks keeps every connected socket.** -/
theorem onHeart_serves {heart : RpcHeart} {log : List SocketEvent} {e : Event} (hserves : heart.Serves)
    (hmem : ∀ socket, Connected log socket → socket ∈ heart.socketArray) :
    (e.onHeart heart).Serves ∧
      ∀ socket, Connected (log ++ e.logged heart) socket → socket ∈ (e.onHeart heart).socketArray := by
  cases e with
  | netStart | onClose =>
    refine ⟨hserves, fun socket hconnected => hmem socket ?_⟩
    rwa [Event.logged, List.append_nil] at hconnected
  | runServer =>
    refine ⟨⟨rfl, rfl⟩, fun socket hconnected => hmem socket ?_⟩
    rwa [Event.logged, List.append_nil] at hconnected
  | onReceive other binary =>
    obtain ⟨hserves', hsame, _⟩ := RpcHeart.updateSocket_spec hserves other
    refine ⟨hserves', fun socket hconnected => ?_⟩
    show socket ∈ (heart.updateSocket other).socketArray
    rw [hsame]
    apply hmem
    rwa [Event.logged, List.append_nil] at hconnected
  | onConnect other =>
    rw [Event.onHeart, RpcHeart.addSocket_eq hserves]
    refine ⟨⟨hserves.running, hserves.server⟩, fun socket hconnected => ?_⟩
    rw [mem_insert_iff]
    by_cases hsocket : socket = other
    · exact Or.inl hsocket
    · have hnew : SocketEvent.onConnect socket ∉ [SocketEvent.onConnect other] := by
        rw [List.mem_singleton, SocketEvent.onConnect.injEq]
        exact hsocket
      exact Or.inr (hmem socket ((connected_append_iff hnew).mp hconnected).1)
  | onDisconnect other =>
    rw [Event.onHeart, RpcHeart.delSocket_eq hserves]
    refine ⟨⟨hserves.running, hserves.server⟩, fun socket hconnected => ?_⟩
    rw [mem_erase_iff]
    have hnew : SocketEvent.onConnect socket ∉ [SocketEvent.onDisconnect other] := by
      rw [List.mem_singleton]
      nofun
    obtain ⟨hbefore, hdisconnect, _⟩ := (connected_append_iff hnew).mp hconnected
    refine ⟨?_, hmem socket hbefore⟩
    rintro rfl
    exact hdisconnect List.mem_cons_self
  | checkTimeout =>
    refine ⟨⟨hserves.running, hserves.server⟩, fun socket hconnected => ?_⟩
    show socket ∈ heart.checkTimeout.1.socketArray
    rw [RpcHeart.mem_checkTimeout]
    have hnew : SocketEvent.onConnect socket ∉ heart.waitHeartArray.toList.map .heartTimeout := by
      rw [List.mem_map]
      rintro ⟨other, _, heq⟩
      cases heq
    obtain ⟨hbefore, _, htimeout⟩ := (connected_append_iff hnew).mp hconnected
    refine ⟨?_, hmem socket hbefore⟩
    -- who waits is disconnected by this check
    intro hwait
    exact htimeout (List.mem_map_of_mem (ExtTreeSet.mem_toList.mpr hwait))

/-! ## Steps -/

variable [Protobuf] [FrNet]

/-- **What one step does**, seen from the heart. -/
theorem step_rpcHeart {s s' : StartingRoute} {e : Event} (h : s.step e = some s') :
    s'.route.rpcHeart = e.onHeart s.route.rpcHeart ∧ s'.log = s.log ++ e.logged s.route.rpcHeart := by
  cases e with
  | netStart netStarted =>
    rw [step] at h
    split at h
    · cases h
    · cases h
      exact ⟨rfl, (List.append_nil _).symm⟩
  | runServer =>
    rw [step] at h
    split at h
    · cases h
      exact ⟨rfl, (List.append_nil _).symm⟩
    · cases h
  | onConnect socket =>
    rw [step] at h
    split at h
    · cases h
      exact ⟨rfl, rfl⟩
    · cases h
  | onReceive socket binary =>
    rw [step] at h
    split at h
    · unfold receive at h
      dsimp only at h
      split at h
      · cases h
      · cases h
        exact ⟨RpcRoute.rpcHeart_onReceive (s.route, []) socket binary, (List.append_nil _).symm⟩
    · cases h
  | onDisconnect socket =>
    rw [step] at h
    split at h
    · cases h
      exact ⟨RpcRoute.rpcHeart_onDisconnect s.route socket, rfl⟩
    · cases h
  | onClose =>
    rw [step] at h
    split at h
    · cases h
      exact ⟨rfl, (List.append_nil _).symm⟩
    · cases h
  | checkTimeout =>
    rw [step] at h
    split at h
    · cases h
      exact ⟨RpcRoute.rpcHeart_checkHeart s.route, rfl⟩
    · cases h

/-- `RunServer` is called once, and a check runs behind it. -/
theorem running_of_step {s s' : StartingRoute} {e : Event} (h : s.step e = some s') :
    (e = .runServer → s.route.rpcHeart.running = false) ∧
      (e = .checkTimeout → s.route.rpcHeart.running = true) := by
  constructor
  · rintro rfl
    rw [step] at h
    split at h
    · next hcond => exact (Bool.not_eq_true' _).mp (Bool.and_eq_true_iff.mp hcond).2
    · cases h
  · rintro rfl
    rw [step] at h
    split at h
    · assumption
    · cases h

/-- **A step keeps supervision**, unless it is `RunServer` with somebody connected. -/
theorem Supervises.step {s s' : StartingRoute} {e : Event} (h : Supervises s.route.rpcHeart s.log)
    (hok : s.StartStep e) (hstep : s.step e = some s') : Supervises s'.route.rpcHeart s'.log := by
  obtain ⟨hheart, hlog⟩ := step_rpcHeart hstep
  obtain ⟨hserver, hcheck⟩ := running_of_step hstep
  rw [hheart, hlog]
  rcases h with hnew | ⟨hserves, hmem⟩
  · -- nothing but `RunServer` changes a heart that does not check yet
    by_cases hrun : e = .runServer
    · subst hrun
      refine Or.inr ⟨⟨rfl, rfl⟩, fun socket hconnected => ?_⟩
      rw [Event.logged, List.append_nil] at hconnected
      exact absurd hconnected (hok rfl socket)
    · refine Or.inl ?_
      rw [hnew]
      apply onHeart_new hrun
      intro he
      have hrunning := hcheck he
      rw [hnew] at hrunning
      cases hrunning
  · exact Or.inr (onHeart_serves hserves hmem)

/-- **Every connected client is supervised, in every run in which nobody is connected when `RunServer`
    runs**, whatever the clients do before and after; and a step from such a run leaves somebody
    unsupervised exactly if it is `RunServer` with somebody connected. -/
theorem supervised_iff {s : StartingRoute} (hrun : Reaches step StartStep created s) :
    s.Supervised ∧ ∀ e s', s.step e = some s' → (s'.Supervised ↔ s.StartStep e) := by
  have h : Supervises s.route.rpcHeart s.log := by
    apply hrun.invariant
    · exact Or.inl rfl
    · intro s₁ e s₂ hok h hstep
      exact h.step hok hstep
  refine ⟨h.supervised, fun e s' hstep => ⟨?_, fun hok => (h.step hok hstep).supervised⟩⟩
  rintro hsupervised rfl socket hconnected
  obtain ⟨hheart, hlog⟩ := step_rpcHeart hstep
  have hrunning : s'.route.rpcHeart.running = true := by rw [hheart]; rfl
  have hconnected' : Connected s'.log socket := by
    rw [hlog, Event.logged, List.append_nil]
    exact hconnected
  have hmem := hsupervised hrunning socket hconnected'
  rcases h with hnew | ⟨hserves, _⟩
  · -- nobody was added
    rw [hheart, hnew] at hmem
    exact absurd hmem ExtTreeSet.not_mem_empty
  · have hidle := (running_of_step hstep).1 rfl
    rw [hserves.running] at hidle
    cases hidle

end StartingRoute

/-! ## Two gateways that start -/

namespace StartingRoute

section

attribute [local instance] networkUp

/-- A client that has left when `RunServer` runs, and one that comes later. -/
theorem supervised_later :
    ∃ s, Reaches step StartStep created s ∧ s.log = [.onConnect 5, .onDisconnect 5, .onConnect 6] ∧
      s.Supervised ∧ ∀ e s', s.step e = some s' → (s'.Supervised ↔ s.StartStep e) := by
  have hfirst : (exec step created [.netStart true, .onConnect 5, .onDisconnect 5]).map StartingRoute.log
      = some [.onConnect 5, .onDisconnect 5] := by decide
  have hlast : (exec step created ([.netStart true, .onConnect 5, .onDisconnect 5]
      ++ [.runServer, .onConnect 6])).map StartingRoute.log
      = some [.onConnect 5, .onDisconnect 5, .onConnect 6] := by decide
  obtain ⟨s, hexec, hlog⟩ := Option.map_eq_some_iff.mp hfirst
  obtain ⟨s', hexec', hlog'⟩ := Option.map_eq_some_iff.mp hlast
  rw [exec_append, hexec] at hexec'
  have hexec' : exec step s [.runServer, .onConnect 6] = some s' := hexec'
  obtain ⟨s₁, hserver, hrest⟩ := Option.bind_eq_some_iff.mp hexec'
  have hnobody : s.StartStep .runServer := by
    rintro - socket hconnected
    have hleft : Connected ([.onConnect 5] ++ [.onDisconnect 5]) socket := by rwa [hlog] at hconnected
    obtain ⟨hbefore, hdisconnect, _⟩ := (connected_append_iff (by simp)).mp hleft
    have hsocket : socket ≠ 5 := by
      rintro rfl
      exact hdisconnect List.mem_cons_self
    have hnobody : Connected ([] ++ [.onConnect 5]) socket := hbefore
    exact not_connected_nil ((connected_append_iff (by simpa using hsocket)).mp hnobody).1
  have hbefore : Reaches step StartStep created s := reaches_exec_of hexec (by simp [StartStep])
  have hafter : Reaches step StartStep s₁ s' := reaches_exec_of hrest (by simp [StartStep])
  have hrun := (hbefore.snoc hnobody hserver).trans hafter
  exact ⟨s', hrun, hlog', supervised_iff hrun⟩

/-- **A client that connects before `RunServer` runs is not supervised**, and no check finds it. -/
theorem not_supervised :
    ∃ s, Reaches step anyStep created s ∧ Connected s.log 5 ∧ ¬ s.Supervised := by
  have hrun : (exec step created [.netStart true, .onConnect 5, .runServer, .checkTimeout, .checkTimeout]).map
      (fun s => (s.log, s.route.rpcHeart.running, s.route.rpcHeart.socketArray.contains 5))
      = some ([.onConnect 5], true, false) := by decide
  obtain ⟨s, hexec, hs⟩ := Option.map_eq_some_iff.mp hrun
  obtain ⟨hlog, hs⟩ := Prod.mk.inj hs
  obtain ⟨hrunning, habsent⟩ := Prod.mk.inj hs
  have hconnected : Connected ([] ++ [.onConnect 5]) 5 := connected_onConnect
  rw [List.nil_append, ← hlog] at hconnected
  refine ⟨s, reaches_exec hexec, hconnected, fun hsupervised => ?_⟩
  have hmem := ExtTreeSet.contains_iff_mem.mpr (hsupervised hrunning 5 hconnected)
  rw [habsent] at hmem
  cases hmem

end

end StartingRoute

end Frrpc
