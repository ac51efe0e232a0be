import Frrpc.Lib.Machine
import Frrpc.Route.Route

/-!
# `Route.Machine` — the gateway as a machine

The events are the calls that change a gateway, in the order they are made under its locks: the connection
events, and the handlers that `OnReceive` chooses from. Whatever bytes arrive, `OnReceive` is a run of
these (`onReceive_reaches`), so what holds in every reachable state holds after every sequence of received
bytes, connects and disconnects.
-/

namespace Frrpc

open Lib Std

namespace RpcRoute

inductive Event where
  | onConnect (socket : Socket)
  | updateSocket (socket : Socket)
  | serverServiceRegister (socket : Socket) (binary : Bytes)
  | serverServiceCancel (socket : Socket) (binary : Bytes)
  | serverDisconnectChannelFunc (socket : Socket) (binary : Bytes)
  | channelServiceRegister (socket : Socket) (binary : Bytes)
  | routeProcess (socket : Socket) (binary : Bytes) (offset : Int) (netInfo : NetInfo)
  | heartProcess (socket : Socket) (binary : Bytes) (offset : Int)
  | onDisconnect (socket : Socket)
  | onClose

variable [Protobuf] [FrNet]

/-- One call. An event with undefined behaviour has no successor. -/
def step (r : RpcRoute) : Event → Option RpcRoute
  | .onConnect socket => some (r.onConnect socket)
  | .updateSocket socket => some (r.updateSocket socket)
  | .serverServiceRegister socket binary => some (r.serverServiceRegister socket binary).1
  | .serverServiceCancel socket binary => some (r.serverServiceCancel socket binary).1
  | .serverDisconnectChannelFunc socket binary => some (r.serverDisconnectChannelFunc socket binary).1
  | .channelServiceRegister socket binary => (r.registerChannelService socket binary).map Prod.fst
  | .routeProcess socket binary offset netInfo =>
    (r.routeProcess socket binary offset netInfo).map Prod.fst
  | .heartProcess socket binary offset => (r.heartProcess socket binary offset).map Prod.fst
  | .onDisconnect socket => some (r.onDisconnect socket)
  | .onClose => some r.onClose

/-- What `OnReceive` hands to `RouteProcess`: the net info that it has read at the frame. -/
def Received (_r : RpcRoute) : Event → Prop
  | .routeProcess _ binary offset netInfo =>
    getNetInfo binary offset = .ok netInfo ∧ netInfo.netType = eNetTypeRoute
  | _ => True

/-! ## `OnReceive` is a run -/

/-- The calls that `OnReceive`'s handlers make. -/
def Handled (r : RpcRoute) : Event → Prop
  | .onConnect _ | .updateSocket _ | .onDisconnect _ | .onClose => False
  | e => r.Received e

omit [FrNet] in
theorem received_of_handled {r : RpcRoute} {e : Event} (h : r.Handled e) : r.Received e := by
  cases e with
  | routeProcess => exact h
  | _ => trivial

theorem reaches_step {r r' : RpcRoute} (e : Event) (hhandled : r.Handled e) (h : step r e = some r') :
    Reaches step Handled r r' := (Reaches.refl r).snoc hhandled h

theorem reaches_commandProcess {r r' : RpcRoute} {socket : Socket} {netInfo : NetInfo} {ok : Bool}
    (h : r.commandProcess socket netInfo = some (r', ok)) : Reaches step Handled r r' := by
  unfold commandProcess at h
  split at h
  · cases h
    exact .refl r
  · next request _ =>
    split at h
    · exact reaches_step (.serverServiceRegister socket request.requestBinary) trivial
        (by rw [step, Option.some.inj h])
    · split at h
      · exact reaches_step (.serverServiceCancel socket request.requestBinary) trivial
          (by rw [step, Option.some.inj h])
      · split at h
        · exact reaches_step (.serverDisconnectChannelFunc socket request.requestBinary) trivial
            (by rw [step, Option.some.inj h])
        · split at h
          · exact reaches_step (.channelServiceRegister socket request.requestBinary) trivial
              (by rw [step, h]; rfl)
          · cases h
            exact .refl r

omit [Protobuf] [FrNet] in
theorem netType_of_handlerOf {netType : ENetType} (h : handlerOf netType = some .route) :
    netType = eNetTypeRoute := by
  unfold handlerOf at h
  split at h
  · assumption
  · split at h
    · cases h
    · split at h
      · cases h
      · cases h

theorem reaches_handle {handler : Handler} {r r' : RpcRoute} {socket : Socket} {binary : Bytes}
    {offset : Int} {netInfo : NetInfo} {ok : Bool} (hnetInfo : getNetInfo binary offset = .ok netInfo)
    (hhandler : handlerOf netInfo.netType = some handler)
    (h : handle handler r socket binary offset netInfo = some (r', ok)) : Reaches step Handled r r' := by
  cases handler with
  | route =>
    exact reaches_step (.routeProcess socket binary offset netInfo)
      ⟨hnetInfo, netType_of_handlerOf hhandler⟩ (congrArg (Option.map Prod.fst) h)
  | command => exact reaches_commandProcess h
  | heart => exact reaches_step (.heartProcess socket binary offset) trivial (congrArg (Option.map Prod.fst) h)

theorem reaches_onReceiveLoop (socket : Socket) (binary : Bytes) (fuel : Nat) (s : Logged)
    (curOffset : Int) :
    Reaches step Handled s.1 (onReceiveLoop socket binary fuel s curOffset).state.1 := by
  induction fuel generalizing s curOffset with
  | zero => exact .refl _
  | succ fuel ih =>
    obtain ⟨r, log⟩ := s
    unfold onReceiveLoop
    dsimp only
    -- every way out of the loop but the handler's leaves the gateway as it is
    split
    · split
      · exact .refl r
      · next size _ =>
        by_cases hmax : netPacketMaxSize ≤ size
        · rw [if_pos hmax]; exact .refl r
        · by_cases hzero : size = 0
          · rw [if_neg hmax, if_pos hzero]; exact .refl r
          · rw [if_neg hmax, if_neg hzero]
            split
            · exact .refl r
            · split
              · exact .refl r
              · next hnetInfo =>
                split
                · exact .refl r
                · next hhandler =>
                  split
                  · exact .refl r
                  · next hhandle => exact reaches_handle hnetInfo hhandler hhandle
                  · next r' hhandle =>
                    exact (reaches_handle hnetInfo hhandler hhandle).trans (ih (r', _) _)
    · exact .refl r

/-- **Whatever bytes arrive, receiving them is a run** in which `RouteProcess` gets what was read. -/
theorem onReceive_reaches (s : Logged) (socket : Socket) (binary : Bytes) :
    Reaches step Received s.1 (onReceive s socket binary).state.1 := by
  have hupdate : Reaches step Received s.1 (s.1.updateSocket socket) :=
    (Reaches.refl s.1).snoc (show s.1.Received (.updateSocket socket) from trivial) rfl
  have hloop := reaches_onReceiveLoop socket binary (binary.length + 1) (s.1.updateSocket socket, s.2) 0
  exact hupdate.trans (hloop.mono fun _ _ => received_of_handled)

end RpcRoute

end Frrpc
