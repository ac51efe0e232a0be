import Frrpc.Lib.Stream
import Frrpc.Route.Correctness.Effect
import Frrpc.Route.Correctness.Frame

/-!
# `Route.Correctness.Split` — when the gateway takes exactly the frames out of a byte stream

The gateway's loop sets `read_size` only behind the loop. When a call ends with the size word of a further,
incomplete frame in sight, the loop returns from inside, nothing is dropped, and the frames already
dispatched are dispatched again by the next call. So exactly-once delivery holds if and only if every call
that completes a frame ends at most four bytes after the last completed one (`gateway_exactly_once_iff`).
The offset is an `int32_t`, which bounds a call's frames by `2 ^ 31` bytes.

`Accepts` says that the handlers return `true` when the frames are handled one after the other, each in the
state that the ones before it leave: a server that registers, and later cancels, is accepted once. What
`OnReceive` adds to this, the socket's mark in the heartbeat's record, no handler reads
(`handle_updateSocket`), so an accepted stream is trimmed wherever it may be (`gateway_trims`). What a call
that goes through has dispatched and dropped does not depend on acceptance (`gateway_splits`).
-/

namespace Frrpc

open Lib

/-! ## The heartbeat's record and the handlers -/

namespace RpcRoute

theorem findServiceSocket_updateSocket (r : RpcRoute) (socket : Socket) (serviceName : ServiceName)
    (serviceAddr : ServiceAddr) :
    (r.updateSocket socket).findServiceSocket serviceName serviceAddr
      = (r.findServiceSocket serviceName serviceAddr).map (fun q => (q.1, q.2.updateSocket socket)) := by
  have hinfo : (r.updateSocket socket).service2info[serviceName]? = r.service2info[serviceName]? := rfl
  unfold findServiceSocket
  rw [hinfo]
  cases r.service2info[serviceName]? with
  | none => rfl
  | some infos =>
    simp only
    cases infos.getServiceSocket serviceAddr with
    | none => rfl
    | some found => rfl

theorem getServerSocket_updateSocket (r : RpcRoute) (socket channelSocket : Socket)
    (serviceName : ServiceName) :
    (r.updateSocket socket).getServerSocket channelSocket serviceName
      = (r.getServerSocket channelSocket serviceName).map (fun q => (q.1, q.2.updateSocket socket)) := by
  have hbinding : (r.updateSocket socket).binding channelSocket serviceName
      = r.binding channelSocket serviceName := rfl
  unfold getServerSocket
  rw [hbinding, findServiceSocket_updateSocket]
  split
  · rfl
  · rfl

theorem deleteService_updateSocket (r : RpcRoute) (socket sender : Socket) :
    (r.updateSocket socket).deleteService sender
      = ((r.deleteService sender).1.updateSocket socket, (r.deleteService sender).2) := by
  have hname : (r.updateSocket socket).serviceSocket2name[sender]? = r.serviceSocket2name[sender]? := rfl
  unfold deleteService
  rw [hname]
  cases r.serviceSocket2name[sender]? with
  | none => rfl
  | some serviceName =>
    have hinfo : (r.updateSocket socket).service2info[serviceName]? = r.service2info[serviceName]? := rfl
    simp only [hinfo]
    cases r.service2info[serviceName]? with
    | none => rfl
    | some infos => rfl

section

variable [Protobuf]

theorem serverDisconnectChannelFunc_updateSocket (r : RpcRoute) (socket sender : Socket) (binary : Bytes) :
    (r.updateSocket socket).serverDisconnectChannelFunc sender binary
      = ((r.serverDisconnectChannelFunc sender binary).1.updateSocket socket,
        (r.serverDisconnectChannelFunc sender binary).2) := by
  have hservice : (r.updateSocket socket).isServiceSocket sender = r.isServiceSocket sender := rfl
  unfold serverDisconnectChannelFunc
  split
  · rfl
  · rw [hservice]
    split
    · rw [foldl_netDisconnect_eq, foldl_netDisconnect_eq]
      rfl
    · rfl

theorem registerChannelService_updateSocket (r : RpcRoute) (socket sender : Socket) (binary : Bytes) :
    (r.updateSocket socket).registerChannelService sender binary
      = (r.registerChannelService sender binary).map (fun q => (q.1.updateSocket socket, q.2)) := by
  unfold registerChannelService
  split
  · rfl
  · next register _ =>
    rw [findServiceSocket_updateSocket]
    cases r.findServiceSocket register.serviceName register.serviceAddr with
    | none => rfl
    | some found =>
      simp only [Option.map_some, Option.bind_eq_bind, Option.bind_some]
      split
      · rfl
      · rfl

theorem commandProcess_updateSocket (r : RpcRoute) (socket sender : Socket) (netInfo : NetInfo) :
    (r.updateSocket socket).commandProcess sender netInfo
      = (r.commandProcess sender netInfo).map (fun q => (q.1.updateSocket socket, q.2)) := by
  unfold commandProcess
  split
  · rfl
  · next request _ =>
    split
    · unfold serverServiceRegister
      split
      · rfl
      · rfl
    · split
      · simp only [serverServiceCancel, deleteService_updateSocket, Option.map_some]
      · split
        · rw [serverDisconnectChannelFunc_updateSocket, Option.map_some]
        · split
          · exact registerChannelService_updateSocket r socket sender request.requestBinary
          · rfl

variable [FrNet]

omit [Protobuf] in
theorem sendAll_updateSocket (r : RpcRoute) (socket : Socket) (targets : List Socket)
    (packet : Option Bytes) :
    (r.updateSocket socket).sendAll targets packet = (r.sendAll targets packet).updateSocket socket := by
  rw [sendAll_eq, sendAll_eq]
  rfl

theorem routeProcess_updateSocket (r : RpcRoute) (socket sender : Socket) (binary : Bytes) (offset : Int)
    (netInfo : NetInfo) :
    (r.updateSocket socket).routeProcess sender binary offset netInfo
      = (r.routeProcess sender binary offset netInfo).map (fun q => (q.1.updateSocket socket, q.2)) := by
  unfold routeProcess
  split
  · rfl
  · next routeNetInfo _ =>
    split
    · rw [getServerSocket_updateSocket]
      cases r.getServerSocket sender routeNetInfo.serviceName with
      | none => rfl
      | some found =>
        cases packetPtr (channelPacket binary offset netInfo routeNetInfo sender) with
        | none => rfl
        | some packet =>
          simp only [Option.map_some, Option.bind_eq_bind, Option.bind_some, sendAll_updateSocket]
          rfl
    · cases readNumber sizeofPacketSize binary offset with
      | error e => rfl
      | ok size =>
        simp only [Except.toOption, Option.bind_eq_bind, Option.bind_some]
        cases readBytes binary offset (sizeofPacketSize + size) with
        | error e => rfl
        | ok packet =>
          simp only [Option.bind_some, sendAll_updateSocket]
          rfl

/-- **No handler reads the heartbeat's record**: a socket that is marked as alive before a handler runs may
    as well be marked behind it. -/
theorem handle_updateSocket (handler : Handler) (r : RpcRoute) (socket sender : Socket) (binary : Bytes)
    (offset : Int) (netInfo : NetInfo) :
    handle handler (r.updateSocket socket) sender binary offset netInfo
      = (handle handler r sender binary offset netInfo).map (fun q => (q.1.updateSocket socket, q.2)) := by
  cases handler with
  | route => exact routeProcess_updateSocket r socket sender binary offset netInfo
  | command => exact commandProcess_updateSocket r socket sender netInfo
  | heart =>
    simp only [handle, heartProcess, Except.toOption]
    cases readNumber sizeofPacketSize binary offset with
    | error e => rfl
    | ok size =>
      simp only [Option.bind_eq_bind, Option.bind_some]
      cases readBytes binary offset (size + sizeofPacketSize) with
      | error e => rfl
      | ok packet => rfl

end

end RpcRoute

section

variable [Protobuf]

/-- A frame the gateway's loop dispatches: below the packet limit, with a net info that parses and a net
    type that has a handler. -/
structure GatewayFrame where
  frame : Frame
  netInfo : NetInfo
  handler : RpcRoute.Handler
  size_lt : frame.size < netPacketMaxSize
  net_ne : frame.net ≠ []
  parsed : parse frame.net = some netInfo
  handled : RpcRoute.handlerOf netInfo.netType = some handler

namespace GatewayFrame

def bytes (f : GatewayFrame) : Bytes := f.frame.bytes

/-- The handler call a frame asks for. -/
def dispatch (f : GatewayFrame) : RpcRoute.Dispatch := ⟨f.handler, f.netInfo, f.bytes⟩

theorem bytes_length (f : GatewayFrame) : f.bytes.length = f.frame.size + sizeofPacketSize :=
  f.frame.bytes_length

theorem bytes_ne_nil (f : GatewayFrame) : f.bytes ≠ [] := f.frame.bytes_ne_nil

theorem bytes_length_lt (f : GatewayFrame) : f.bytes.length < 2 ^ 13 := by
  have hmax : netPacketMaxSize + sizeofPacketSize < 2 ^ 13 := by decide
  have hlt := f.size_lt
  rw [f.bytes_length]; omega

theorem size_pos (f : GatewayFrame) : 0 < f.frame.size := by
  simp only [Frame.size, sizeofNetInfoSize]; omega

theorem uint32_size (f : GatewayFrame) :
    uint32 (f.frame.size + sizeofPacketSize) = f.bytes.length := by
  have hlt := f.bytes_length_lt
  rw [f.bytes_length] at hlt ⊢
  rw [← Int.natCast_add, uint32_of_lt (Nat.lt_trans hlt (by decide))]

theorem getNetInfo_eq (f : GatewayFrame) (pre post : Bytes)
    (hlimit : pre.length + f.bytes.length < 2 ^ 31) :
    RpcRoute.getNetInfo (pre ++ f.bytes ++ post) pre.length = .ok f.netInfo := by
  have hsize : f.frame.size = sizeofNetInfoSize + f.frame.net.length + f.frame.rest.length := rfl
  have hlen := f.bytes_length
  exact getNetInfo_frame f.frame pre post (by omega) f.net_ne f.parsed

end GatewayFrame

/-! ## The loop at a frame -/

section Loop

variable [FrNet] {socket : Socket} {r r' : RpcRoute} (fuel : Nat) (log : List RpcRoute.Dispatch)
  (f : GatewayFrame) (pre post : Bytes)

/-- **One round of the loop at a complete frame**: what comes of it is up to the handler. -/
theorem onReceiveLoop_round (hlimit : pre.length + f.bytes.length < 2 ^ 31) :
    RpcRoute.onReceiveLoop socket (pre ++ f.bytes ++ post) (fuel + 1) (r, log) pre.length
      = match RpcRoute.handle f.handler r socket (pre ++ f.bytes ++ post) pre.length f.netInfo with
        | none => ⟨(r, log ++ [f.dispatch]), 0, .error .undefined⟩
        | some (r, false) => ⟨(r, log ++ [f.dispatch]), 0, .error .refused⟩
        | some (r, true) => RpcRoute.onReceiveLoop socket (pre ++ f.bytes ++ post) fuel
            (r, log ++ [f.dispatch]) (pre.length + f.bytes.length : Nat) := by
  have hlen := f.bytes_length
  have hpos := f.size_pos
  have hmax := f.size_lt
  have hbuf : (pre ++ f.bytes ++ post).length = pre.length + f.bytes.length + post.length := by
    simp only [List.length_append]
  have hread : readNumber sizeofPacketSize (pre ++ f.bytes ++ post) pre.length = .ok f.frame.size :=
    f.frame.readNumber_size pre post
  have hcur : uint32 (f.frame.size + sizeofPacketSize) = f.bytes.length := f.uint32_size
  have hframe : window (pre ++ f.bytes ++ post) pre.length f.bytes.length = some f.bytes := by
    rw [window_append pre f.bytes post (i := 0) (by simp) (by simp), List.drop_zero, List.take_length]
  have hnext : int32 (pre.length + f.bytes.length) = (pre.length + f.bytes.length : Nat) := by
    rw [int32_of_lt (by omega) (by omega), Int.natCast_add]
  rw [RpcRoute.onReceiveLoop, sizeSub_of_le (by omega), if_pos (by omega), hread]
  simp only [hcur]
  rw [if_neg (by omega), if_neg (by omega), if_neg (by omega), f.getNetInfo_eq pre post hlimit]
  simp only [f.handled, hframe, Option.getD_some, hnext]
  rfl

/-- **A complete frame is dispatched**, and the offset moves past it. -/
theorem onReceiveLoop_frame (hlimit : pre.length + f.bytes.length < 2 ^ 31)
    (hhandle : RpcRoute.handle f.handler r socket (pre ++ f.bytes ++ post) pre.length f.netInfo
      = some (r', true)) :
    RpcRoute.onReceiveLoop socket (pre ++ f.bytes ++ post) (fuel + 1) (r, log) pre.length
      = RpcRoute.onReceiveLoop socket (pre ++ f.bytes ++ post) fuel (r', log ++ [f.dispatch])
        (pre.length + f.bytes.length : Nat) := by
  rw [onReceiveLoop_round fuel log f pre post hlimit, hhandle]

/-- A call that goes through has had `true` from the handler of each complete frame. -/
theorem handled_of_result (hlimit : pre.length + f.bytes.length < 2 ^ 31)
    (hok : (RpcRoute.onReceiveLoop socket (pre ++ f.bytes ++ post) (fuel + 1) (r, log) pre.length).result
      = .ok ()) :
    ∃ r', RpcRoute.handle f.handler r socket (pre ++ f.bytes ++ post) pre.length f.netInfo
      = some (r', true) := by
  rw [onReceiveLoop_round fuel log f pre post hlimit] at hok
  split at hok
  · cases hok
  · cases hok
  · next r' hhandle => exact ⟨r', hhandle⟩

/-- What is not a complete frame ends the call; `read_size` counts the frames before it only when not even
    the size word is there. -/
theorem onReceiveLoop_incomplete (s : RpcRoute.Logged) {rest : List GatewayFrame} {t : Bytes}
    (ht : Incomplete GatewayFrame.bytes rest t) (hpre : pre.length < 2 ^ 31) :
    RpcRoute.onReceiveLoop socket (pre ++ t) (fuel + 1) s pre.length
      = ⟨s, if t.length ≤ sizeofPacketSize then pre.length else 0, .ok ()⟩ := by
  obtain ⟨r, log⟩ := s
  rw [RpcRoute.onReceiveLoop, sizeSub_of_le (by simp), List.length_append, Nat.add_sub_cancel_left]
  by_cases hword : t.length ≤ sizeofPacketSize
  · rw [if_neg (by omega), if_pos hword, sizeT_of_lt hpre]
  · cases rest with
    | nil =>
      rw [show t = [] from ht] at hword
      exact absurd (Nat.zero_le _) hword
    | cons f rest =>
      have hlen := f.bytes_length
      have hpos := f.size_pos
      have hmax := f.size_lt
      have hshort := ht.2
      have hread : readNumber sizeofPacketSize (pre ++ t) pre.length = .ok f.frame.size :=
        f.frame.readNumber_size_of_prefix ht.1 (by omega)
      have hcur : uint32 (f.frame.size + sizeofPacketSize) = f.bytes.length := f.uint32_size
      rw [if_pos (by omega), hread]
      simp only [hcur]
      rw [if_neg (by omega), if_neg (by omega), if_pos (by omega), if_neg hword]

/-- **A frame that crosses `2 ^ 31` bytes ends the call without success**: whatever its handler does, the
    next read is at a negative offset. -/
theorem onReceiveLoop_cross (s : RpcRoute.Logged) (hpre : pre.length < 2 ^ 31)
    (hcross : 2 ^ 31 ≤ pre.length + f.bytes.length) :
    ∃ e, (RpcRoute.onReceiveLoop socket (pre ++ f.bytes ++ post) (fuel + 2) s pre.length).result
      = .error e := by
  obtain ⟨r, log⟩ := s
  have hlen := f.bytes_length
  have hpos := f.size_pos
  have hmax := f.size_lt
  have hbuf : (pre ++ f.bytes ++ post).length = pre.length + f.bytes.length + post.length := by
    simp only [List.length_append]
  have hread : readNumber sizeofPacketSize (pre ++ f.bytes ++ post) pre.length = .ok f.frame.size :=
    f.frame.readNumber_size pre post
  have hcur : uint32 (f.frame.size + sizeofPacketSize) = f.bytes.length := f.uint32_size
  have hlt := f.bytes_length_lt
  have hneg : int32 (pre.length + f.bytes.length) < 0 := int32_neg (by omega) (by omega)
  rw [RpcRoute.onReceiveLoop, sizeSub_of_le (by omega), if_pos (by omega), hread]
  simp only [hcur]
  rw [if_neg (by omega), if_neg (by omega), if_neg (by omega)]
  split
  · exact ⟨_, rfl⟩
  · split
    · exact ⟨_, rfl⟩
    · split
      · exact ⟨_, rfl⟩
      · exact ⟨_, rfl⟩
      · have hleft : (pre ++ f.bytes ++ post).length < sizeSub (pre ++ f.bytes ++ post).length
            (int32 (pre.length + f.bytes.length)) := lt_sizeSub_of_neg hneg
        rw [RpcRoute.onReceiveLoop, if_pos (by omega), readNumber_neg hneg]
        exact ⟨_, rfl⟩

end Loop

/-! ## The network layer's view -/

variable [FrNet]

/-- The network layer's view of the gateway's connection `socket`; the outputs are the handler calls. -/
def RpcRoute.recv (socket : Socket) (s : RpcRoute.Logged) (unread : Bytes) :
    Option (RpcRoute.Logged × List RpcRoute.Dispatch × Nat) :=
  (RpcRoute.onReceive s socket unread).toFeed Prod.snd s

/-- The handlers return `true` for the frames of `socket`, handled one after the other from `r` on: each in
    the state that the ones before it leave. -/
def Accepts (socket : Socket) : List GatewayFrame → RpcRoute → Prop
  | [], _ => True
  | f :: fs, r => ∃ r', RpcRoute.handle f.handler r socket f.bytes 0 f.netInfo = some (r', true) ∧
    Accepts socket fs r'

/-- Marking the socket as alive, as every call of `OnReceive` does first, changes nothing about this. -/
theorem Accepts.updateSocket {socket : Socket} {fs : List GatewayFrame} {r : RpcRoute}
    (h : Accepts socket fs r) : Accepts socket fs (r.updateSocket socket) := by
  induction fs generalizing r with
  | nil => trivial
  | cons f fs ih =>
    obtain ⟨r', hhandle, hlater⟩ := h
    refine ⟨r'.updateSocket socket, ?_, ih hlater⟩
    rw [RpcRoute.handle_updateSocket, hhandle]
    rfl

/-- When a call drops what it has dispatched: it dispatched nothing, or it ended without a further size
    word in sight; and its frames stayed within the `int32_t` range. -/
def GatewayTrims (gs : List GatewayFrame) (t : Bytes) : Prop :=
  (gs = [] ∨ t.length ≤ sizeofPacketSize) ∧ (stream GatewayFrame.bytes gs).length < 2 ^ 31

/-! ### The frames of a call -/

/-- In the states of `inv`, which sees the frames still to come, and in a call whose outcome is `good`, a
    complete frame is handled with `true`. -/
def Handles (socket : Socket) (inv : List GatewayFrame → RpcRoute → Prop)
    (good : Reception RpcRoute.Logged → Prop) : Prop :=
  ∀ fuel r log pre f fs post, inv (f :: fs) r →
    good (RpcRoute.onReceiveLoop socket (pre ++ f.bytes ++ post) (fuel + 1) (r, log) pre.length) →
    pre.length + f.bytes.length < 2 ^ 31 → ∃ r', inv fs r' ∧
      RpcRoute.handle f.handler r socket (pre ++ f.bytes ++ post) pre.length f.netInfo = some (r', true)

/-- The frames of an accepted stream are handled, wherever they stand: a handler sees what it would see of
    the frame alone. -/
theorem handles_accepts (socket : Socket) : Handles socket (Accepts socket) (fun _ => True) := by
  intro fuel r log pre f fs post haccepts _ hlt
  obtain ⟨r', hhandle, hlater⟩ := haccepts
  refine ⟨r', hlater, ?_⟩
  rw [GatewayFrame.bytes, handle_local f.frame pre post f.size_lt hlt]
  exact hhandle

/-- A call that goes through has handled its frames, accepted before or not. -/
theorem handles_ok (socket : Socket) :
    Handles socket (fun _ _ => True) (fun reception => reception.result = .ok ()) := by
  intro fuel r log pre f fs post _ hok hlt
  obtain ⟨r', hhandle⟩ := handled_of_result fuel log f pre post hlt hok
  exact ⟨r', trivial, hhandle⟩

section Frames

variable {socket : Socket} {inv : List GatewayFrame → RpcRoute → Prop}
  {good : Reception RpcRoute.Logged → Prop} (hhandle : Handles socket inv good)

include hhandle

/-- The first frames of a call are dispatched one after the other. -/
theorem onReceiveLoop_frames (fuel : Nat) {r : RpcRoute} (log : List RpcRoute.Dispatch)
    (gs rest : List GatewayFrame) (hr : inv (gs ++ rest) r) (post : Bytes)
    (hgood : good (RpcRoute.onReceiveLoop socket (stream GatewayFrame.bytes gs ++ post)
      (fuel + gs.length) (r, log) 0))
    (hlimit : (stream GatewayFrame.bytes gs).length < 2 ^ 31) :
    ∃ r', inv rest r' ∧ RpcRoute.onReceiveLoop socket (stream GatewayFrame.bytes gs ++ post)
        (fuel + gs.length) (r, log) 0
      = RpcRoute.onReceiveLoop socket (stream GatewayFrame.bytes gs ++ post) fuel
        (r', log ++ gs.flatMap (fun f => [f.dispatch])) (stream GatewayFrame.bytes gs).length := by
  let loop (fuel : Nat) (r : RpcRoute) (log : List RpcRoute.Dispatch) (pos : Nat) :=
    RpcRoute.onReceiveLoop socket (stream GatewayFrame.bytes gs ++ post) fuel (r, log) pos
  have hstep : ∀ fuel r log pre f fs post', inv (f :: fs) r → good (loop (fuel + 1) r log pre.length) →
      stream GatewayFrame.bytes gs ++ post = pre ++ f.bytes ++ post' →
      pre.length + f.bytes.length < 2 ^ 31 → ∃ r', inv fs r' ∧ loop (fuel + 1) r log pre.length
        = loop fuel r' (log ++ [f.dispatch]) (pre.length + f.bytes.length) := by
    intro fuel r log pre f fs post' hr hgood hbuf hlt
    simp only [loop, hbuf] at hgood ⊢
    obtain ⟨r', hr', hhandled⟩ := hhandle fuel r log pre f fs post' hr hgood hlt
    exact ⟨r', hr', onReceiveLoop_frame fuel log f pre post' hlt hhandled⟩
  have hbuf : stream GatewayFrame.bytes gs ++ post = [] ++ stream GatewayFrame.bytes gs ++ post := rfl
  have hgood : good (loop (fuel + gs.length) r log ([] : Bytes).length) := hgood
  obtain ⟨r', hr', hloop⟩ := loop_frames loop good (stream GatewayFrame.bytes gs ++ post) inv hstep gs
    rest fuel r log hr hgood hbuf (by simpa using hlimit)
  simp only [loop, List.length_nil, Nat.zero_add] at hloop
  exact ⟨r', hr', hloop⟩

/-- A call within the `int32_t` range dispatches its frames; what it drops depends on the rest. -/
theorem onReceive_frames {s : RpcRoute.Logged} {gs rest : List GatewayFrame} {t : Bytes}
    (hs : inv (gs ++ rest) (s.1.updateSocket socket))
    (hgood : good (RpcRoute.onReceive s socket (stream GatewayFrame.bytes gs ++ t)))
    (ht : Incomplete GatewayFrame.bytes rest t) (hlimit : (stream GatewayFrame.bytes gs).length < 2 ^ 31) :
    ∃ r', inv rest r' ∧ RpcRoute.recv socket s (stream GatewayFrame.bytes gs ++ t)
      = some ((r', s.2 ++ gs.flatMap (fun f => [f.dispatch])), gs.flatMap (fun f => [f.dispatch]),
        if t.length ≤ sizeofPacketSize then (stream GatewayFrame.bytes gs).length else 0) := by
  have hcount := length_le_stream GatewayFrame.bytes_ne_nil gs
  obtain ⟨fuel, hfuel⟩ : ∃ fuel, (stream GatewayFrame.bytes gs ++ t).length + 1
      = (fuel + 1) + gs.length :=
    ⟨(stream GatewayFrame.bytes gs ++ t).length - gs.length, by rw [List.length_append]; omega⟩
  rw [RpcRoute.onReceive, hfuel] at hgood
  obtain ⟨r', hr', hloop⟩ := onReceiveLoop_frames hhandle (fuel + 1) s.2 gs rest hs t hgood hlimit
  refine ⟨r', hr', ?_⟩
  rw [RpcRoute.recv, RpcRoute.onReceive, hfuel, hloop,
    onReceiveLoop_incomplete fuel (stream GatewayFrame.bytes gs) _ ht hlimit]
  simp only [Reception.toFeed, List.drop_left]

end Frames

/-- **An accepted stream is trimmed** by the calls that meet `GatewayTrims`, and what follows the trimmed
    frames is accepted still. -/
theorem gateway_trims (socket : Socket) :
    Trims GatewayFrame.bytes (fun f => [f.dispatch]) (fun fs s => Accepts socket fs s.1) GatewayTrims
      (RpcRoute.recv socket) where
  trim s gs rest t hs ht htrim := by
    obtain ⟨hend, hlimit⟩ := htrim
    obtain ⟨r', hr', hrecv⟩ :=
      onReceive_frames (handles_accepts socket) hs.updateSocket trivial ht hlimit
    refine ⟨(r', s.2 ++ gs.flatMap (fun f => [f.dispatch])), hr', ?_⟩
    rw [hrecv]
    rcases hend with rfl | hword
    · split <;> rfl
    · rw [if_pos hword]

section Splits

variable {socket : Socket} {s : RpcRoute.Logged} {gs : List GatewayFrame}

/-- A call that reaches the end of the `int32_t` range does not go through. -/
theorem onReceive_overflow (t : Bytes) (hlimit : 2 ^ 31 ≤ (stream GatewayFrame.bytes gs).length) :
    (RpcRoute.onReceive s socket (stream GatewayFrame.bytes gs ++ t)).result ≠ .ok () := by
  intro hok
  obtain ⟨gs₁, f, gs₂, rfl, hbelow, hcross⟩ := exists_crossing hlimit (by decide)
  have hcount := length_le_stream GatewayFrame.bytes_ne_nil gs₁
  have hpos := f.bytes_length
  have hbuf : stream GatewayFrame.bytes (gs₁ ++ f :: gs₂) ++ t
      = stream GatewayFrame.bytes gs₁ ++ (f.bytes ++ (stream GatewayFrame.bytes gs₂ ++ t)) := by
    rw [stream_append, stream_cons]; simp only [List.append_assoc]
  obtain ⟨fuel, hfuel⟩ : ∃ fuel, (stream GatewayFrame.bytes (gs₁ ++ f :: gs₂) ++ t).length + 1
      = (fuel + 2) + gs₁.length :=
    ⟨(stream GatewayFrame.bytes (gs₁ ++ f :: gs₂) ++ t).length - gs₁.length - 1, by
      rw [hbuf]; simp only [List.length_append, hpos, sizeofPacketSize]; omega⟩
  rw [RpcRoute.onReceive, hfuel, hbuf] at hok
  -- the frames before the crossing one are handled, or the call has ended already
  obtain ⟨r', -, hloop⟩ := onReceiveLoop_frames (handles_ok socket) (fuel + 2) s.2
    gs₁ (f :: gs₂) trivial (f.bytes ++ (stream GatewayFrame.bytes gs₂ ++ t)) hok hbelow
  obtain ⟨e, he⟩ : ∃ e, (RpcRoute.onReceiveLoop socket (stream GatewayFrame.bytes gs₁ ++ f.bytes
      ++ (stream GatewayFrame.bytes gs₂ ++ t)) (fuel + 2)
      (r', s.2 ++ gs₁.flatMap (fun f => [f.dispatch])) (stream GatewayFrame.bytes gs₁).length).result
      = .error e := onReceiveLoop_cross fuel f _ _ _ hbelow hcross
  rw [hloop, ← List.append_assoc, he] at hok
  cases hok

/-- **What a call that goes through has done**: it has dispatched its frames, and dropped them exactly under
    `GatewayTrims`. -/
theorem gateway_splits (socket : Socket) :
    Splits GatewayFrame.bytes (fun f => [f.dispatch]) GatewayTrims (RpcRoute.recv socket) where
  call s gs rest t s' o n ht hcall := by
    have hok : (RpcRoute.onReceive s socket (stream GatewayFrame.bytes gs ++ t)).result = .ok () := by
      unfold RpcRoute.recv Reception.toFeed at hcall
      split at hcall
      · assumption
      · cases hcall
    have hlimit : (stream GatewayFrame.bytes gs).length < 2 ^ 31 :=
      Nat.lt_of_not_le fun hover => onReceive_overflow t hover hok
    obtain ⟨r', -, hrecv⟩ := onReceive_frames (handles_ok socket) trivial hok ht hlimit
    rw [hrecv] at hcall
    cases hcall
    refine ⟨rfl, fun htrim => ?_, fun hkeep => ?_⟩
    · rcases htrim.1 with rfl | hword
      · split <;> rfl
      · rw [if_pos hword]
    · -- a further size word is in sight
      have hend : ¬ (gs = [] ∨ t.length ≤ sizeofPacketSize) := fun hend => hkeep ⟨hend, hlimit⟩
      exact ⟨fun hnil => hend (Or.inl hnil), if_neg fun hword => hend (Or.inr hword)⟩

end Splits

/-- Every call that completes a frame ends at most a size word behind the last completed frame, and no call
    completes `2 ^ 31` bytes of frames or more. -/
def CallsEndAtFrames (frames : List GatewayFrame) (chunks : List Bytes) : Prop :=
  AllTrimmed GatewayFrame.bytes GatewayTrims frames [] chunks

/-- **The gateway dispatches every frame exactly once and in order if and only if every call ends at most a
    size word behind a frame**, for every stream whose frames it accepts. -/
theorem gateway_exactly_once_iff {socket : Socket} {frames : List GatewayFrame} {s : RpcRoute.Logged}
    (haccepts : Accepts socket frames s.1) {chunks : List Bytes}
    (hchunks : chunks.flatten = stream GatewayFrame.bytes frames) :
    (∃ s', feed (RpcRoute.recv socket) s [] chunks
      = some (s', frames.flatMap (fun f => [f.dispatch]), [])) ↔ CallsEndAtFrames frames chunks :=
  feed_iff_trimmed (gateway_trims socket) (gateway_splits socket) GatewayFrame.bytes_ne_nil (by simp) haccepts
    hchunks

end

/-! ## A server's stream -/

/-- A heart frame, nine bytes. -/
def gatewayHeart : GatewayFrame where
  frame := ⟨serialize (⟨eNetTypeHeart, []⟩ : NetInfo), [], by decide, by decide⟩
  netInfo := ⟨eNetTypeHeart, []⟩
  handler := .heart
  size_lt := by decide
  net_ne := by decide
  parsed := by decide
  handled := by decide

def registerNetInfo : NetInfo :=
  ⟨eNetTypeRouteCmd, serialize (⟨eRouteCmdServerServiceRegister,
    serialize (⟨"S", "a"⟩ : RouteServiceInfo)⟩ : RouteCmdRequest)⟩

def cancelNetInfo : NetInfo :=
  ⟨eNetTypeRouteCmd, serialize (⟨eRouteCmdServerServiceCancel, []⟩ : RouteCmdRequest)⟩

/-- A server registers a service. -/
def gatewayRegister : GatewayFrame where
  frame := ⟨serialize registerNetInfo, [], by decide, by decide⟩
  netInfo := registerNetInfo
  handler := .command
  size_lt := by decide
  net_ne := by decide
  parsed := by decide
  handled := by decide

/-- It cancels the service again. -/
def gatewayCancel : GatewayFrame where
  frame := ⟨serialize cancelNetInfo, [], by decide, by decide⟩
  netInfo := cancelNetInfo
  handler := .command
  size_lt := by decide
  net_ne := by decide
  parsed := by decide
  handled := by decide

section

attribute [local instance] networkUp

theorem accepts_hearts : Accepts 5 [gatewayHeart, gatewayHeart] .started :=
  ⟨_, rfl, _, rfl, trivial⟩

theorem accepts_server : Accepts 5 [gatewayRegister, gatewayHeart, gatewayCancel] .started :=
  ⟨_, rfl, _, rfl, _, rfl, trivial⟩

/-- A server registers, sends a heart and cancels; cut inside the size word of the second frame, every frame
    is dispatched once. -/
theorem gateway_cut_at_four :
    ∃ s', feed (RpcRoute.recv 5) (.started, []) []
        [gatewayRegister.bytes ++ gatewayHeart.bytes.take 4, gatewayHeart.bytes.drop 4 ++ gatewayCancel.bytes]
      = some (s', [gatewayRegister.dispatch, gatewayHeart.dispatch, gatewayCancel.dispatch], []) :=
  (gateway_exactly_once_iff accepts_server
    (show List.flatten [gatewayRegister.bytes ++ gatewayHeart.bytes.take 4,
        gatewayHeart.bytes.drop 4 ++ gatewayCancel.bytes]
      = stream GatewayFrame.bytes [gatewayRegister, gatewayHeart, gatewayCancel] by decide)).mpr
    ⟨⟨Or.inr (by decide), by decide⟩, ⟨Or.inr (by decide), by decide⟩, trivial⟩

/-- Two heart frames are accepted; cut one byte later, the first of them is dispatched twice. -/
theorem gateway_cut_at_five :
    Accepts 5 [gatewayHeart, gatewayHeart] .started ∧
    (feed (RpcRoute.recv 5) (.started, []) []
        [gatewayHeart.bytes ++ gatewayHeart.bytes.take 5, gatewayHeart.bytes.drop 5]).map (·.2.1)
      = some [gatewayHeart.dispatch, gatewayHeart.dispatch, gatewayHeart.dispatch] ∧
    ¬ ∃ s', feed (RpcRoute.recv 5) (.started, []) []
        [gatewayHeart.bytes ++ gatewayHeart.bytes.take 5, gatewayHeart.bytes.drop 5]
      = some (s', [gatewayHeart.dispatch, gatewayHeart.dispatch], []) := by
  have hlog : (feed (RpcRoute.recv 5) (.started, []) []
        [gatewayHeart.bytes ++ gatewayHeart.bytes.take 5, gatewayHeart.bytes.drop 5]).map (·.2.1)
      = some [gatewayHeart.dispatch, gatewayHeart.dispatch, gatewayHeart.dispatch] := by decide
  refine ⟨accepts_hearts, hlog, ?_⟩
  rintro ⟨s', hfeed⟩
  rw [hfeed, Option.map_some, Option.some.injEq] at hlog
  exact absurd (congrArg List.length hlog) (by simp)

-- a registration that is dispatched again fails, and the connection is closed
example : (feed (RpcRoute.recv 5) (.started, []) []
    [gatewayRegister.bytes ++ gatewayHeart.bytes.take 5, gatewayHeart.bytes.drop 5]).isNone = true := by
  decide

end

end Frrpc
