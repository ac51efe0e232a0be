import Frrpc.Pb.Wire
import Frrpc.Public.Correctness.RoundTrip
import Frrpc.Rpc.NetServer
import Frrpc.Rpc.Pipeline
import Frrpc.Rpc.Server
import Frrpc.Rpc.Correctness.Request

/-!
# `Rpc.Correctness.Body` — which route frames reach their reader

The decoder leaves the packet's binary null when a frame has no body, and what comes next reads through it:
a server copies every packet it queues, a channel parses the response or the push that something waits for.
So every route frame with a body travels end to end, and none without one (`body_delivered_iff`).
-/

namespace Frrpc

open Lib Std

section

variable [Protobuf]

/-! ## Route frames -/

/-- What a route frame is built from, with parts that fit its size fields and a meta that is not empty. -/
structure RouteFrame where
  routeNetInfo : RouteNetInfo
  rpcMeta : RpcMeta
  body : Bytes
  net_lt : byteSize (⟨eNetTypeRoute, serialize routeNetInfo⟩ : NetInfo) < 2 ^ 16
  meta_pos : 0 < byteSize rpcMeta
  meta_lt : byteSize rpcMeta < 2 ^ 16
  size_lt : sizeofNetInfoSize + byteSize (⟨eNetTypeRoute, serialize routeNetInfo⟩ : NetInfo)
    + (sizeofRpcMetaSize + byteSize rpcMeta + body.length) < 2 ^ 32

namespace RouteFrame

def netInfo (f : RouteFrame) : NetInfo := ⟨eNetTypeRoute, serialize f.routeNetInfo⟩

def bytes (f : RouteFrame) : Bytes := buildBinaryFromMessage f.netInfo f.rpcMeta f.body

/-- The packet that a decoder makes of the frame: without a body, it has no binary. -/
def packet (f : RouteFrame) : RpcPacket := ⟨0, .method, f.rpcMeta, if f.body = [] then none else some f.body⟩

theorem decoded (f : RouteFrame) (pre suf : Bytes) (hpre : pre.length < 2 ^ 31) :
    getMessageFromBinary (pre ++ f.bytes ++ suf) pre.length default (some (.new 0 .method))
      = .ok (f.netInfo, some f.packet) := by
  have hnet : byteSize f.netInfo ≤ 65535 := Nat.le_of_lt_succ f.net_lt
  have htype : f.netInfo.netType ≤ eNetTypeSpecial := by
    show eNetTypeRoute ≤ eNetTypeSpecial
    decide
  have hbuild := (getMessageFromBinary_build f.netInfo f.rpcMeta f.body pre suf hnet hpre).1 htype f.meta_pos
    (Nat.le_of_lt_succ f.meta_lt) f.size_lt
  exact hbuild.1 default (.new 0 .method) (fun _ => rfl) rfl

/-- The net info's own message is short enough to be parsed back. -/
theorem parse_netBinary (f : RouteFrame) : parse f.netInfo.netBinary = some f.routeNetInfo := by
  apply PbMessage.parse_serialize
  have hle := Protobuf.netBinary_length_le f.netInfo
  exact Nat.lt_of_le_of_lt hle (Nat.lt_trans f.net_lt (by decide))

end RouteFrame

/-! ## The server -/

/-- What an `OnReceive` of gateway `routeId` does with a complete frame. -/
def RpcServerRoute.takeFrame (s : RpcServerRoute) (routeId : RouteID) (binary : Bytes) (offset : Int) :
    Except Failure RpcServerRoute := do
  let (netInfo, packet) ← getMessageFromBinary binary offset default (some (.new 0 .method))
  s.dispatch routeId netInfo (packet.getD (.new 0 .method))

/-- That is what receiving one frame comes to, once it is there in full. -/
theorem RpcServerRoute.receiveOne_takeFrame {s : RpcServerRoute} {routeId : RouteID} {binary : Bytes}
    {offset : Int} {readSize size : Nat} (hsize : readNumber sizeofPacketSize binary offset = .ok size)
    (hcomplete : size + sizeofPacketSize ≤ sizeSub binary.length readSize) (hmax : size < netPacketMaxSize)
    (hpos : 0 < size) :
    s.receiveOne routeId binary offset readSize
      = (s.takeFrame routeId binary offset >>= fun s => .ok (some (s, size))) := by
  rw [receiveOne, hsize, ok_bind, if_neg (Nat.not_lt.mpr hcomplete), if_neg (Nat.not_le.mpr hmax),
    if_neg (Nat.pos_iff_ne_zero.mp hpos), takeFrame]
  cases getMessageFromBinary binary offset default (some (.new 0 .method)) with
  | ok message => rfl
  | error e => rfl

/-- Whatever method a packet's meta names, `ParseBinary` is defined and its request is parsed from `body`. -/
def ParsesBody (packet : RpcPacket) (body : Bytes) : Prop :=
  ∀ name2Service service method, getServiceFromName name2Service packet.rpcMeta.serviceName = some service →
    service.method packet.rpcMeta.methodIndex = some method →
      ∃ message completed, parseBinary name2Service packet = some (message, completed) ∧
        message.request = if method.parses body then some body else none

/-- The server queues the frame's message, and the request parsed from it is the frame's body. -/
def ServerDelivers (s : RpcServerRoute) (routeId : RouteID) (binary : Bytes) (offset : Nat) (f : RouteFrame) :
    Prop :=
  ∃ packet, s.takeFrame routeId binary offset = .ok (s.pushMessageToQueue packet) ∧
    packet.rpcMeta = f.rpcMeta ∧
    packet.linkId = buildLinkID s.routeLength routeId f.routeNetInfo.sourceSocket ∧
    ParsesBody packet f.body

omit [Protobuf] in
theorem parsesBody_of_binary {packet : RpcPacket} {body : Bytes} (h : packet.binary = some body) :
    ParsesBody packet body := by
  intro name2Service service method hservice hmethod
  have hparse : parseBinary name2Service packet
      = (if method.parses body then some (⟨packet.rpcMeta, some method, some body, some []⟩ : RpcMessage)
          else some .clear).map fun message => (message, message.isCompleted) := by
    rw [parseBinary, hservice]
    simp only [hmethod, h, Option.bind_eq_bind, Option.bind_some, pure]
    split <;> rfl
  by_cases hparses : method.parses body = true
  · rw [if_pos hparses] at hparse ⊢
    exact ⟨_, _, hparse, rfl⟩
  · rw [if_neg hparses] at hparse ⊢
    exact ⟨_, _, hparse, rfl⟩

theorem takeFrame_server (f : RouteFrame) (s : RpcServerRoute) (routeId : RouteID) (pre suf : Bytes)
    (hpre : pre.length < 2 ^ 31) :
    s.takeFrame routeId (pre ++ f.bytes ++ suf) pre.length
      = s.receiveRoutePacket routeId f.netInfo f.packet := by
  rw [RpcServerRoute.takeFrame, f.decoded pre suf hpre]
  rfl

/-- **A server takes a route frame exactly when it has a body**: it copies every packet through its binary. -/
theorem serverDelivers_iff (f : RouteFrame) (s : RpcServerRoute) (routeId : RouteID) (pre suf : Bytes)
    (hpre : pre.length < 2 ^ 31) :
    ServerDelivers s routeId (pre ++ f.bytes ++ suf) pre.length f ↔ f.body ≠ [] := by
  constructor
  · rintro ⟨packet, htake, _⟩ hbody
    have hnull : f.packet.copy = .error .undefined := by
      rw [RpcPacket.copy, RouteFrame.packet, if_pos hbody]
      rfl
    rw [takeFrame_server f s routeId pre suf hpre, RpcServerRoute.receiveRoutePacket, f.parse_netBinary,
      orRefuse, ok_bind, hnull] at htake
    cases htake
  · intro hbody
    have hcopy : f.packet.copy = .ok ⟨0, .method, f.rpcMeta, some f.body⟩ := by
      rw [RpcPacket.copy, RouteFrame.packet, if_neg hbody]
      rfl
    refine ⟨⟨buildLinkID s.routeLength routeId f.routeNetInfo.sourceSocket, .method, f.rpcMeta, some f.body⟩,
      ?_, rfl, rfl, parsesBody_of_binary rfl⟩
    rw [takeFrame_server f s routeId pre suf hpre, RpcServerRoute.receiveRoutePacket, f.parse_netBinary,
      orRefuse, ok_bind, hcopy]
    rfl

/-! ## The channel -/

/-- What a channel's `OnReceive` does with a complete frame. -/
def RpcChannelRoute.takeFrame (c : RpcChannelRoute) (binary : Bytes) (offset : Int) :
    Except Failure RpcChannelRoute := do
  let (netInfo, packet) ← getMessageFromBinary binary offset default (some (.new 0 .method))
  c.dispatch netInfo (packet.getD (.new 0 .method))

/-- That is what receiving one frame comes to here too. -/
theorem RpcChannelRoute.receiveOne_takeFrame {c : RpcChannelRoute} {binary : Bytes} {offset : Int}
    {readSize size : Nat} (hsize : readNumber sizeofPacketSize binary offset = .ok size)
    (hcomplete : size + sizeofPacketSize ≤ sizeSub binary.length readSize) (hmax : size < netPacketMaxSize)
    (hpos : 0 < size) :
    c.receiveOne binary offset readSize
      = (c.takeFrame binary offset >>= fun c => .ok (some (c, size))) := by
  have hcheck : getAndCheckPacketSize binary offset = .ok size := by
    rw [getAndCheckPacketSize, hsize, ok_bind, if_neg (Nat.not_le.mpr hmax),
      if_neg (Nat.pos_iff_ne_zero.mp hpos)]
    rfl
  rw [receiveOne, hcheck, ok_bind, if_neg (Nat.not_lt.mpr hcomplete), takeFrame]
  cases getMessageFromBinary binary offset default (some (.new 0 .method)) with
  | ok message => rfl
  | error e => rfl

namespace Channel

omit [Protobuf]

/-- What the parse loop does with a method packet. -/
def doPacket (c : Channel) (package : RpcPacket) : Option Channel :=
  if isRequestMode package then c.doRequestPacket package else c.doRegisterPacket package

/-- Something waits for the body of a packet with this meta: a pending request whose response reports no
    error, or a callback registered for the push. -/
def Awaits (c : Channel) (rpcMeta : RpcMeta) : Prop :=
  if rpcMeta.rpcRequestMeta.requestId ≠ rpcRequestIdNull then
    c.requestCallback[requestKey rpcMeta.rpcRequestMeta.requestId]? ≠ none ∧ rpcMeta.rpcResponseMeta.error = ""
  else c.registerCallback[convertMethodKey rpcMeta.serviceName rpcMeta.methodIndex]? ≠ none

/-- A packet that nothing waits for is not read. -/
theorem doPacket_of_not_awaits {c : Channel} {package : RpcPacket} (h : ¬ c.Awaits package.rpcMeta) :
    ∃ c', c.doPacket package = some c' := by
  unfold Awaits at h
  unfold doPacket isRequestMode
  by_cases hmode : package.rpcMeta.rpcRequestMeta.requestId ≠ rpcRequestIdNull
  · rw [if_pos hmode] at h
    rw [if_pos (decide_eq_true hmode)]
    cases hentry : c.requestCallback[requestKey package.rpcMeta.rpcRequestMeta.requestId]? with
    | none => exact ⟨c, doRequestPacket_absent hentry⟩
    | some callback =>
      have herror : package.rpcMeta.rpcResponseMeta.error ≠ "" := by
        intro hempty
        exact h ⟨by rw [hentry]; simp, hempty⟩
      obtain ⟨callback', _, hfinish⟩ := doRequestPacket_present hentry (Or.inl herror)
      exact ⟨_, hfinish⟩
  · rw [if_neg hmode, not_not] at h
    rw [if_neg (by simpa using hmode), doRegisterPacket, h]
    exact ⟨c, rfl⟩

/-- **What waits for a packet gets its binary**, which has to be there. -/
theorem doPacket_of_awaits {c : Channel} {package : RpcPacket} (h : c.Awaits package.rpcMeta) :
    (package.binary = none → c.doPacket package = none) ∧
    ∀ binary, package.binary = some binary → ∃ c' callback, c.doPacket package = some c' ∧
      c'.alreadyCallbackQueue = c.alreadyCallbackQueue ++ [callback] ∧ callback.response = some binary := by
  unfold Awaits at h
  unfold doPacket isRequestMode
  by_cases hmode : package.rpcMeta.rpcRequestMeta.requestId ≠ rpcRequestIdNull
  · rw [if_pos hmode] at h
    rw [if_pos (decide_eq_true hmode)]
    obtain ⟨callback, hentry⟩ := Option.ne_none_iff_exists'.mp h.1
    constructor
    · intro hnull
      apply doRequestPacket_undefined hentry
      rintro (herror | hbinary)
      · exact herror h.2
      · exact hbinary hnull
    · intro binary hbinary
      rw [doRequestPacket, hentry, h.2, hbinary]
      exact ⟨_, _, rfl, rfl, rfl⟩
  · rw [if_neg hmode] at h
    rw [if_neg (by simpa using hmode), doRegisterPacket]
    obtain ⟨info, hentry⟩ := Option.ne_none_iff_exists'.mp h
    rw [hentry]
    constructor
    · intro hnull
      rw [hnull]
      rfl
    · intro binary hbinary
      rw [hbinary]
      exact ⟨_, _, rfl, rfl, rfl⟩

end Channel

/-- The channel queues the frame's packet, handling it is defined, and what waits for it gets the frame's
    body. -/
def ChannelDelivers (route : RpcChannelRoute) (c : Channel) (binary : Bytes) (offset : Nat) (f : RouteFrame) :
    Prop :=
  ∃ packet, route.takeFrame binary offset = .ok (route.pushMessageToQueue packet) ∧
    packet.rpcMeta = f.rpcMeta ∧
    ∃ c', c.doPacket packet = some c' ∧
      (c.Awaits f.rpcMeta → ∃ callback, c'.alreadyCallbackQueue = c.alreadyCallbackQueue ++ [callback] ∧
        callback.response = some f.body)

theorem takeFrame_channel (f : RouteFrame) (route : RpcChannelRoute) (pre suf : Bytes)
    (hpre : pre.length < 2 ^ 31) :
    route.takeFrame (pre ++ f.bytes ++ suf) pre.length = .ok (route.pushMessageToQueue f.packet) := by
  rw [RpcChannelRoute.takeFrame, f.decoded pre suf hpre]
  rfl

omit [Protobuf] in
theorem pushMessageToQueue_inj {route : RpcChannelRoute} {packet packet' : RpcPacket}
    (h : route.pushMessageToQueue packet = route.pushMessageToQueue packet') : packet = packet' := by
  have hqueue : route.packetQueue ++ [packet] = route.packetQueue ++ [packet'] :=
    congrArg RpcChannelRoute.packetQueue h
  exact (List.cons.inj (List.append_cancel_left hqueue)).1

/-- **A channel handles a route frame exactly when it has a body or nothing waits for it.** -/
theorem channelDelivers_iff (f : RouteFrame) (route : RpcChannelRoute) (c : Channel) (pre suf : Bytes)
    (hpre : pre.length < 2 ^ 31) :
    ChannelDelivers route c (pre ++ f.bytes ++ suf) pre.length f ↔ f.body ≠ [] ∨ ¬ c.Awaits f.rpcMeta := by
  constructor
  · rintro ⟨packet, htake, _, c', hpacket, _⟩
    rw [takeFrame_channel f route pre suf hpre] at htake
    obtain rfl := pushMessageToQueue_inj (Except.ok.inj htake)
    by_cases hbody : f.body = []
    · refine Or.inr fun hawaits => ?_
      have hnull : f.packet.binary = none := if_pos hbody
      have hawaits : c.Awaits f.packet.rpcMeta := hawaits
      rw [(Channel.doPacket_of_awaits hawaits).1 hnull] at hpacket
      cases hpacket
    · exact Or.inl hbody
  · intro h
    refine ⟨f.packet, takeFrame_channel f route pre suf hpre, rfl, ?_⟩
    by_cases hawaits : c.Awaits f.packet.rpcMeta
    · have hbinary : f.packet.binary = some f.body := if_neg (h.resolve_right (not_not.mpr hawaits))
      obtain ⟨c', callback, hpacket, hqueue, hresponse⟩ :=
        (Channel.doPacket_of_awaits hawaits).2 f.body hbinary
      exact ⟨c', hpacket, fun _ => ⟨callback, hqueue, hresponse⟩⟩
    · obtain ⟨c', hpacket⟩ := Channel.doPacket_of_not_awaits hawaits
      exact ⟨c', hpacket, fun h => absurd h hawaits⟩

/-! ## Both -/

/-- Wherever a frame stands in a stream, every server and every channel that receives it delivers it. -/
def TravelsEndToEnd (f : RouteFrame) : Prop :=
  ∀ pre suf : Bytes, pre.length < 2 ^ 31 →
    (∀ s routeId, ServerDelivers s routeId (pre ++ f.bytes ++ suf) pre.length f) ∧
    ∀ route c, ChannelDelivers route c (pre ++ f.bytes ++ suf) pre.length f

/-- **A route frame travels end to end exactly when its body is not empty.** Without one no server takes it,
    and no channel where something waits for it. -/
theorem body_delivered_iff (f : RouteFrame) :
    (TravelsEndToEnd f ↔ f.body ≠ []) ∧
    ∀ pre suf : Bytes, pre.length < 2 ^ 31 →
      (∀ s routeId, ServerDelivers s routeId (pre ++ f.bytes ++ suf) pre.length f ↔ f.body ≠ []) ∧
      ∀ route c, ChannelDelivers route c (pre ++ f.bytes ++ suf) pre.length f ↔
        f.body ≠ [] ∨ ¬ c.Awaits f.rpcMeta := by
  refine ⟨⟨fun h => ?_, fun hbody pre suf hpre => ⟨fun s routeId => ?_, fun route c => ?_⟩⟩,
    fun pre suf hpre => ⟨fun s routeId => ?_, fun route c => ?_⟩⟩
  · have hserver := (h [] [] (by decide)).1 (.new 1) 0
    exact (serverDelivers_iff f (.new 1) 0 [] [] (by decide)).mp hserver
  · exact (serverDelivers_iff f s routeId pre suf hpre).mpr hbody
  · exact (channelDelivers_iff f route c pre suf hpre).mpr (Or.inl hbody)
  · exact serverDelivers_iff f s routeId pre suf hpre
  · exact channelDelivers_iff f route c pre suf hpre

end

/-! ## An empty request -/

/-- The frame of a default-valued request: its meta is there, its body is not. -/
def emptyRequest : RouteFrame where
  routeNetInfo := ⟨true, "S", [], 0⟩
  rpcMeta := ⟨"S", 0, some ⟨1⟩, none, 0⟩
  body := []
  net_lt := by decide
  meta_pos := by decide
  meta_lt := by decide
  size_lt := by decide

/-- **The server copies the packet of an empty request through a null pointer.** -/
theorem emptyRequest_not_delivered :
    (RpcServerRoute.new 1).takeFrame 0 emptyRequest.bytes 0 = .error .undefined ∧
      ¬ TravelsEndToEnd emptyRequest := by
  have hundefined : (RpcServerRoute.new 1).takeFrame 0 emptyRequest.bytes 0 = .error .undefined := by decide
  refine ⟨hundefined, fun h => ?_⟩
  obtain ⟨packet, htake, _⟩ := (h [] [] (by decide)).1 (.new 1) 0
  rw [List.nil_append, List.append_nil] at htake
  exact absurd (htake.symm.trans hundefined) (by simp)

end Frrpc
