import Frrpc.Public.Correctness.RoundTrip
import Frrpc.Rpc.NetChannel
import Frrpc.Rpc.NetServer
import Frrpc.Rpc.Correctness.Receive

/-!
# `Rpc.Correctness.Split` — the endpoints take exactly the frames out of a byte stream

An `EndpointFrame` is a route frame with a meta and a body, or a heart frame, as the builders make them.
Both endpoints handle each of them in one round (`channel_handles`, `server_handles`), so
`trims_receiveLoop` and `Lib.feed_of_trimmed` give exactly-once delivery in order for any cutting of the
stream, as long as one call's frames stay below `2 ^ 31` bytes.
-/

namespace Frrpc

open Lib

section

variable [Protobuf]

/-! ## The frames of an endpoint's stream -/

inductive EndpointMessage where
  | route (routeNetInfo : RouteNetInfo) (rpcMeta : RpcMeta) (body : Bytes)
  | heart (netBinary : Bytes)

namespace EndpointMessage

def netInfo : EndpointMessage → NetInfo
  | route routeNetInfo _ _ => ⟨eNetTypeRoute, serialize routeNetInfo⟩
  | heart netBinary => ⟨eNetTypeHeart, netBinary⟩

def bytes (m : EndpointMessage) : Bytes :=
  match m with
  | route _ rpcMeta body => buildBinaryFromMessage m.netInfo rpcMeta body
  | heart _ => buildBinaryFromMessageNet m.netInfo

/-- The packet a decoder fills in. -/
def packet : EndpointMessage → RpcPacket
  | route _ rpcMeta body => ⟨0, .method, rpcMeta, some body⟩
  | heart _ => .new 0 .method

/-- A route frame has a meta and a body. -/
def Nonempty : EndpointMessage → Prop
  | route _ rpcMeta body => serialize rpcMeta ≠ [] ∧ body ≠ []
  | heart _ => True

/-- What a channel gets from a frame. -/
def channelPackets : EndpointMessage → List RpcPacket
  | route _ rpcMeta body => [⟨0, .method, rpcMeta, some body⟩]
  | heart _ => []

/-- What a server gets from a frame of gateway `routeId`. -/
def serverPackets (routeLength : Nat) (routeId : RouteID) : EndpointMessage → List RpcPacket
  | route routeNetInfo rpcMeta body =>
    [⟨buildLinkID routeLength routeId routeNetInfo.sourceSocket, .method, rpcMeta, some body⟩]
  | heart _ => []

end EndpointMessage

/-- A frame the endpoints accept: nonempty where it must be, and below the packet limit behind its size
    word. -/
structure EndpointFrame where
  message : EndpointMessage
  nonempty : message.Nonempty
  fits : message.bytes.length < netPacketMaxSize + sizeofPacketSize

def EndpointFrame.bytes (f : EndpointFrame) : Bytes := f.message.bytes

theorem buildBinaryFromMessage_length (netInfo : NetInfo) (rpcMeta : RpcMeta) (body : Bytes) :
    (buildBinaryFromMessage netInfo rpcMeta body).length = sizeofPacketSize + (sizeofNetInfoSize
      + byteSize netInfo + (sizeofRpcMetaSize + byteSize rpcMeta + body.length)) := by
  simp only [buildBinaryFromMessage, List.length_append, le_length, byteSize]; omega

theorem buildBinaryFromMessageNet_length (netInfo : NetInfo) :
    (buildBinaryFromMessageNet netInfo).length
      = sizeofPacketSize + (sizeofNetInfoSize + byteSize netInfo) := by
  simp only [buildBinaryFromMessageNet, List.length_append, le_length, byteSize]

/-- **The frame is well formed and decodes to its message**, anywhere in a stream. -/
theorem EndpointFrame.exists_frame (f : EndpointFrame) :
    ∃ frame : Frame, f.bytes = frame.bytes ∧ ∀ pre suf, pre.length < 2 ^ 31 →
      getMessageFromBinary (pre ++ f.bytes ++ suf) pre.length default (some (.new 0 .method))
        = .ok (f.message.netInfo, some f.message.packet) := by
  have hmax : netPacketMaxSize + sizeofPacketSize < 2 ^ 16 := by decide
  obtain ⟨message, hne, hfits⟩ := f
  cases message with
  | route routeNetInfo rpcMeta body =>
    obtain ⟨hmeta, hbody⟩ := hne
    have hpos : 0 < byteSize rpcMeta := List.length_pos_iff.mpr hmeta
    simp only [EndpointMessage.bytes, buildBinaryFromMessage_length] at hfits
    have hsize : sizeofNetInfoSize + byteSize (EndpointMessage.route routeNetInfo rpcMeta body).netInfo
        + (sizeofRpcMetaSize + byteSize rpcMeta + body.length) < 2 ^ 16 := by omega
    obtain ⟨frame, hframe, hnet, hrest⟩ := buildBinaryFromMessage_eq
      (by omega : byteSize (EndpointMessage.route routeNetInfo rpcMeta body).netInfo < 2 ^ 16)
      (by omega : byteSize rpcMeta < 2 ^ 16) (Nat.lt_trans hsize (by decide))
    refine ⟨frame, hframe, fun pre suf hpre => ?_⟩
    have hyields := netYields_of_serialize hnet fun _ => (rfl : (default : NetInfo) = default)
    simp only [EndpointFrame.bytes, EndpointMessage.bytes, hframe]
    rw [getMessageFromBinary_metaBody hyields (show eNetTypeRoute ≤ eNetTypeSpecial by decide) hrest hpos
      (by omega) suf hpre, if_neg hbody]
    rfl
  | heart netBinary =>
    simp only [EndpointMessage.bytes, buildBinaryFromMessageNet_length] at hfits
    obtain ⟨frame, hframe, hnet, _⟩ := buildBinaryFromMessageNet_eq
      (by omega : byteSize (EndpointMessage.heart netBinary).netInfo < 2 ^ 16)
    refine ⟨frame, hframe, fun pre suf hpre => ?_⟩
    have hyields := netYields_of_serialize hnet fun _ => (rfl : (default : NetInfo) = default)
    simp only [EndpointFrame.bytes, EndpointMessage.bytes, hframe]
    exact getMessageFromBinary_net hyields (show eNetTypeSpecial < eNetTypeHeart by decide) suf hpre _

theorem EndpointFrame.size (f : EndpointFrame) :
    sizeofPacketSize < f.bytes.length ∧ f.bytes.length < netPacketMaxSize + sizeofPacketSize := by
  refine ⟨?_, f.fits⟩
  obtain ⟨frame, hframe, _⟩ := f.exists_frame
  rw [hframe, frame.bytes_length, Frame.size]
  simp only [sizeofPacketSize, sizeofNetInfoSize]
  omega

theorem EndpointFrame.readNumber_complete (f : EndpointFrame) (pre post : Bytes) :
    readNumber sizeofPacketSize (pre ++ f.bytes ++ post) pre.length
      = .ok (f.bytes.length - sizeofPacketSize) := by
  obtain ⟨frame, hframe, _⟩ := f.exists_frame
  rw [hframe, frame.readNumber_size, frame.bytes_length, Nat.add_sub_cancel]

theorem EndpointFrame.readNumber_incomplete (f : EndpointFrame) {pre t : Bytes} (ht : t <+: f.bytes)
    (hlen : sizeofPacketSize < t.length) :
    readNumber sizeofPacketSize (pre ++ t) pre.length = .ok (f.bytes.length - sizeofPacketSize) := by
  obtain ⟨frame, hframe, _⟩ := f.exists_frame
  rw [hframe] at ht ⊢
  rw [frame.readNumber_size_of_prefix ht (Nat.le_of_lt hlen), frame.bytes_length, Nat.add_sub_cancel]

/-! ## The channel -/

/-- The size checks pass on every frame. -/
theorem getAndCheckPacketSize_eq {binary : Bytes} {offset : Int} (f : EndpointFrame)
    (h : readNumber sizeofPacketSize binary offset = .ok (f.bytes.length - sizeofPacketSize)) :
    getAndCheckPacketSize binary offset = .ok (f.bytes.length - sizeofPacketSize) := by
  have hsize := f.size
  rw [getAndCheckPacketSize, h]
  rw [ok_bind, if_neg (by omega), if_neg (by omega)]
  rfl

theorem RpcChannelRoute.dispatch_eq (c : RpcChannelRoute) (m : EndpointMessage) :
    c.dispatch m.netInfo m.packet
      = .ok { c with packetQueue := c.packetQueue ++ m.channelPackets } := by
  cases m with
  | route routeNetInfo rpcMeta body => rfl
  | heart netBinary =>
    simp only [RpcChannelRoute.dispatch, EndpointMessage.netInfo, EndpointMessage.channelPackets,
      List.append_nil]
    rw [if_neg (by decide), if_pos trivial]

theorem channel_handles :
    HandlesFrames (fun binary _ readSize => sizeSub binary.length readSize)
      (fun binary c offset readSize => RpcChannelRoute.receiveOne c binary offset readSize)
      EndpointFrame.bytes (fun f => f.message.channelPackets) (fun _ => True)
      (fun c packets => { c with packetQueue := c.packetQueue ++ packets }) where
  push_inv _ _ _ := trivial
  size f := f.size
  left_eq binary n hn := sizeSub_of_le hn
  left_wrap binary offset n _ _ hlen := by rw [sizeSub_of_le (by omega)]; omega
  complete c f pre post _ hpre := by
    obtain ⟨_, _, hdecode⟩ := f.exists_frame
    have hlen : (pre ++ f.bytes ++ post).length = pre.length + f.bytes.length + post.length := by
      simp only [List.length_append]
    have hsize := f.size
    rw [RpcChannelRoute.receiveOne, getAndCheckPacketSize_eq f (f.readNumber_complete pre post)]
    rw [ok_bind, sizeSub_of_le (by omega), if_neg (by omega), hdecode pre post hpre]
    simp only [ok_bind, Option.getD_some, RpcChannelRoute.dispatch_eq]
    rfl
  incomplete c f pre t ht hlt hword := by
    rw [RpcChannelRoute.receiveOne, getAndCheckPacketSize_eq f (f.readNumber_incomplete ht hword)]
    rw [ok_bind, sizeSub_of_le (by simp), List.length_append, if_pos (by omega)]
    rfl
  negative binary c offset n hneg := by
    rw [RpcChannelRoute.receiveOne, getAndCheckPacketSize, readNumber_neg hneg]
    rfl

/-! ## The server -/

theorem RpcServerRoute.dispatch_eq (s : RpcServerRoute) (routeId : RouteID) (f : EndpointFrame) :
    s.dispatch routeId f.message.netInfo f.message.packet
      = .ok { s with packetQueue := s.packetQueue ++ f.message.serverPackets s.routeLength routeId } := by
  obtain ⟨message, hne, hfits⟩ := f
  cases message with
  | route routeNetInfo rpcMeta body =>
    have hbinary : (serialize routeNetInfo).length
        ≤ (serialize (⟨eNetTypeRoute, serialize routeNetInfo⟩ : NetInfo)).length :=
      Protobuf.netBinary_length_le ⟨eNetTypeRoute, serialize routeNetInfo⟩
    have hmax : netPacketMaxSize + sizeofPacketSize < 2 ^ 31 := by decide
    simp only [EndpointMessage.bytes, EndpointMessage.netInfo, buildBinaryFromMessage_length,
      byteSize] at hfits
    have hparse : parse (serialize routeNetInfo) = some routeNetInfo :=
      PbMessage.parse_serialize _ (by omega)
    simp only [RpcServerRoute.dispatch, EndpointMessage.netInfo, RpcServerRoute.receiveRoutePacket, hparse]
    rfl
  | heart netBinary =>
    simp only [RpcServerRoute.dispatch, EndpointMessage.netInfo, EndpointMessage.serverPackets,
      List.append_nil]
    rw [if_neg (by decide), if_neg (by decide), if_neg (by decide), if_pos trivial]

theorem server_handles (routeLength : Nat) (routeId : RouteID) :
    HandlesFrames (fun binary offset _ => sizeSub binary.length offset)
      (fun binary s offset readSize => RpcServerRoute.receiveOne s routeId binary offset readSize)
      EndpointFrame.bytes (fun f => f.message.serverPackets routeLength routeId)
      (fun s => s.routeLength = routeLength)
      (fun s packets => { s with packetQueue := s.packetQueue ++ packets }) where
  push_inv _ _ hs := hs
  size f := f.size
  left_eq binary n hn := sizeSub_of_le hn
  left_wrap binary offset n hneg _ hlen := by
    have hleft : binary.length < sizeSub binary.length offset := lt_sizeSub_of_neg hneg
    omega
  complete s f pre post hs hpre := by
    obtain ⟨_, _, hdecode⟩ := f.exists_frame
    have hlen : (pre ++ f.bytes ++ post).length = pre.length + f.bytes.length + post.length := by
      simp only [List.length_append]
    have hsize := f.size
    rw [RpcServerRoute.receiveOne, f.readNumber_complete pre post]
    rw [ok_bind, sizeSub_of_le (by omega), if_neg (by omega), if_neg (by omega), if_neg (by omega),
      hdecode pre post hpre]
    simp only [ok_bind, Option.getD_some, RpcServerRoute.dispatch_eq, hs]
    rfl
  incomplete s f pre t ht hlt hword := by
    rw [RpcServerRoute.receiveOne, f.readNumber_incomplete ht hword]
    rw [ok_bind, sizeSub_of_le (by simp), List.length_append, if_pos (by omega)]
    rfl
  negative binary s offset n hneg := by
    rw [RpcServerRoute.receiveOne, readNumber_neg hneg]
    rfl

/-! ## Exactly once, in order -/

/-- The network layer's view of the channel. -/
def RpcChannelRoute.recv (c : RpcChannelRoute) (unread : Bytes) :
    Option (RpcChannelRoute × List RpcPacket × Nat) :=
  (c.onReceive unread).toFeed RpcChannelRoute.packetQueue c

/-- The network layer's view of the server's connection to gateway `routeId`. -/
def RpcServerRoute.recv (routeId : RouteID) (s : RpcServerRoute) (unread : Bytes) :
    Option (RpcServerRoute × List RpcPacket × Nat) :=
  (s.onReceive routeId unread).toFeed RpcServerRoute.packetQueue s

theorem channel_trims :
    Trims EndpointFrame.bytes (fun f => f.message.channelPackets) (fun _ _ => True)
      (fun gs _ => (stream EndpointFrame.bytes gs).length < 2 ^ 31) RpcChannelRoute.recv :=
  trims_receiveLoop channel_handles (fun _ _ => rfl) (fun _ _ _ => by simp) (fun _ => by simp)

theorem server_trims (routeLength : Nat) (routeId : RouteID) :
    Trims EndpointFrame.bytes (fun f => f.message.serverPackets routeLength routeId)
      (fun _ s => s.routeLength = routeLength)
      (fun gs _ => (stream EndpointFrame.bytes gs).length < 2 ^ 31) (RpcServerRoute.recv routeId) :=
  trims_receiveLoop (server_handles routeLength routeId) (fun _ _ => rfl) (fun _ _ _ => by simp)
    (fun _ => by simp)

theorem RpcServerRoute.dispatch_queue {s s' : RpcServerRoute} {routeId : RouteID} {netInfo : NetInfo}
    {packet : RpcPacket} (h : s.dispatch routeId netInfo packet = .ok s') :
    s.packetQueue <+: s'.packetQueue := by
  unfold RpcServerRoute.dispatch at h
  split at h
  · obtain ⟨_, _, h⟩ := bind_eq_ok.mp h
    obtain ⟨_, _, h⟩ := bind_eq_ok.mp h
    cases h; exact List.prefix_append _ _
  · split at h
    · obtain ⟨_, _, h⟩ := bind_eq_ok.mp h
      cases h
    · split at h
      · obtain ⟨_, _, h⟩ := bind_eq_ok.mp h
        split at h
        · obtain ⟨_, _, h⟩ := bind_eq_ok.mp h
          cases h; exact List.prefix_append _ _
        · cases h; exact List.prefix_rfl
      · split at h
        · cases h; exact List.prefix_rfl
        · cases h

/-- Handling one frame only ever appends to the queue. -/
theorem RpcChannelRoute.receiveOne_queue (binary : Bytes) (c : RpcChannelRoute) (offset : Int) (n : Nat)
    (c' : RpcChannelRoute) (size : Nat) (h : c.receiveOne binary offset n = .ok (some (c', size))) :
    c.packetQueue <+: c'.packetQueue := by
  obtain ⟨size', _, h⟩ := bind_eq_ok.mp h
  split at h
  · cases h
  · obtain ⟨⟨netInfo, packet⟩, _, h⟩ := bind_eq_ok.mp h
    obtain ⟨c₁, hdispatch, h⟩ := bind_eq_ok.mp h
    cases h
    unfold RpcChannelRoute.dispatch at hdispatch
    split at hdispatch
    · cases hdispatch; exact List.prefix_append _ _
    · split at hdispatch
      · cases hdispatch; exact List.prefix_rfl
      · split at hdispatch
        · cases hdispatch; exact List.prefix_rfl
        · cases hdispatch

theorem RpcServerRoute.receiveOne_queue (routeId : RouteID) (binary : Bytes) (s : RpcServerRoute)
    (offset : Int) (n : Nat) (s' : RpcServerRoute) (size : Nat)
    (h : s.receiveOne routeId binary offset n = .ok (some (s', size))) :
    s.packetQueue <+: s'.packetQueue := by
  obtain ⟨size', _, h⟩ := bind_eq_ok.mp h
  split at h
  · cases h
  · split at h
    · cases h
    · split at h
      · cases h
      · obtain ⟨⟨netInfo, packet⟩, _, h⟩ := bind_eq_ok.mp h
        obtain ⟨s₁, hdispatch, h⟩ := bind_eq_ok.mp h
        cases h
        exact RpcServerRoute.dispatch_queue hdispatch

theorem EndpointFrame.bytes_ne_nil (f : EndpointFrame) : f.bytes ≠ [] := by
  intro hnil
  have hsize := f.size.1
  rw [hnil] at hsize
  exact absurd hsize (by decide)

/-- No call completes `2 ^ 31` bytes of frames or more. -/
def CallsBelowInt32 (frames : List EndpointFrame) (chunks : List Bytes) : Prop :=
  AllTrimmed EndpointFrame.bytes (fun gs _ => (stream EndpointFrame.bytes gs).length < 2 ^ 31) frames []
    chunks

/-- **Both endpoints take exactly the frames out of the stream.** Whenever the chunks delivered so far are
    the frames `gs` and an incomplete piece `t` of the next one, every call has returned `true`, the
    packets of `gs` have been pushed once and in order, and `t` is what is left unread. -/
theorem endpoints_split {gs rest : List EndpointFrame} {t : Bytes} {chunks : List Bytes}
    (hchunks : chunks.flatten = stream EndpointFrame.bytes gs ++ t)
    (ht : Incomplete EndpointFrame.bytes rest t) (hcalls : CallsBelowInt32 (gs ++ rest) chunks) :
    (∀ c : RpcChannelRoute, ∃ c',
      feed RpcChannelRoute.recv c [] chunks = some (c', gs.flatMap (·.message.channelPackets), t) ∧
      c'.packetQueue = c.packetQueue ++ gs.flatMap (·.message.channelPackets)) ∧
    (∀ (s : RpcServerRoute) (routeId : RouteID), ∃ s',
      feed (RpcServerRoute.recv routeId) s [] chunks
        = some (s', gs.flatMap (·.message.serverPackets s.routeLength routeId), t) ∧
      s'.packetQueue = s.packetQueue ++ gs.flatMap (·.message.serverPackets s.routeLength routeId)) := by
  constructor
  · intro c
    obtain ⟨c', hfeed⟩ := feed_delivers channel_trims (s := c) trivial EndpointFrame.bytes_ne_nil hchunks ht
      hcalls
    refine ⟨c', hfeed, feed_queue (fun s b _ _ _ hcall => toFeed_queue ?_ hcall) hfeed⟩
    exact receiveLoop_queue (RpcChannelRoute.receiveOne_queue b) _ _ _ _
  · intro s routeId
    obtain ⟨s', hfeed⟩ := feed_delivers (server_trims s.routeLength routeId) (s := s) rfl
      EndpointFrame.bytes_ne_nil hchunks ht hcalls
    refine ⟨s', hfeed, feed_queue (fun s b _ _ _ hcall => toFeed_queue ?_ hcall) hfeed⟩
    exact receiveLoop_queue (RpcServerRoute.receiveOne_queue routeId b) _ _ _ _

/-- Past `2 ^ 31` bytes in one call, neither endpoint gets to the end of the buffer. -/
theorem endpoints_overflow (gs : List EndpointFrame) (f g : EndpointFrame) (post : Bytes)
    (hbelow : (stream EndpointFrame.bytes gs).length < 2 ^ 31)
    (habove : 2 ^ 31 ≤ (stream EndpointFrame.bytes gs).length + f.bytes.length) {buffer : Bytes}
    (hbuf : buffer = stream EndpointFrame.bytes gs ++ f.bytes ++ (g.bytes ++ post)) :
    (∀ c : RpcChannelRoute, feed RpcChannelRoute.recv c [] [buffer] = none) ∧
    (∀ (s : RpcServerRoute) (routeId : RouteID),
      feed (RpcServerRoute.recv routeId) s [] [buffer] = none) := by
  constructor
  · intro c
    have hover := receiveLoop_overflow channel_handles (fun _ _ _ => by simp) (fun _ => by simp)
      (s := c) trivial gs f g post hbelow habove hbuf
    apply feed_cons_none
    rw [List.nil_append, RpcChannelRoute.recv, Reception.toFeed, RpcChannelRoute.onReceive, hover]
  · intro s routeId
    have hover := receiveLoop_overflow (server_handles s.routeLength routeId) (fun _ _ _ => by simp)
      (fun _ => by simp) (s := s) rfl gs f g post hbelow habove hbuf
    apply feed_cons_none
    rw [List.nil_append, RpcServerRoute.recv, Reception.toFeed, RpcServerRoute.onReceive, hover]

end

/-- A heart frame takes nine bytes. -/
def heartFrame : EndpointFrame := ⟨.heart [], trivial, by decide⟩

/-- A small route frame. -/
def routeFrame : EndpointFrame :=
  ⟨.route ⟨false, "", [5], 0⟩ ⟨"S", 2, some ⟨7⟩, none, 0⟩ [10, 11], ⟨by decide, by decide⟩, by decide⟩

/-- A route and a heart frame in three chunks: up to the third byte of the size word, up to the fifth byte
    of the heart frame, and the rest. -/
def threeChunks : List Bytes :=
  [routeFrame.bytes.take 3, routeFrame.bytes.drop 3 ++ heartFrame.bytes.take 5, heartFrame.bytes.drop 5]

theorem endpoints_split_threeChunks :
    ∃ c', feed RpcChannelRoute.recv ⟨[], []⟩ [] threeChunks
        = some (c', [⟨0, .method, ⟨"S", 2, some ⟨7⟩, none, 0⟩, some [10, 11]⟩], []) ∧
      c'.packetQueue = [⟨0, .method, ⟨"S", 2, some ⟨7⟩, none, 0⟩, some [10, 11]⟩] :=
  (endpoints_split
    (show threeChunks.flatten = stream EndpointFrame.bytes [routeFrame, heartFrame] ++ [] by decide)
    (show Incomplete EndpointFrame.bytes [] [] from rfl)
    (show CallsBelowInt32 [routeFrame, heartFrame] threeChunks from
      ⟨by decide, by decide, by decide, trivial⟩)).1 ⟨[], []⟩

/-- Over two gibibytes of heart frames in one call. -/
theorem endpoints_two_gib :
    (∀ c : RpcChannelRoute, feed RpcChannelRoute.recv c []
      [stream EndpointFrame.bytes (List.replicate (238609294 + 2) heartFrame)] = none) ∧
    (∀ (s : RpcServerRoute) (routeId : RouteID), feed (RpcServerRoute.recv routeId) s []
      [stream EndpointFrame.bytes (List.replicate (238609294 + 2) heartFrame)] = none) := by
  have hlen : (stream EndpointFrame.bytes (List.replicate 238609294 heartFrame)).length
      = 238609294 * 9 := by
    rw [stream_replicate_length]; rfl
  -- the first 238609294 end below the limit, the next one behind it
  refine endpoints_overflow (List.replicate 238609294 heartFrame) heartFrame heartFrame [] ?_ ?_ ?_
  · rw [hlen]; decide
  · rw [hlen]; decide
  · rw [List.replicate_add, stream_append, List.append_assoc]; rfl

end Frrpc
