import Frrpc.Public.Correctness.RoundTrip
import Frrpc.Route.Correctness.Frame
import Frrpc.Rpc.NetChannel

/-!
# `Route.Correctness.Transparent` — a channel's request through the gateway

A channel's frame is a `Frame` as long as its encodings fit their size fields, and the gateway's rewrite is
a change of its net part (`buildSendPacket_frame`). So what a channel sends arrives at the server with the
source socket stamped in and everything else as it was (`gateway_transparent`). The receivers check only
the declared size, which says nothing about a frame whose encodings were too long for their size fields
(`gateway_not_transparent`).
-/

namespace Frrpc

open Lib

section

variable [Protobuf]

/-- The route info a channel sends with a meta. -/
def channelRouteInfo (rpcMeta : RpcMeta) : RouteNetInfo := ⟨true, rpcMeta.serviceName, [], socketNull⟩

/-- The net info after the gateway has stamped the source socket. -/
def stampedNetInfo (rpcMeta : RpcMeta) (socket : Socket) : NetInfo :=
  ⟨eNetTypeRoute, serialize { channelRouteInfo rpcMeta with sourceSocket := socket }⟩

/-- The bytes behind the size word, with this net info. -/
def frameSize (netInfo : NetInfo) (rpcMeta : RpcMeta) (body : Bytes) : Nat :=
  sizeofNetInfoSize + byteSize netInfo + (sizeofRpcMetaSize + byteSize rpcMeta + body.length)

/-- A frame decodes at the start of a packet as it does inside a stream. -/
theorem getMessageFromBinary_packet {f : Frame} {netInfo : NetInfo} (hnet : f.net = serialize netInfo)
    (htype : netInfo.netType ≤ eNetTypeSpecial) {rpcMeta : RpcMeta} {body : Bytes}
    (hrest : f.rest = metaBody rpcMeta body) (hpos : 0 < byteSize rpcMeta)
    (hmeta : byteSize rpcMeta < 2 ^ 16) :
    getMessageFromBinary f.bytes 0 default (some (.new 0 .method))
      = .ok (netInfo, some ⟨0, .method, rpcMeta, if body = [] then none else some body⟩) := by
  have hyields := netYields_of_serialize hnet fun _ => (rfl : (default : NetInfo) = default)
  have hstart : ([] : Bytes).length < 2 ^ 31 := by decide
  have hdecode := getMessageFromBinary_metaBody hyields htype hrest hpos hmeta [] hstart (.new 0 .method)
  simp only [List.nil_append, List.append_nil] at hdecode
  exact hdecode

omit [Protobuf] in
theorem Frame.readNumber_size_packet (f : Frame) : readNumber sizeofPacketSize f.bytes 0 = .ok f.size := by
  have hread := f.readNumber_size [] []
  simp only [List.nil_append, List.append_nil] at hread
  exact hread

/-- The stamped route info is read back by whoever parses the net binary. -/
theorem parse_netBinary {netInfo : NetInfo} {routeNetInfo : RouteNetInfo}
    (hbinary : netInfo.netBinary = serialize routeNetInfo) (hlt : byteSize netInfo < 2 ^ 16) :
    parse netInfo.netBinary = some routeNetInfo := by
  have hle : netInfo.netBinary.length ≤ byteSize netInfo := Protobuf.netBinary_length_le netInfo
  rw [hbinary] at hle ⊢
  exact PbMessage.parse_serialize _ (Nat.lt_of_le_of_lt hle (Nat.lt_trans hlt (by decide)))

/-- What `RouteProcess` does with a channel's frame, in terms of the packet it builds. -/
theorem routeProcess_channel [FrNet] {r r' : RpcRoute} {socket target : Socket} {binary packet : Bytes}
    {offset : Int} {rpcMeta : RpcMeta}
    (hlt : byteSize (RpcChannelRoute.sendNetInfo rpcMeta) < 2 ^ 16)
    (hbuild : RpcRoute.buildSendPacket binary offset (stampedNetInfo rpcMeta socket) = .ok packet)
    (htarget : r.getServerSocket socket rpcMeta.serviceName = some (target, r')) :
    r.routeProcess socket binary offset (RpcChannelRoute.sendNetInfo rpcMeta)
      = some (r'.sendAll [target] (some packet), true) := by
  have hparse : parse (RpcChannelRoute.sendNetInfo rpcMeta).netBinary
      = some (channelRouteInfo rpcMeta) := parse_netBinary rfl hlt
  have hpacket : RpcRoute.channelPacket binary offset (RpcChannelRoute.sendNetInfo rpcMeta)
      (channelRouteInfo rpcMeta) socket = .ok packet := hbuild
  simp only [RpcRoute.routeProcess, hparse]
  rw [if_pos (show (channelRouteInfo rpcMeta).isChannelPacket = true from rfl), hpacket]
  simp only [channelRouteInfo, htarget, RpcRoute.packetPtr, Option.bind_eq_bind, Option.bind_some]
  rfl

/-- **The gateway is transparent for channel requests.** Wherever the channel's frame stands within the
    first `2 ^ 31` bytes of the buffer, and as long as the frames before and after stamping are below the
    packet limit, `RouteProcess` sends a packet whose size word counts what follows it, and from which the
    server decodes the channel's meta and body, the service name and the stamped source socket. -/
theorem gateway_transparent [FrNet] (r : RpcRoute) (rpcMeta : RpcMeta) (body pre suf : Bytes)
    (socket : Socket) (hmeta : serialize rpcMeta ≠ [])
    (hsent : frameSize (RpcChannelRoute.sendNetInfo rpcMeta) rpcMeta body < netPacketMaxSize)
    (hstamped : frameSize (stampedNetInfo rpcMeta socket) rpcMeta body < netPacketMaxSize)
    (hpos : pre.length + sizeofPacketSize
      + frameSize (RpcChannelRoute.sendNetInfo rpcMeta) rpcMeta body ≤ 2 ^ 31) :
    ∃ frame packet : Bytes,
      (∀ c : RpcChannelRoute, (c.send rpcMeta body).1.sent = c.sent ++ [frame]) ∧
      RpcRoute.getNetInfo (pre ++ frame ++ suf) pre.length
        = .ok (RpcChannelRoute.sendNetInfo rpcMeta) ∧
      (∀ target r', r.getServerSocket socket rpcMeta.serviceName = some (target, r') →
        r.routeProcess socket (pre ++ frame ++ suf) pre.length (RpcChannelRoute.sendNetInfo rpcMeta)
          = some (r'.sendAll [target] (some packet), true)) ∧
      (∃ netInfo, ∃ routeNetInfo : RouteNetInfo, getMessageFromBinary packet 0 default (some (.new 0 .method))
          = .ok (netInfo, some ⟨0, .method, rpcMeta, if body = [] then none else some body⟩) ∧
        parse netInfo.netBinary = some routeNetInfo ∧
        routeNetInfo.serviceName = rpcMeta.serviceName ∧ routeNetInfo.sourceSocket = socket) ∧
      (∃ size, readNumber sizeofPacketSize packet 0 = .ok size ∧
        packet.length = size + sizeofPacketSize) := by
  have hmax : netPacketMaxSize < 2 ^ 16 := by decide
  have hmetaPos : 0 < byteSize rpcMeta := List.length_pos_iff.mpr hmeta
  unfold frameSize at hsent hstamped hpos
  have hmetaLt : byteSize rpcMeta < 2 ^ 16 := by omega
  have hnetLt : byteSize (RpcChannelRoute.sendNetInfo rpcMeta) < 2 ^ 16 := by omega
  have hstampedLt : byteSize (stampedNetInfo rpcMeta socket) < 2 ^ 16 := by omega
  obtain ⟨f, hframe, hnet, hrest⟩ := buildBinaryFromMessage_eq hnetLt hmetaLt
    (Nat.lt_trans hsent (Nat.lt_trans hmax (by decide)))
  have hnetLen : f.net.length = byteSize (RpcChannelRoute.sendNetInfo rpcMeta) := by rw [hnet]; rfl
  have hsize : sizeofNetInfoSize + byteSize (stampedNetInfo rpcMeta socket) + f.rest.length < 2 ^ 32 := by
    rw [hrest, metaBody_length]; omega
  have hne : f.net ≠ [] := by
    intro hnil
    -- the default net info is not a route one
    have hdefault := eq_default_of_serialize_nil (hnet ▸ hnil)
    exact absurd (congrArg NetInfo.netType hdefault)
      (show eNetTypeRoute ≠ (default : NetInfo).netType by decide)
  have hparse : parse f.net = some (RpcChannelRoute.sendNetInfo rpcMeta) := by
    rw [hnet]
    exact PbMessage.parse_serialize _ (Nat.lt_trans hnetLt (by decide))
  let stamped : Frame := ⟨serialize (stampedNetInfo rpcMeta socket), f.rest, hstampedLt, hsize⟩
  have hbuild : RpcRoute.buildSendPacket (pre ++ f.bytes ++ suf) pre.length (stampedNetInfo rpcMeta socket)
      = .ok stamped.bytes := buildSendPacket_frame f pre suf (by rw [hnetLen]; omega) hstampedLt hsize
  refine ⟨f.bytes, stamped.bytes, fun c => ?_, getNetInfo_frame f pre suf (by omega) hne hparse,
    fun target r' htarget => routeProcess_channel hnetLt hbuild htarget,
    ⟨stampedNetInfo rpcMeta socket, { channelRouteInfo rpcMeta with sourceSocket := socket }, ?_,
      parse_netBinary rfl hstampedLt, rfl, rfl⟩,
    ⟨stamped.size, stamped.readNumber_size_packet, stamped.bytes_length⟩⟩
  · rw [← hframe]
    rfl
  · have hnet : stamped.net = serialize (stampedNetInfo rpcMeta socket) := rfl
    have htype : (stampedNetInfo rpcMeta socket).netType ≤ eNetTypeSpecial :=
      show eNetTypeRoute ≤ eNetTypeSpecial by decide
    exact getMessageFromBinary_packet hnet htype hrest hmetaPos hmetaLt

end

/-- A short request. -/
def shortMeta : RpcMeta := ⟨"S", 0, some ⟨1⟩, none, 0⟩

section

attribute [local instance] networkUp

/-- A request for the only server of its service, between other bytes. -/
theorem gateway_transparent_shortMeta :
    ∃ frame packet : Bytes, ∃ r' : RpcRoute,
      (RpcRoute.started.addService 3 "S" "addr").1.routeProcess 5 ([7] ++ frame ++ [0, 0]) 1
        (RpcChannelRoute.sendNetInfo shortMeta) = some (r'.sendAll [3] (some packet), true) ∧
      ∃ netInfo, getMessageFromBinary packet 0 default (some (.new 0 .method))
        = .ok (netInfo, some ⟨0, .method, shortMeta, some [10, 11]⟩) := by
  obtain ⟨frame, packet, -, -, hroute, ⟨netInfo, _, hdecode, -⟩, -⟩ := gateway_transparent
    (RpcRoute.started.addService 3 "S" "addr").1 shortMeta [10, 11] [7] [0, 0] 5 (by decide) (by decide)
    (by decide) (by decide)
  have htarget : ∃ r', (RpcRoute.started.addService 3 "S" "addr").1.getServerSocket 5 "S" = some (3, r') := by
    have hzero : int32 0 = 0 := by decide
    simp [hzero, RpcRoute.getServerSocket, RpcRoute.binding, RpcRoute.addService, RpcRoute.started,
      RpcRoute.findServiceSocket, RouteServiceInfos.addService, RouteServiceInfos.new,
      RouteServiceInfos.getServiceSocket, RouteServiceInfos.nextSendIndex]
  obtain ⟨r', htarget⟩ := htarget
  exact ⟨frame, packet, r', hroute 3 r' htarget, netInfo, hdecode⟩

end

section

variable [Protobuf]

/-! ## Encodings that do not fit -/

/-- A meta whose size is lost in its size field: the frame declares none. -/
theorem buildBinaryFromMessage_lostMeta {netInfo : NetInfo} {rpcMeta : RpcMeta}
    (hnet : byteSize netInfo < 2 ^ 16) (hmeta : uint16 (byteSize rpcMeta) = 0) :
    ∃ f : Frame, buildBinaryFromMessage netInfo rpcMeta [] = f.bytes ++ serialize rpcMeta ∧
      f.net = serialize netInfo ∧ f.rest = le sizeofRpcMetaSize 0 := by
  have hsize : sizeofNetInfoSize + (serialize netInfo).length + (le sizeofRpcMetaSize 0).length < 2 ^ 32 := by
    simp only [byteSize, sizeofNetInfoSize, le_length, sizeofRpcMetaSize] at *; omega
  refine ⟨⟨serialize netInfo, le sizeofRpcMetaSize 0, hnet, hsize⟩, ?_, rfl, rfl⟩
  have hword : uint32 (sizeofNetInfoSize + byteSize netInfo + sizeofRpcMetaSize + (0 : Nat)
      + ([] : Bytes).length) = sizeofNetInfoSize + byteSize netInfo + sizeofRpcMetaSize := by
    rw [le_length] at hsize
    exact uint32_of_lt hsize
  simp only [buildBinaryFromMessage, uint16_of_lt hnet, hmeta, hword, Frame.bytes, Frame.size, le_length,
    List.append_nil, List.append_assoc]
  rfl

/-- The server refuses a frame that declares no meta. -/
theorem getMessageFromBinary_lostMeta {f : Frame} {netInfo : NetInfo} (hnet : f.net = serialize netInfo)
    (htype : netInfo.netType ≤ eNetTypeSpecial) (hrest : f.rest = le sizeofRpcMetaSize 0)
    (packet : RpcPacket) : getMessageFromBinary f.bytes 0 default (some packet) = .error .refused := by
  have hyields := netYields_of_serialize hnet fun _ => (rfl : (default : NetInfo) = default)
  obtain ⟨pre, hsplit, hlen⟩ := f.split_rest [] []
  simp only [List.nil_append, List.append_nil, List.length_nil, Nat.zero_add] at hsplit hlen
  have hmetaSize : readNumber sizeofRpcMetaSize f.bytes
      (sizeofPacketSize + sizeofNetInfoSize + f.net.length : Nat) = .ok 0 := by
    refine readNumber_append pre [] ?_ (by rw [hlen]) (by decide)
    rw [hsplit, hrest, List.append_nil]
  have hheader := getMessageFromBinary_header hyields [] (show ([] : Bytes).length < 2 ^ 31 by decide)
    (some packet)
  simp only [List.nil_append, List.append_nil, List.length_nil, Nat.zero_add] at hheader
  rw [← Int.natCast_zero, hheader, if_pos htype, orRefuse, ok_bind, getMetaAndBinary, hmetaSize, ok_bind,
    if_neg (by decide)]
  rfl

end

theorem size_utf8Encode_replicate (k : Nat) : (List.replicate k 'a').utf8Encode.size = k := by
  induction k with
  | zero => rfl
  | succ k ih =>
    rw [List.replicate_succ, List.utf8Encode_cons, ByteArray.size_append, ih, Nat.add_comm]
    rfl

/-- A meta with an error text of this length. -/
def errorMeta (n : Nat) : RpcMeta :=
  ⟨"S", 0, some ⟨1⟩, some ⟨String.ofList (List.replicate n 'a'), false⟩, 0⟩

theorem byteSize_errorMeta {n : Nat} (hn : 0 < n) :
    byteSize (errorMeta n) = 7 + (1 + ((encodeVarint (1 + ((encodeVarint n).length + n))).length
      + (1 + ((encodeVarint n).length + n)))) := by
  generalize hbs : utf8 (String.ofList (List.replicate n 'a')) = bs
  have hlen : bs.length = n := by
    rw [← hbs, utf8, Array.length_toList]
    exact size_utf8Encode_replicate n
  have hne : bs ≠ [] := List.length_pos_iff.mp (hlen ▸ hn)
  have hresponse : encodeFields (RpcResponseMeta.fields ⟨String.ofList (List.replicate n 'a'), false⟩)
      = encodeFields [⟨1, .bytes bs⟩] := by
    rw [RpcResponseMeta.fields, hbs, bytesField, if_neg hne]
    rfl
  have hfields : (errorMeta n).fields
      = [⟨1, .bytes (utf8 "S")⟩, ⟨3, .bytes [8, 1]⟩] ++ [⟨4, .bytes (encodeFields [⟨1, .bytes bs⟩])⟩] := by
    rw [← hresponse]
    rfl
  calc byteSize (errorMeta n) = (encodeFields (errorMeta n).fields).length := rfl
    _ = 7 + (encodeFields [⟨4, .bytes (encodeFields [⟨1, .bytes bs⟩])⟩]).length := by
      rw [hfields, encodeFields_append, List.length_append]
      rfl
    _ = _ := by
      rw [encodeFields_bytes_length, encodeFields_bytes_length, hlen]
      rfl

/-- A meta of `2 ^ 16` bytes. -/
def longMeta : RpcMeta := errorMeta 65521

theorem uint16_byteSize_longMeta : uint16 (byteSize longMeta) = 0 := by
  rw [longMeta, byteSize_errorMeta (by decide)]
  rfl

theorem buildSendPacket_shortMeta_wrap {pre : Bytes} (hpre : pre.length < 2 ^ 31)
    (hwrap : 2 ^ 31 ≤ pre.length + sizeofPacketSize + sizeofNetInfoSize) :
    RpcRoute.buildSendPacket
      (pre ++ buildBinaryFromMessage (RpcChannelRoute.sendNetInfo shortMeta) shortMeta [] ++ [])
      pre.length (stampedNetInfo shortMeta 1) = .error .undefined := by
  have hnet : byteSize (RpcChannelRoute.sendNetInfo shortMeta) < 2 ^ 16 := by decide
  have hmeta : byteSize shortMeta < 2 ^ 16 := by decide
  have hsize : sizeofNetInfoSize + byteSize (RpcChannelRoute.sendNetInfo shortMeta)
      + (sizeofRpcMetaSize + byteSize shortMeta + ([] : Bytes).length) < 2 ^ 32 := by decide
  obtain ⟨f, hframe, _, _⟩ := buildBinaryFromMessage_eq hnet hmeta hsize
  rw [hframe]
  exact buildSendPacket_wrap f pre [] hpre (by omega) (by decide)

theorem exists_bytes_length (n : Nat) : ∃ bs : Bytes, bs.length = n :=
  ⟨List.replicate n 0, List.length_replicate⟩

/-- The frame with the long meta declares thirteen bytes, and the forwarded one fifteen, which the server
    refuses. -/
theorem longMeta_refused :
    ∃ forwarded : Bytes,
      RpcRoute.buildSendPacket (buildBinaryFromMessage (RpcChannelRoute.sendNetInfo longMeta) longMeta [])
        0 (stampedNetInfo longMeta 1) = .ok forwarded ∧
      (∃ size < netPacketMaxSize, readNumber sizeofPacketSize
        (buildBinaryFromMessage (RpcChannelRoute.sendNetInfo longMeta) longMeta []) 0 = .ok size) ∧
      (∃ size < netPacketMaxSize, readNumber sizeofPacketSize forwarded 0 = .ok size) ∧
      getMessageFromBinary forwarded 0 default (some (.new 0 .method)) = .error .refused := by
  have hnetLt : byteSize (RpcChannelRoute.sendNetInfo longMeta) < 2 ^ 16 := by decide
  have hstampedLt : byteSize (stampedNetInfo longMeta 1) < 2 ^ 16 := by decide
  have htype : (stampedNetInfo longMeta 1).netType ≤ eNetTypeSpecial :=
    show eNetTypeRoute ≤ eNetTypeSpecial by decide
  obtain ⟨f, hframe, hnet, hrest⟩ := buildBinaryFromMessage_lostMeta hnetLt uint16_byteSize_longMeta
  have hnetLen : f.net.length = 9 := by
    rw [hnet]
    rfl
  have hrestLen : f.rest.length = 2 := by
    rw [hrest, le_length]
    rfl
  have hsize : sizeofNetInfoSize + byteSize (stampedNetInfo longMeta 1) + f.rest.length < 2 ^ 32 := by
    rw [hrestLen]
    decide
  let stamped : Frame := ⟨serialize (stampedNetInfo longMeta 1), f.rest, hstampedLt, hsize⟩
  have hbuild := buildSendPacket_frame f [] (serialize longMeta) (by rw [hnetLen]; decide) hstampedLt hsize
  have hword := f.readNumber_size [] (serialize longMeta)
  simp only [List.nil_append] at hbuild hword
  rw [hframe]
  refine ⟨stamped.bytes, hbuild, ⟨f.size, ?_, hword⟩, ⟨stamped.size, ?_, stamped.readNumber_size_packet⟩,
    getMessageFromBinary_lostMeta (f := stamped) rfl htype hrest _⟩
  · rw [Frame.size, hnetLen, hrestLen]
    decide
  · show sizeofNetInfoSize + byteSize (stampedNetInfo longMeta 1) + f.rest.length < netPacketMaxSize
    rw [hrestLen]
    decide

/-- A short frame at the end of the first `2 ^ 31` bytes. -/
theorem shortMeta_undefined :
    ∃ pre : Bytes,
      frameSize (RpcChannelRoute.sendNetInfo shortMeta) shortMeta [] < netPacketMaxSize ∧
      frameSize (stampedNetInfo shortMeta 1) shortMeta [] < netPacketMaxSize ∧
      RpcRoute.buildSendPacket
        (pre ++ buildBinaryFromMessage (RpcChannelRoute.sendNetInfo shortMeta) shortMeta [] ++ [])
        pre.length (stampedNetInfo shortMeta 1) = .error .undefined := by
  obtain ⟨pre, hpre⟩ := exists_bytes_length 2147483642
  have hstart : pre.length < 2 ^ 31 := Nat.lt_of_le_of_lt (Nat.le_of_eq hpre) (by decide)
  have hwrap : 2 ^ 31 ≤ pre.length + sizeofPacketSize + sizeofNetInfoSize := by
    rw [hpre]
    decide
  exact ⟨pre, by decide, by decide, buildSendPacket_shortMeta_wrap hstart hwrap⟩

/-- **A declared size below the limit is not enough.** A channel sends a meta of `2 ^ 16` bytes, both frames
    declare a size below the packet limit, and the server refuses the forwarded one. And a frame that
    crosses the first `2 ^ 31` bytes of the buffer is copied from a negative offset. -/
theorem gateway_not_transparent :
    (∃ forwarded : Bytes,
      RpcRoute.buildSendPacket (buildBinaryFromMessage (RpcChannelRoute.sendNetInfo longMeta) longMeta [])
        0 (stampedNetInfo longMeta 1) = .ok forwarded ∧
      (∃ size < netPacketMaxSize, readNumber sizeofPacketSize
        (buildBinaryFromMessage (RpcChannelRoute.sendNetInfo longMeta) longMeta []) 0 = .ok size) ∧
      (∃ size < netPacketMaxSize, readNumber sizeofPacketSize forwarded 0 = .ok size) ∧
      getMessageFromBinary forwarded 0 default (some (.new 0 .method)) = .error .refused) ∧
    (∃ pre : Bytes,
      frameSize (RpcChannelRoute.sendNetInfo shortMeta) shortMeta [] < netPacketMaxSize ∧
      frameSize (stampedNetInfo shortMeta 1) shortMeta [] < netPacketMaxSize ∧
      RpcRoute.buildSendPacket
        (pre ++ buildBinaryFromMessage (RpcChannelRoute.sendNetInfo shortMeta) shortMeta [] ++ [])
        pre.length (stampedNetInfo shortMeta 1) = .error .undefined) :=
  ⟨longMeta_refused, shortMeta_undefined⟩

end Frrpc
