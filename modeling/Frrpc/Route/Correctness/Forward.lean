import Frrpc.Route.Correctness.Effect
import Frrpc.Route.Correctness.Transparent
import Frrpc.Rpc.NetServer

/-!
# `Route.Correctness.Forward` — how stamping changes the size of a frame

`RouteProcess` writes the source socket into a channel's frame and sends it on without looking at its size
again. The source socket is a field of the route info, which is a field of the net info, so the frame grows
by the socket's varint and by what that adds to a length prefix (`byteSize_stamped`). Near the packet limit
the forwarded frame is one the server refuses, which closes the server's connection to the gateway.
-/

namespace Frrpc

open Lib

/-! ## The encodings' sizes -/

/-- The bytes of the source socket in a route info. -/
def sourceFieldSize (sourceSocket : Socket) : Nat :=
  if sourceSocket = 0 then 0 else 1 + varintSize (int32Bits sourceSocket)

/-- The size of a length-prefixed string of `n` bytes. -/
def prefixedSize (n : Nat) : Nat := varintSize n + n

theorem varintField_source_length (sourceSocket : Socket) :
    (encodeFields (varintField 4 (int32Bits sourceSocket))).length = sourceFieldSize sourceSocket := by
  rw [varintField_length, sourceFieldSize]
  by_cases hzero : sourceSocket = 0
  · subst hzero
    rfl
  · rw [if_neg hzero, if_neg (fun h => hzero (int32Bits_eq_zero h))]
    rfl

/-- **Only the source field changes.** -/
theorem byteSize_stamped (routeNetInfo : RouteNetInfo) (socket : Socket) :
    byteSize { routeNetInfo with sourceSocket := socket } + sourceFieldSize routeNetInfo.sourceSocket
      = byteSize routeNetInfo + sourceFieldSize socket := by
  have hsize : ∀ m : RouteNetInfo, byteSize m
      = (encodeFields (varintField 1 m.isChannelPacket.toNat)).length
        + ((encodeFields (bytesField 2 (utf8 m.serviceName))).length
        + ((encodeFields (bytesField 3 (packed m.targetSockets))).length
        + sourceFieldSize m.sourceSocket)) := by
    intro m
    show (encodeFields m.fields).length = _
    rw [RouteNetInfo.fields, encodeFields_append, encodeFields_append, encodeFields_append,
      List.append_nil, List.length_append, List.length_append, List.length_append,
      varintField_source_length]
  rw [hsize, hsize]
  dsimp only
  omega

/-- A channel packet's route info is not empty. -/
theorem byteSize_channel_pos {routeNetInfo : RouteNetInfo} (h : routeNetInfo.isChannelPacket = true) :
    0 < byteSize routeNetInfo := by
  apply Nat.pos_of_ne_zero
  intro hzero
  have hdefault := eq_default_of_serialize_nil (List.length_eq_zero_iff.mp hzero)
  rw [hdefault] at h
  cases h

/-- The net info around a route info of positive size: everything else, and the route info with its length
    prefix. -/
theorem byteSize_netInfo {netInfo : NetInfo} (hpos : 0 < netInfo.netBinary.length) :
    byteSize netInfo
      = (encodeFields (varintField 1 (int32Bits netInfo.netType))).length + 1
        + prefixedSize netInfo.netBinary.length := by
  have hne : netInfo.netBinary ≠ [] := List.length_pos_iff.mp hpos
  show (encodeFields netInfo.fields).length = _
  rw [NetInfo.fields, encodeFields_append, List.length_append, List.append_nil, bytesField_length,
    if_neg hne, prefixedSize]
  have htag : varintSize (8 * 2 + 2) = 1 := rfl
  omega

theorem sourceFieldSize_le (socket : Socket) : sourceFieldSize socket ≤ 11 := by
  unfold sourceFieldSize
  split
  · omega
  · have hvarint : varintSize (int32Bits socket) ≤ 9 + 1 :=
      varintSize_le (Nat.le_refl 9) ((int32Bits_lt socket).trans_le (by decide))
    omega

/-! ## The forwarded frame -/

/-- **The stamped frame fits**: the frame with the source socket's field replaced, and the route info's
    length prefix with it, is below the packet limit. -/
def StampFits (size : Nat) (routeNetInfo : RouteNetInfo) (socket : Socket) : Prop :=
  size + prefixedSize (byteSize routeNetInfo + sourceFieldSize socket
      - sourceFieldSize routeNetInfo.sourceSocket)
    < netPacketMaxSize + prefixedSize (byteSize routeNetInfo)

instance (size : Nat) (routeNetInfo : RouteNetInfo) (socket : Socket) :
    Decidable (StampFits size routeNetInfo socket) := inferInstanceAs (Decidable (_ < _))

/-- Twelve bytes of room are enough for every socket. -/
theorem stampFits_of_room {size : Nat} {routeNetInfo : RouteNetInfo} (hroute : byteSize routeNetInfo ≤ size)
    (hroom : size + 12 < netPacketMaxSize) (socket : Socket) : StampFits size routeNetInfo socket := by
  have hfield := sourceFieldSize_le socket
  have hpos : 0 < varintSize (byteSize routeNetInfo) := encodeVarint_length_pos _
  unfold netPacketMaxSize at hroom
  have hprefix : varintSize (byteSize routeNetInfo + sourceFieldSize socket
      - sourceFieldSize routeNetInfo.sourceSocket) ≤ 1 + 1 := varintSize_le (by decide) (by omega)
  unfold StampFits prefixedSize netPacketMaxSize
  omega

/-- The net info that `RouteProcess` puts into a channel's frame. -/
def stamp [Protobuf] (netInfo : NetInfo) (routeNetInfo : RouteNetInfo) (socket : Socket) : NetInfo :=
  { netInfo with netBinary := serialize { routeNetInfo with sourceSocket := socket } }

theorem channelPacket_eq [Protobuf] (binary : Bytes) (offset : Int) (netInfo : NetInfo)
    (routeNetInfo : RouteNetInfo) (socket : Socket) :
    RpcRoute.channelPacket binary offset netInfo routeNetInfo socket
      = RpcRoute.buildSendPacket binary offset (stamp netInfo routeNetInfo socket) := rfl

section

variable {f : Frame} {netInfo : NetInfo} {routeNetInfo : RouteNetInfo}

/-- How much longer the net info gets. -/
theorem byteSize_stamp (hbinary : netInfo.netBinary = serialize routeNetInfo)
    (hchannel : routeNetInfo.isChannelPacket = true) (socket : Socket) :
    byteSize (stamp netInfo routeNetInfo socket) + prefixedSize (byteSize routeNetInfo)
      = byteSize netInfo + prefixedSize (byteSize routeNetInfo + sourceFieldSize socket
        - sourceFieldSize routeNetInfo.sourceSocket) := by
  have hstamped := byteSize_stamped routeNetInfo socket
  have hold : 0 < netInfo.netBinary.length := by
    rw [hbinary]; exact byteSize_channel_pos hchannel
  have hpacket : ({ routeNetInfo with sourceSocket := socket } : RouteNetInfo).isChannelPacket = true :=
    hchannel
  have hnew : 0 < (stamp netInfo routeNetInfo socket).netBinary.length := byteSize_channel_pos hpacket
  have hlen : netInfo.netBinary.length = byteSize routeNetInfo := by rw [hbinary]; rfl
  have hlen' : (stamp netInfo routeNetInfo socket).netBinary.length
      = byteSize routeNetInfo + sourceFieldSize socket - sourceFieldSize routeNetInfo.sourceSocket := by
    show byteSize { routeNetInfo with sourceSocket := socket } = _
    omega
  have htype : (stamp netInfo routeNetInfo socket).netType = netInfo.netType := rfl
  rw [byteSize_netInfo hold, byteSize_netInfo hnew, hlen, hlen', htype]
  omega

/-- A net info that came in a frame below the limit still fits its size field when it is stamped. -/
theorem byteSize_stamp_lt (hnet : f.net = serialize netInfo)
    (hbinary : netInfo.netBinary = serialize routeNetInfo)
    (hchannel : routeNetInfo.isChannelPacket = true) (hsize : f.size < netPacketMaxSize)
    (socket : Socket) : byteSize (stamp netInfo routeNetInfo socket) < 2 ^ 16 := by
  have hstamp := byteSize_stamp hbinary hchannel socket
  have hfield := sourceFieldSize_le socket
  have hnetLt : byteSize netInfo < 4096 := by
    have hlen : f.net.length = byteSize netInfo := by rw [hnet]; rfl
    unfold Frame.size netPacketMaxSize at hsize
    omega
  have hroute : byteSize routeNetInfo ≤ byteSize netInfo := by
    have hle : netInfo.netBinary.length ≤ byteSize netInfo := NetInfo.netBinary_length_le netInfo
    rw [hbinary] at hle
    exact hle
  have hprefix : varintSize (byteSize routeNetInfo + sourceFieldSize socket
      - sourceFieldSize routeNetInfo.sourceSocket) ≤ 2 + 1 := varintSize_le (by decide) (by omega)
  unfold prefixedSize at hstamp
  omega

/-- The frame that `RouteProcess` makes of a channel's frame. -/
def stampedFrame (f : Frame) (netInfo : NetInfo) (hlt : byteSize netInfo < 2 ^ 16)
    (hsize : f.size < netPacketMaxSize) : Frame :=
  ⟨serialize netInfo, f.rest, hlt, by
    unfold Frame.size netPacketMaxSize at hsize
    unfold byteSize at hlt
    unfold sizeofNetInfoSize at *
    omega⟩

/-- `RouteProcess` on a channel's frame, wherever it stands in the buffer: the copy's offset is in range, or
    the copy is undefined. -/
theorem routeProcess_stamped [FrNet] {r r' : RpcRoute} {socket : Socket} {pre suf : Bytes}
    (hnet : f.net = serialize netInfo) (hbinary : netInfo.netBinary = serialize routeNetInfo)
    (hchannel : routeNetInfo.isChannelPacket = true) (hsize : f.size < netPacketMaxSize)
    (hpre : pre.length < 2 ^ 31) (hlt : byteSize (stamp netInfo routeNetInfo socket) < 2 ^ 16)
    (haccept : r.routeProcess socket (pre ++ f.bytes ++ suf) pre.length netInfo = some (r', true)) :
    ∃ target, r'.netCalls = r.netCalls
      ++ [.send target (some (stampedFrame f (stamp netInfo routeNetInfo socket) hlt hsize).bytes)] := by
  have hnetLt : byteSize netInfo < 2 ^ 16 := by
    show (serialize netInfo).length < 2 ^ 16
    rw [← hnet]
    exact f.net_lt
  have hparse : parse netInfo.netBinary = some routeNetInfo := parse_netBinary hbinary hnetLt
  simp only [RpcRoute.routeProcess, hparse, if_pos hchannel] at haccept
  obtain ⟨⟨target, r₁⟩, htarget, haccept⟩ := Option.bind_eq_some_iff.mp haccept
  obtain ⟨packet, hpacket, haccept⟩ := Option.bind_eq_some_iff.mp haccept
  cases haccept
  refine ⟨target, ?_⟩
  by_cases hstart : pre.length + sizeofPacketSize + sizeofNetInfoSize + f.net.length < 2 ^ 31
  · have hbuild := buildSendPacket_frame f pre suf hstart hlt
      (stampedFrame f (stamp netInfo routeNetInfo socket) hlt hsize).size_lt
    rw [channelPacket_eq, hbuild] at hpacket
    cases hpacket
    rw [RpcRoute.sendAll_eq, RpcRoute.getServerSocket_eq htarget]
    rfl
  · have hbuild := buildSendPacket_wrap f pre suf hpre (by omega) hlt
    rw [channelPacket_eq, hbuild] at hpacket
    cases hpacket

/-- **The server accepts the forwarded frame exactly when the stamped frame fits.** For every channel frame
    below the packet limit that `RouteProcess` takes, anywhere in any buffer, one packet goes out; it is a
    frame, and its declared size is within the server's limits exactly when the source socket's field and
    what it adds to the route info's length prefix leave it there. -/
theorem forwarded_acceptable_iff [FrNet] {r r' : RpcRoute} {socket : Socket} {pre suf : Bytes}
    (hnet : f.net = serialize netInfo) (hbinary : netInfo.netBinary = serialize routeNetInfo)
    (hchannel : routeNetInfo.isChannelPacket = true) (hsize : f.size < netPacketMaxSize)
    (hpre : pre.length < 2 ^ 31)
    (haccept : r.routeProcess socket (pre ++ f.bytes ++ suf) pre.length netInfo = some (r', true)) :
    ∃ target packet size, r'.netCalls = r.netCalls ++ [.send target (some packet)] ∧
      readNumber sizeofPacketSize packet 0 = .ok size ∧ packet.length = size + sizeofPacketSize ∧
      (0 < size ∧ size < netPacketMaxSize ↔ StampFits f.size routeNetInfo socket) := by
  have hlt := byteSize_stamp_lt hnet hbinary hchannel hsize socket
  obtain ⟨target, hcalls⟩ := routeProcess_stamped hnet hbinary hchannel hsize hpre hlt haccept
  let stamped := stampedFrame f (stamp netInfo routeNetInfo socket) hlt hsize
  refine ⟨target, stamped.bytes, stamped.size, hcalls, stamped.readNumber_size_packet,
    stamped.bytes_length, ?_⟩
  have hnetLen : f.net.length = byteSize netInfo := by rw [hnet]; rfl
  have hold : f.size = sizeofNetInfoSize + byteSize netInfo + f.rest.length := by rw [← hnetLen]; rfl
  have hnew : stamped.size
      = sizeofNetInfoSize + byteSize (stamp netInfo routeNetInfo socket) + f.rest.length := rfl
  have hstamp := byteSize_stamp hbinary hchannel socket
  unfold StampFits
  rw [hnew, hold]
  unfold sizeofNetInfoSize
  omega

end

/-- A frame of 4096 bytes or more closes the server's connection. -/
theorem onReceive_oversized [Protobuf] (s : RpcServerRoute) (routeId : RouteID) (f : Frame)
    (hsize : netPacketMaxSize ≤ f.size) : (s.onReceive routeId f.bytes).result = .error .refused := by
  have hlen := f.bytes_length
  have hleft : sizeofPacketSize < sizeSub f.bytes.length 0 := by
    rw [show sizeSub f.bytes.length 0 = f.bytes.length - 0 from sizeSub_of_le (Nat.zero_le _), hlen]
    unfold netPacketMaxSize at hsize
    omega
  have hcomplete : ¬ sizeSub f.bytes.length ((0 : Nat) : Int) < f.size + sizeofPacketSize := by
    rw [sizeSub_of_le (Nat.zero_le _), hlen]
    omega
  have hone : s.receiveOne routeId f.bytes 0 0 = .error .refused := by
    rw [RpcServerRoute.receiveOne, f.readNumber_size_packet, ok_bind, if_neg hcomplete, if_pos hsize]
    rfl
  rw [RpcServerRoute.onReceive, receiveLoop, if_pos hleft, hone]

/-! ## A short frame and one at the limit -/

section

attribute [local instance] networkUp

/-- A gateway with one server of the service `S`, at socket 3. -/
def oneServer : RpcRoute := (RpcRoute.started.addService 3 "S" "addr").1

theorem oneServer_getServerSocket : ∃ r', oneServer.getServerSocket 5 "S" = some (3, r') := by
  have hzero : int32 0 = 0 := by decide
  simp [oneServer, hzero, RpcRoute.getServerSocket, RpcRoute.binding, RpcRoute.addService, RpcRoute.started,
    RpcRoute.findServiceSocket, RouteServiceInfos.addService, RouteServiceInfos.new,
    RouteServiceInfos.getServiceSocket, RouteServiceInfos.nextSendIndex]

/-- The net info of a channel's packet for the service `S`. -/
def packetNetInfo : NetInfo := ⟨eNetTypeRoute, serialize (⟨true, "S", [], socketNull⟩ : RouteNetInfo)⟩

/-- Such a packet with `n` bytes behind its net info. -/
def packetFrame (n : Nat) (h : n < 4096) : Frame where
  net := serialize packetNetInfo
  rest := List.replicate n 0
  net_lt := by decide
  size_lt := by
    have hnet : (serialize packetNetInfo).length = 9 := by decide
    rw [hnet, List.length_replicate]
    unfold sizeofNetInfoSize
    omega

theorem packetFrame_size (n : Nat) (h : n < 4096) : (packetFrame n h).size = 11 + n := by
  have hnet : (serialize packetNetInfo).length = 9 := by decide
  show sizeofNetInfoSize + (serialize packetNetInfo).length + (List.replicate n (0 : UInt8)).length = _
  rw [hnet, List.length_replicate]
  rfl

/-- The one server of `S` gets the stamped packet. -/
theorem packetFrame_routed (n : Nat) (h : n < 4085) :
    ∃ r', oneServer.routeProcess 5 ([] ++ (packetFrame n (by omega)).bytes ++ []) ([] : Bytes).length
      packetNetInfo = some (r', true) := by
  obtain ⟨r', htarget⟩ := oneServer_getServerSocket
  have hsize : (packetFrame n (by omega)).size < netPacketMaxSize := by
    rw [packetFrame_size]; unfold netPacketMaxSize; omega
  have hlt := byteSize_stamp_lt (f := packetFrame n (by omega)) rfl
    (show packetNetInfo.netBinary = serialize (⟨true, "S", [], socketNull⟩ : RouteNetInfo) from rfl)
    rfl hsize 5
  have hstart : ([] : Bytes).length + sizeofPacketSize + sizeofNetInfoSize
      + (serialize packetNetInfo).length < 2 ^ 31 := by decide
  have hbuild := buildSendPacket_frame (packetFrame n (by omega)) [] [] hstart hlt
    (stampedFrame (packetFrame n (by omega)) _ hlt hsize).size_lt
  have hparse : parse packetNetInfo.netBinary = some (⟨true, "S", [], socketNull⟩ : RouteNetInfo) := by decide
  simp only [RpcRoute.routeProcess, hparse]
  rw [if_pos trivial, channelPacket_eq, hbuild]
  simp only [htarget, RpcRoute.packetPtr, Option.bind_eq_bind, Option.bind_some]
  exact ⟨_, rfl⟩

/-- A short packet arrives in an acceptable frame. -/
theorem forwarded_acceptable_short :
    ∃ r' : RpcRoute, ∃ target packet size, r'.netCalls = [.send target (some packet)] ∧
      readNumber sizeofPacketSize packet 0 = .ok size ∧ 0 < size ∧ size < netPacketMaxSize := by
  obtain ⟨r', haccept⟩ := packetFrame_routed 8 (by decide)
  have hbinary : packetNetInfo.netBinary = serialize (⟨true, "S", [], socketNull⟩ : RouteNetInfo) := rfl
  obtain ⟨target, packet, size, hcalls, hread, -, hiff⟩ := forwarded_acceptable_iff
    (f := packetFrame 8 (by decide)) rfl hbinary rfl (by decide) (by decide) haccept
  exact ⟨r', target, packet, size, hcalls, hread, hiff.mpr (by decide)⟩

/-- A packet of 4095 bytes, which the gateway takes, goes out as one of 4097, and the server that gets it
    closes the connection. -/
theorem forwarded_not_acceptable :
    (packetFrame 4084 (by decide)).size = 4095 ∧
    ∃ r' : RpcRoute, ∃ target packet,
      oneServer.routeProcess 5 (packetFrame 4084 (by decide)).bytes 0 packetNetInfo = some (r', true) ∧
      r'.netCalls = [.send target (some packet)] ∧
      readNumber sizeofPacketSize packet 0 = .ok 4097 ∧
      ∀ (s : RpcServerRoute) (routeId : RouteID), (s.onReceive routeId packet).result = .error .refused := by
  have hsize : (packetFrame 4084 (by decide)).size < netPacketMaxSize := by rw [packetFrame_size]; decide
  have hbinary : packetNetInfo.netBinary = serialize (⟨true, "S", [], socketNull⟩ : RouteNetInfo) := rfl
  obtain ⟨r', haccept⟩ := packetFrame_routed 4084 (by decide)
  have hlt := byteSize_stamp_lt (f := packetFrame 4084 (by decide)) rfl hbinary rfl hsize 5
  obtain ⟨target, hcalls⟩ := routeProcess_stamped (f := packetFrame 4084 (by decide)) rfl hbinary rfl hsize
    (by decide) hlt haccept
  let stamped := stampedFrame (packetFrame 4084 (by decide)) _ hlt hsize
  have hstamped : stamped.size = 4097 := by
    show sizeofNetInfoSize + (serialize (stamp packetNetInfo ⟨true, "S", [], socketNull⟩ 5)).length
      + (List.replicate 4084 (0 : UInt8)).length = _
    rw [List.length_replicate]
    decide
  refine ⟨packetFrame_size 4084 (by decide), r', target, stamped.bytes, ?_, hcalls, ?_, ?_⟩
  · simpa using haccept
  · rw [← hstamped]
    exact stamped.readNumber_size_packet
  · intro s routeId
    exact onReceive_oversized s routeId stamped (by rw [hstamped]; decide)

end

end Frrpc
