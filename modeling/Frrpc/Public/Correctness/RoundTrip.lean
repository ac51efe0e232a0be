import Frrpc.Public.Frame

/-!
# `Public.Correctness.RoundTrip` — decoding a frame anywhere in a stream

`getMessageFromBinary` at the first byte of a frame returns what the frame was built from, whatever bytes
come before and after. The offset arithmetic is exact because a prefix is shorter than `2 ^ 31` and the
net info and meta have 16-bit sizes, so the `uint32_t` offset never wraps; the body length is what the
other sizes leave of the size word.
-/

namespace Frrpc

open Lib

/-- The offsets of the header do not wrap. -/
theorem header_offsets (f : Frame) {pre : Bytes} (hpre : pre.length < 2 ^ 31) :
    uint32 (sizeofPacketSize + pre.length) = pre.length + sizeofPacketSize ∧
      uint32 ((pre.length + sizeofPacketSize : Nat) + sizeofNetInfoSize)
        = pre.length + sizeofPacketSize + sizeofNetInfoSize ∧
      uint32 ((pre.length + sizeofPacketSize + sizeofNetInfoSize : Nat) + f.net.length)
        = pre.length + sizeofPacketSize + sizeofNetInfoSize + f.net.length := by
  have hnet := f.net_lt
  unfold uint32 sizeofPacketSize sizeofNetInfoSize
  refine ⟨?_, ?_, ?_⟩ <;> omega

section

variable [Protobuf]

/-- What reading the net part of `f` makes of a net info: an empty part leaves it alone. -/
def Frame.NetYields (f : Frame) (before after : NetInfo) : Prop :=
  (f.net = [] ∧ after = before) ∨ (f.net ≠ [] ∧ parse f.net = some after)

theorem getNetInfoOver_frame {f : Frame} {before after : NetInfo} (h : f.NetYields before after)
    (pre suf : Bytes) :
    getNetInfoOver (pre ++ f.bytes ++ suf) (pre.length + sizeofPacketSize + sizeofNetInfoSize)
      f.net.length before = .ok after := by
  unfold getNetInfoOver
  rcases h with ⟨hnil, rfl⟩ | ⟨hne, hparse⟩
  · rw [if_neg (by simp [hnil])]
  · rw [if_pos (List.length_pos_iff.mpr hne), parseFromArray, f.readBytes_net pre suf (by simp)]
    exact congrArg orRefuse hparse

omit [Protobuf] in
/-- A serialized message is parsed back from inside a buffer. -/
theorem parseFromArray_serialize {α : Type} [Inhabited α] [PbMessage α] {binary : Bytes} (m : α)
    (pre suf : Bytes) {off : Int} (h : binary = pre ++ serialize m ++ suf) (hoff : off = pre.length)
    (hm : byteSize m < 2 ^ 31) : parseFromArray binary off (byteSize m) = .ok m := by
  have hread : readBytes binary off (byteSize m) = .ok (serialize m) := readBytes_append pre suf h hoff rfl
  rw [parseFromArray, hread]
  exact congrArg orRefuse (PbMessage.parse_serialize m hm)

/-- **A meta and a body are read back from inside a buffer**, the body possibly empty. `curOffset` and
    `packetSize` stay in the range of their types, so no offset wraps. -/
theorem getMetaAndBinary_append {binary pre body suf : Bytes} {rpcMeta : RpcMeta}
    {curOffset packetSize netSize : Nat} (h : binary = pre ++ metaBody rpcMeta body ++ suf)
    (hoffset : curOffset = pre.length) (hrange : curOffset < 2 ^ 31 + 2 ^ 17)
    (hpacket : packetSize = sizeofNetInfoSize + netSize + (sizeofRpcMetaSize + byteSize rpcMeta + body.length))
    (hsize : packetSize < 2 ^ 32) (hpos : 0 < byteSize rpcMeta) (hmeta : byteSize rpcMeta < 2 ^ 16)
    (packet : RpcPacket) :
    getMetaAndBinary binary curOffset packetSize netSize packet
      = .ok { packet with rpcMeta, binary := if body = [] then packet.binary else some body } := by
  subst hoffset
  have hmetaSize : readNumber sizeofRpcMetaSize binary pre.length = .ok (byteSize rpcMeta) := by
    refine readNumber_append pre (serialize rpcMeta ++ body ++ suf) ?_ rfl hmeta
    rw [h, metaBody]
    simp only [List.append_assoc]
  have hmetaOffset : uint32 (pre.length + sizeofRpcMetaSize) = pre.length + sizeofRpcMetaSize := by
    unfold uint32 sizeofRpcMetaSize
    omega
  have hparse : parseFromArray binary (pre.length + sizeofRpcMetaSize : Nat) (byteSize rpcMeta)
      = .ok rpcMeta := by
    refine parseFromArray_serialize rpcMeta (pre ++ le sizeofRpcMetaSize (byteSize rpcMeta)) (body ++ suf)
      ?_ ?_ (Nat.lt_trans hmeta (by decide))
    · rw [h, metaBody]
      simp only [List.append_assoc]
    · rw [List.length_append, le_length]
  have hbodyOffset : uint32 ((pre.length + sizeofRpcMetaSize : Nat) + byteSize rpcMeta)
      = pre.length + sizeofRpcMetaSize + byteSize rpcMeta := by
    unfold uint32 sizeofRpcMetaSize
    omega
  have hbodySize : uint32 (packetSize - sizeofNetInfoSize - netSize - sizeofRpcMetaSize - byteSize rpcMeta)
      = body.length := by
    rw [hpacket] at hsize ⊢
    unfold uint32
    omega
  rw [getMetaAndBinary, hmetaSize, ok_bind, hmetaOffset, if_pos hpos, hparse, ok_bind, hbodyOffset, hbodySize]
  by_cases hbody : body = []
  · rw [if_neg (by simp [hbody]), if_pos hbody]
    rfl
  · have hread : readBytes binary (pre.length + sizeofRpcMetaSize + byteSize rpcMeta : Nat) body.length
        = .ok body := by
      refine readBytes_append (pre ++ (le sizeofRpcMetaSize (byteSize rpcMeta) ++ serialize rpcMeta)) suf ?_ ?_
        rfl
      · rw [h, metaBody]
        simp only [List.append_assoc]
      · rw [List.length_append, List.length_append, le_length, Nat.add_assoc]
        rfl
    rw [if_pos (List.length_pos_iff.mpr hbody), hread, if_neg hbody]
    rfl

/-- Behind the net part of a frame, its meta and body are read back. -/
theorem getMetaAndBinary_metaBody {f : Frame} {rpcMeta : RpcMeta} {body : Bytes}
    (hrest : f.rest = metaBody rpcMeta body) (hpos : 0 < byteSize rpcMeta)
    (hmeta : byteSize rpcMeta < 2 ^ 16) {pre : Bytes} (suf : Bytes) (hpre : pre.length < 2 ^ 31)
    (packet : RpcPacket) :
    getMetaAndBinary (pre ++ f.bytes ++ suf)
      (pre.length + sizeofPacketSize + sizeofNetInfoSize + f.net.length) f.size f.net.length packet
      = .ok { packet with rpcMeta, binary := if body = [] then packet.binary else some body } := by
  obtain ⟨pre', hsplit, hlen⟩ := f.split_rest pre suf
  have hnet := f.net_lt
  rw [hrest, ← List.append_assoc] at hsplit
  have hsize : f.size
      = sizeofNetInfoSize + f.net.length + (sizeofRpcMetaSize + byteSize rpcMeta + body.length) := by
    rw [Frame.size, hrest, metaBody_length]
  refine getMetaAndBinary_append hsplit (by rw [hlen]) ?_ hsize f.size_lt hpos hmeta packet
  unfold sizeofPacketSize sizeofNetInfoSize
  omega

/-- The header is read the same way for every net type. -/
theorem getMessageFromBinary_header {f : Frame} {before after : NetInfo}
    (hnet : f.NetYields before after) {pre : Bytes} (suf : Bytes) (hpre : pre.length < 2 ^ 31)
    (packet : Option RpcPacket) :
    getMessageFromBinary (pre ++ f.bytes ++ suf) pre.length before packet =
      if after.netType ≤ eNetTypeSpecial then do
        let packet ← orRefuse packet
        let packet ← getMetaAndBinary (pre ++ f.bytes ++ suf)
          (pre.length + sizeofPacketSize + sizeofNetInfoSize + f.net.length) f.size f.net.length packet
        return (after, some packet)
      else return (after, packet) := by
  obtain ⟨hoff₁, hoff₂, hoff₃⟩ := header_offsets f hpre
  have hnetSize : readNumber sizeofNetInfoSize (pre ++ f.bytes ++ suf)
      (pre.length + sizeofPacketSize : Nat) = .ok f.net.length :=
    f.readNumber_netSize pre suf (by simp)
  rw [getMessageFromBinary, f.readNumber_size pre suf]
  simp only [ok_bind, hoff₁, hnetSize, hoff₂, getNetInfoOver_frame hnet pre suf, hoff₃]

/-- **A frame of a net type beyond `eNetType_Special` ends with its net part**: the packet is untouched. -/
theorem getMessageFromBinary_net {f : Frame} {before after : NetInfo} (hnet : f.NetYields before after)
    (htype : eNetTypeSpecial < after.netType) {pre : Bytes} (suf : Bytes) (hpre : pre.length < 2 ^ 31)
    (packet : Option RpcPacket) :
    getMessageFromBinary (pre ++ f.bytes ++ suf) pre.length before packet = .ok (after, packet) := by
  rw [getMessageFromBinary_header hnet suf hpre, if_neg (Int32.not_le.mpr htype)]
  rfl

/-- **A frame of a net type up to `eNetType_Special` carries a meta and a body.** -/
theorem getMessageFromBinary_metaBody {f : Frame} {before after : NetInfo}
    (hnet : f.NetYields before after) (htype : after.netType ≤ eNetTypeSpecial) {rpcMeta : RpcMeta}
    {body : Bytes} (hrest : f.rest = metaBody rpcMeta body) (hpos : 0 < byteSize rpcMeta)
    (hmeta : byteSize rpcMeta < 2 ^ 16) {pre : Bytes} (suf : Bytes) (hpre : pre.length < 2 ^ 31)
    (packet : RpcPacket) :
    getMessageFromBinary (pre ++ f.bytes ++ suf) pre.length before (some packet)
      = .ok (after, some { packet with
          rpcMeta, binary := if body = [] then packet.binary else some body }) := by
  rw [getMessageFromBinary_header hnet suf hpre, if_pos htype]
  rw [orRefuse, ok_bind, getMetaAndBinary_metaBody hrest hpos hmeta suf hpre packet, ok_bind]
  rfl

/-- What was serialized is parsed back over a fresh net info. -/
theorem netYields_of_serialize {f : Frame} {netInfo before : NetInfo} (hnet : f.net = serialize netInfo)
    (hbefore : serialize netInfo = [] → before = default) : f.NetYields before netInfo := by
  have hlt := Nat.lt_trans f.net_lt (by decide : 2 ^ 16 < 2 ^ 31)
  by_cases hnil : serialize netInfo = []
  · exact Or.inl ⟨hnet.trans hnil, by rw [hbefore hnil, eq_default_of_serialize_nil hnil]⟩
  · exact Or.inr ⟨by rwa [hnet], by rw [hnet]; exact PbMessage.parse_serialize _ (by rwa [← hnet])⟩

/-- In `pre ++ frame ++ suf` the first word of `frame` counts the bytes that follow it in the frame, so
    stepping over them leads to `suf`. -/
def Delimited (pre frame suf : Bytes) : Prop :=
  ∃ size, readNumber sizeofPacketSize (pre ++ frame ++ suf) pre.length = .ok size ∧
    frame.length = size + sizeofPacketSize ∧
    (pre ++ frame ++ suf).drop (pre.length + sizeofPacketSize + size) = suf

omit [Protobuf] in
theorem Frame.delimited (f : Frame) (pre suf : Bytes) : Delimited pre f.bytes suf := by
  refine ⟨f.size, f.readNumber_size pre suf, f.bytes_length, ?_⟩
  have hlen : pre.length + sizeofPacketSize + f.size = (pre ++ f.bytes).length := by
    rw [List.length_append, f.bytes_length]; omega
  rw [hlen, List.drop_left]

/-- **The codec round trip inside any stream.** -/
theorem getMessageFromBinary_build (netInfo : NetInfo) (rpcMeta : RpcMeta) (body pre suf : Bytes)
    (hnet : byteSize netInfo ≤ 65535) (hpre : pre.length < 2 ^ 31) :
    (netInfo.netType ≤ eNetTypeSpecial → 1 ≤ byteSize rpcMeta → byteSize rpcMeta ≤ 65535 →
      sizeofNetInfoSize + byteSize netInfo + (sizeofRpcMetaSize + byteSize rpcMeta + body.length)
        < 2 ^ 32 →
      (∀ before (packet : RpcPacket), (serialize netInfo = [] → before = default) →
        packet.binary = none →
        getMessageFromBinary (pre ++ buildBinaryFromMessage netInfo rpcMeta body ++ suf) pre.length before
          (some packet)
          = .ok (netInfo, some { packet with
              rpcMeta, binary := if body = [] then none else some body })) ∧
      Delimited pre (buildBinaryFromMessage netInfo rpcMeta body) suf) ∧
    (eNetTypeSpecial < netInfo.netType →
      (∀ before packet,
        getMessageFromBinary (pre ++ buildBinaryFromMessageNet netInfo ++ suf) pre.length before packet
          = .ok (netInfo, packet)) ∧
      Delimited pre (buildBinaryFromMessageNet netInfo) suf) := by
  constructor
  · intro htype hpos hmeta hsize
    obtain ⟨f, hf, hfnet, hfrest⟩ :=
      buildBinaryFromMessage_eq (by omega) (by omega : byteSize rpcMeta < 2 ^ 16) hsize
    rw [hf]
    refine ⟨fun before packet hbefore hnone => ?_, f.delimited pre suf⟩
    rw [getMessageFromBinary_metaBody (netYields_of_serialize hfnet hbefore) htype hfrest hpos
      (by omega) suf hpre, hnone]
  · intro htype
    obtain ⟨f, hf, hfnet, _⟩ := buildBinaryFromMessageNet_eq (by omega : byteSize netInfo < 2 ^ 16)
    rw [hf]
    refine ⟨fun before packet => ?_, f.delimited pre suf⟩
    refine getMessageFromBinary_net (netYields_of_serialize hfnet fun hnil => ?_) htype suf hpre packet
    -- the default net info has net type 0, so something was written
    rw [eq_default_of_serialize_nil hnil] at htype
    exact absurd htype (by decide)

end

/-- A route frame with a body and a heart frame, each between other bytes. -/
theorem getMessageFromBinary_build_wire :
    (getMessageFromBinary ([1] ++ buildBinaryFromMessage ⟨eNetTypeRoute, [8, 1]⟩
        ⟨"S", 2, some ⟨7⟩, none, 0⟩ [10, 11] ++ [0, 0]) 1 default (some (.new 0 .method))
      = .ok (⟨eNetTypeRoute, [8, 1]⟩, some ⟨0, .method, ⟨"S", 2, some ⟨7⟩, none, 0⟩, some [10, 11]⟩)) ∧
    Delimited [1] (buildBinaryFromMessageNet ⟨eNetTypeHeart, []⟩) [0, 0] :=
  ⟨((getMessageFromBinary_build ⟨eNetTypeRoute, [8, 1]⟩ ⟨"S", 2, some ⟨7⟩, none, 0⟩ [10, 11] [1] [0, 0]
      (by decide) (by decide)).1 (by decide) (by decide) (by decide) (by decide)).1 default _
      (fun _ => rfl) rfl,
    ((getMessageFromBinary_build ⟨eNetTypeHeart, []⟩ default [] [1] [0, 0] (by decide) (by decide)).2
      (by decide)).2⟩

end Frrpc
