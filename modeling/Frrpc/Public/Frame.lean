import Frrpc.Public.Serializable

/-!
# `Public.Frame` — the frame format, and that the builders produce it

What every frame looks like, whatever its net type: a size word, then a net part with its own size, then
the rest. `Frame` carries the two bounds that make the size fields exact, so a `Frame` cannot declare a
length it does not have. The builders produce frames as long as the parts fit their size fields, and a
reader at a frame boundary sees exactly the frame, whatever surrounds it.
-/

namespace Frrpc

open Lib

/-- A frame whose parts fit their size fields. -/
structure Frame where
  net : Bytes
  rest : Bytes
  net_lt : net.length < 2 ^ 16
  size_lt : sizeofNetInfoSize + net.length + rest.length < 2 ^ 32

namespace Frame

/-- The value of the size word. -/
def size (f : Frame) : Nat := sizeofNetInfoSize + f.net.length + f.rest.length

def bytes (f : Frame) : Bytes :=
  le sizeofPacketSize f.size ++ (le sizeofNetInfoSize f.net.length ++ (f.net ++ f.rest))

/-- **The size word counts exactly what follows it.** -/
theorem bytes_length (f : Frame) : f.bytes.length = f.size + sizeofPacketSize := by
  simp only [bytes, List.length_append, le_length, size]
  omega

theorem bytes_ne_nil (f : Frame) : f.bytes ≠ [] := by
  intro h
  have hlen := f.bytes_length
  rw [h] at hlen
  simp [sizeofPacketSize] at hlen

/-! ## Reading at a frame boundary -/

theorem readNumber_size (f : Frame) (pre suf : Bytes) :
    readNumber sizeofPacketSize (pre ++ f.bytes ++ suf) pre.length = .ok f.size := by
  refine readNumber_append pre (le sizeofNetInfoSize f.net.length ++ (f.net ++ f.rest) ++ suf) ?_ rfl
    f.size_lt
  simp only [bytes, List.append_assoc]

/-- A piece of a frame that is longer than the size word already shows the size. -/
theorem readNumber_size_of_prefix (f : Frame) {pre t : Bytes} (ht : t <+: f.bytes)
    (hlen : sizeofPacketSize ≤ t.length) :
    readNumber sizeofPacketSize (pre ++ t) pre.length = .ok f.size := by
  have hword : le sizeofPacketSize f.size <+: t :=
    List.prefix_of_prefix_length_le (List.prefix_append _ _) ht (by rwa [le_length])
  obtain ⟨t', rfl⟩ := hword
  exact readNumber_append pre t' (by rw [List.append_assoc]) rfl f.size_lt

theorem readNumber_netSize (f : Frame) (pre suf : Bytes) {off : Int}
    (hoff : off = pre.length + sizeofPacketSize) :
    readNumber sizeofNetInfoSize (pre ++ f.bytes ++ suf) off = .ok f.net.length := by
  refine readNumber_append (pre ++ le sizeofPacketSize f.size) (f.net ++ f.rest ++ suf) ?_ ?_ f.net_lt
  · simp only [bytes, List.append_assoc]
  · simp only [List.length_append, le_length]; omega

theorem readBytes_net (f : Frame) (pre suf : Bytes) {off : Int}
    (hoff : off = pre.length + sizeofPacketSize + sizeofNetInfoSize) :
    readBytes (pre ++ f.bytes ++ suf) off f.net.length = .ok f.net := by
  refine readBytes_append (pre ++ (le sizeofPacketSize f.size ++ le sizeofNetInfoSize f.net.length))
    (f.rest ++ suf) ?_ ?_ rfl
  · simp only [bytes, List.append_assoc]
  · simp only [List.length_append, le_length]; omega

/-- Everything after the net part is read as the rest of the frame. -/
theorem split_rest (f : Frame) (pre suf : Bytes) :
    ∃ pre', pre ++ f.bytes ++ suf = pre' ++ (f.rest ++ suf) ∧
      pre'.length = pre.length + sizeofPacketSize + sizeofNetInfoSize + f.net.length := by
  refine ⟨pre ++ (le sizeofPacketSize f.size ++ (le sizeofNetInfoSize f.net.length ++ f.net)), ?_, ?_⟩
  · simp only [bytes, List.append_assoc]
  · simp only [List.length_append, le_length]; omega

end Frame

/-! ## The builders produce frames -/

section Builders

variable [Protobuf]

theorem buildBinaryFromMessageNet_eq {netInfo : NetInfo} (hnet : byteSize netInfo < 2 ^ 16) :
    ∃ f : Frame, buildBinaryFromMessageNet netInfo = f.bytes ∧
      f.net = serialize netInfo ∧ f.rest = [] := by
  have hsize : sizeofNetInfoSize + (serialize netInfo).length + ([] : Bytes).length < 2 ^ 32 := by
    simp only [byteSize, sizeofNetInfoSize, List.length_nil] at *; omega
  refine ⟨⟨serialize netInfo, [], hnet, hsize⟩, ?_, rfl, rfl⟩
  have hword : uint32 (sizeofNetInfoSize + byteSize netInfo) = sizeofNetInfoSize + byteSize netInfo :=
    uint32_of_lt hsize
  simp only [buildBinaryFromMessageNet, uint16_of_lt hnet, hword, Frame.bytes, List.append_nil]
  rfl

/-- The part of a frame after its net part, for net types up to `eNetType_Special`. -/
def metaBody (rpcMeta : RpcMeta) (body : Bytes) : Bytes :=
  le sizeofRpcMetaSize (byteSize rpcMeta) ++ (serialize rpcMeta ++ body)

theorem metaBody_length (rpcMeta : RpcMeta) (body : Bytes) :
    (metaBody rpcMeta body).length = sizeofRpcMetaSize + byteSize rpcMeta + body.length := by
  simp only [metaBody, List.length_append, le_length, byteSize]; omega

theorem buildBinaryFromMessage_eq {netInfo : NetInfo} {rpcMeta : RpcMeta} {body : Bytes}
    (hnet : byteSize netInfo < 2 ^ 16) (hmeta : byteSize rpcMeta < 2 ^ 16)
    (hsize : sizeofNetInfoSize + byteSize netInfo + (sizeofRpcMetaSize + byteSize rpcMeta + body.length)
      < 2 ^ 32) :
    ∃ f : Frame, buildBinaryFromMessage netInfo rpcMeta body = f.bytes ∧
      f.net = serialize netInfo ∧ f.rest = metaBody rpcMeta body := by
  refine ⟨⟨serialize netInfo, metaBody rpcMeta body, hnet, by rwa [metaBody_length]⟩, ?_, rfl, rfl⟩
  have hword : uint32 (sizeofNetInfoSize + byteSize netInfo + sizeofRpcMetaSize + byteSize rpcMeta
      + body.length)
      = sizeofNetInfoSize + byteSize netInfo + (sizeofRpcMetaSize + byteSize rpcMeta + body.length) := by
    rw [← uint32_of_lt hsize]; congr 1; push_cast; ring
  simp only [buildBinaryFromMessage, Frame.bytes, Frame.size, uint16_of_lt hnet, uint16_of_lt hmeta,
    hword, metaBody_length]
  rfl

end Builders

end Frrpc
