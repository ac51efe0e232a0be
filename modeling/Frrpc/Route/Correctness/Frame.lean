import Frrpc.Public.Frame
import Frrpc.Route.Route

/-!
# `Route.Correctness.Frame` — what the gateway reads and writes at a frame

`getNetInfo_frame` and `buildSendPacket_frame` are the two functions that work on a frame in the receive
buffer. Both compute offsets in `int32_t`, so both need the frame's header to end below `2 ^ 31`; past it
they read at a negative offset (`buildSendPacket_wrap`). Below it, no handler reads anything but its frame
(`handle_local`).
-/

namespace Frrpc

open Lib

section

variable [Protobuf] (f : Frame) (pre suf : Bytes)

/-- The net info at a frame is what its net part parses to. -/
theorem getNetInfo_frame {netInfo : NetInfo}
    (hstart : pre.length + sizeofPacketSize + sizeofNetInfoSize < 2 ^ 31) (hne : f.net ≠ [])
    (hparse : parse f.net = some netInfo) :
    RpcRoute.getNetInfo (pre ++ f.bytes ++ suf) pre.length = .ok netInfo := by
  have hoff₁ : int32 (sizeofPacketSize + pre.length) = (pre.length + sizeofPacketSize : Nat) := by
    rw [int32_of_lt (by omega) (by omega)]; omega
  have hoff₂ : int32 ((pre.length + sizeofPacketSize : Nat) + sizeofNetInfoSize)
      = (pre.length + sizeofPacketSize + sizeofNetInfoSize : Nat) := by
    rw [int32_of_lt (by omega) (by omega)]; omega
  have hnetSize : readNumber sizeofNetInfoSize (pre ++ f.bytes ++ suf)
      (pre.length + sizeofPacketSize : Nat) = .ok f.net.length :=
    f.readNumber_netSize pre suf (by simp)
  have hnet : readBytes (pre ++ f.bytes ++ suf)
      (pre.length + sizeofPacketSize + sizeofNetInfoSize : Nat) f.net.length = .ok f.net :=
    f.readBytes_net pre suf (by simp)
  rw [RpcRoute.getNetInfo, hoff₁, hnetSize, ok_bind, hoff₂, if_pos (List.length_pos_iff.mpr hne),
    parseFromArray, hnet, ok_bind, hparse]
  rfl

/-- **The gateway's rewrite is a change of the net part**: the sizes and the copied bytes are those of the
    frame with the new net part. -/
theorem buildSendPacket_frame {netInfo : NetInfo}
    (hstart : pre.length + sizeofPacketSize + sizeofNetInfoSize + f.net.length < 2 ^ 31)
    (hnet : byteSize netInfo < 2 ^ 16)
    (hsize : sizeofNetInfoSize + byteSize netInfo + f.rest.length < 2 ^ 32) :
    RpcRoute.buildSendPacket (pre ++ f.bytes ++ suf) pre.length netInfo
      = .ok (Frame.bytes ⟨serialize netInfo, f.rest, hnet, hsize⟩) := by
  have hlt := f.size_lt
  have hcopyOffset : int32 (pre.length + sizeofPacketSize + sizeofNetInfoSize + f.net.length)
      = (pre.length + sizeofPacketSize + sizeofNetInfoSize + f.net.length : Nat) := by
    rw [int32_of_lt (by omega) (by omega)]; omega
  have hcopySize : uint32 (f.size - sizeofNetInfoSize - f.net.length) = f.rest.length := by
    rw [Frame.size]; unfold uint32; omega
  have hpacketSize : uint32 (f.size + byteSize netInfo - f.net.length)
      = sizeofNetInfoSize + byteSize netInfo + f.rest.length := by
    rw [Frame.size]; unfold uint32; omega
  have hnetSize : readNumber sizeofNetInfoSize (pre ++ f.bytes ++ suf)
      (pre.length + sizeofPacketSize) = .ok f.net.length := f.readNumber_netSize pre suf rfl
  have hrest : readBytes (pre ++ f.bytes ++ suf)
      (pre.length + sizeofPacketSize + sizeofNetInfoSize + f.net.length : Nat) f.rest.length
      = .ok f.rest := by
    obtain ⟨pre', hsplit, hlen⟩ := f.split_rest pre suf
    refine readBytes_append pre' suf ?_ (by rw [hlen]) rfl
    rw [hsplit, List.append_assoc]
  rw [RpcRoute.buildSendPacket, f.readNumber_size pre suf, ok_bind, hnetSize, ok_bind, uint16_of_lt hnet,
    if_pos (Nat.le_refl _), hcopyOffset, hcopySize, hrest, ok_bind, hpacketSize]
  rfl

/-- A frame whose header crosses `2 ^ 31` is copied from a negative offset. -/
theorem buildSendPacket_wrap {netInfo : NetInfo} (hpre : pre.length < 2 ^ 31)
    (hwrap : 2 ^ 31 ≤ pre.length + sizeofPacketSize + sizeofNetInfoSize + f.net.length)
    (hnet : byteSize netInfo < 2 ^ 16) :
    RpcRoute.buildSendPacket (pre ++ f.bytes ++ suf) pre.length netInfo = .error .undefined := by
  have hlt := f.net_lt
  have hneg : int32 (pre.length + sizeofPacketSize + sizeofNetInfoSize + f.net.length) < 0 := by
    simp only [sizeofPacketSize, sizeofNetInfoSize] at *
    exact int32_neg (by omega) (by omega)
  have hnetSize : readNumber sizeofNetInfoSize (pre ++ f.bytes ++ suf)
      (pre.length + sizeofPacketSize) = .ok f.net.length := f.readNumber_netSize pre suf rfl
  rw [RpcRoute.buildSendPacket, f.readNumber_size pre suf, ok_bind, hnetSize, ok_bind, uint16_of_lt hnet,
    if_pos (Nat.le_refl _), readBytes_neg hneg, error_bind]

/-- **The gateway's rewrite reads nothing but its frame**, wherever the frame stands. -/
theorem buildSendPacket_local (hsize : f.size < netPacketMaxSize)
    (hlimit : pre.length + f.bytes.length < 2 ^ 31) (netInfo : NetInfo) :
    RpcRoute.buildSendPacket (pre ++ f.bytes ++ suf) pre.length netInfo
      = RpcRoute.buildSendPacket f.bytes 0 netInfo := by
  have hmax : netPacketMaxSize < 2 ^ 13 := by decide
  have hlen := f.bytes_length
  have hparts : f.size = sizeofNetInfoSize + f.net.length + f.rest.length := rfl
  have hnetSize : ∀ pre suf, readNumber sizeofNetInfoSize (pre ++ f.bytes ++ suf)
      (pre.length + sizeofPacketSize) = .ok f.net.length := fun pre suf => f.readNumber_netSize pre suf rfl
  have halone : f.bytes = [] ++ f.bytes ++ [] := by rw [List.nil_append, List.append_nil]
  by_cases hnet : byteSize netInfo < 2 ^ 16
  · have hnew : sizeofNetInfoSize + byteSize netInfo + f.rest.length < 2 ^ 32 := by
      simp only [sizeofNetInfoSize] at hparts ⊢; omega
    have hframe := buildSendPacket_frame f [] [] (by simp only [List.length_nil]; omega) hnet hnew
    rw [buildSendPacket_frame f pre suf (by omega) hnet hnew]
    rw [← halone] at hframe
    exact hframe.symm
  · -- a net info that does not fit its size field is refused before anything is copied
    have hrefused : ∀ pre suf, RpcRoute.buildSendPacket (pre ++ f.bytes ++ suf) pre.length netInfo
        = .error .refused := by
      intro pre suf
      have hcur : ¬ byteSize netInfo ≤ uint16 (byteSize netInfo) := by unfold uint16; omega
      rw [RpcRoute.buildSendPacket, f.readNumber_size pre suf, ok_bind, hnetSize pre suf, ok_bind, if_neg hcur]
      rfl
    have hframe := hrefused [] []
    rw [← halone] at hframe
    rw [hrefused pre suf]
    exact hframe.symm

/-- **A handler reads nothing but its frame**, wherever the frame stands. -/
theorem handle_local [FrNet] (hsize : f.size < netPacketMaxSize)
    (hlimit : pre.length + f.bytes.length < 2 ^ 31) (handler : RpcRoute.Handler) (r : RpcRoute)
    (socket : Socket) (netInfo : NetInfo) :
    RpcRoute.handle handler r socket (pre ++ f.bytes ++ suf) pre.length netInfo
      = RpcRoute.handle handler r socket f.bytes 0 netInfo := by
  have hlen := f.bytes_length
  have hread : readNumber sizeofPacketSize (pre ++ f.bytes ++ suf) pre.length = .ok f.size :=
    f.readNumber_size pre suf
  have hreadAlone : readNumber sizeofPacketSize f.bytes 0 = .ok f.size := by
    have halone := f.readNumber_size [] []
    rwa [List.nil_append, List.append_nil] at halone
  have hbytes : readBytes (pre ++ f.bytes ++ suf) pre.length (f.size + sizeofPacketSize) = .ok f.bytes :=
    readBytes_append pre suf rfl rfl hlen.symm
  have hbytesAlone : readBytes f.bytes 0 (f.size + sizeofPacketSize) = .ok f.bytes :=
    readBytes_append [] [] (List.append_nil f.bytes).symm rfl hlen.symm
  cases handler with
  | route =>
    simp only [RpcRoute.handle, RpcRoute.routeProcess, RpcRoute.channelPacket,
      buildSendPacket_local f pre suf hsize hlimit, hread, hreadAlone, Except.toOption,
      Option.bind_eq_bind, Option.bind_some, Nat.add_comm sizeofPacketSize, hbytes, hbytesAlone]
  | command => rfl
  | heart =>
    simp only [RpcRoute.handle, RpcRoute.heartProcess, hread, hreadAlone, Except.toOption,
      Option.bind_eq_bind, Option.bind_some, hbytes, hbytesAlone]

end

end Frrpc
