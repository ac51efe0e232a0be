import Frrpc.Public.Correctness.Bounds
import Frrpc.Route.Route

/-!
# `Route.Correctness.Bounds` — the gateway at malformed frames

`RpcRoute::OnReceive` checks the size that a frame declares, and nothing behind it checks the size of the
net info against that: `GetNetInfo` parses, and `BuildSendPacket` copies, whatever the inner size says. So
both stay inside the frame exactly when the inner size fits (`gatewayContained_iff`). They compute in
`int32_t`, so the places they read must also lie below `2 ^ 31`.
-/

namespace Frrpc

open Lib

/-- The checks of the receive loop at an `int32_t` offset are those of a complete frame. -/
theorem completeFrame_iff {binary : Bytes} {curOffset : Int} {size : Nat}
    (hlow : -2 ^ 31 ≤ curOffset) (hhigh : curOffset < 2 ^ 31) :
    (readNumber sizeofPacketSize binary curOffset = .ok size ∧ ¬ netPacketMaxSize ≤ size ∧ size ≠ 0 ∧
      ¬ sizeSub binary.length curOffset < uint32 (size + sizeofPacketSize)) ↔
    ∃ off : Nat, curOffset = off ∧ CompleteFrame binary off size := by
  constructor
  · rintro ⟨hsize, hmax, hzero, havail⟩
    have hdef := readNumber_defined_iff.mp (show readNumber _ _ _ ≠ .error .undefined by rw [hsize]; simp)
    obtain ⟨off, rfl⟩ := Int.eq_ofNat_of_zero_le hdef.1
    have hle : off ≤ binary.length := by omega
    rw [sizeSub_of_le hle] at havail
    refine ⟨off, rfl, hsize, by omega, by omega, ?_, by omega⟩
    simp only [uint32, netPacketMaxSize, sizeofPacketSize] at *
    omega
  · rintro ⟨off, rfl, hsize, hpos, hlt, havail, hoff⟩
    refine ⟨hsize, by omega, by omega, ?_⟩
    rw [sizeSub_of_le (by omega)]
    simp only [uint32, netPacketMaxSize, sizeofPacketSize] at *
    omega

section

variable [Protobuf] {binary : Bytes} {off p ns : Nat}

namespace RpcRoute

/-- **What the gateway may do with a complete frame**: `GetNetInfo`, and for a frame it takes
    `BuildSendPacket` with any new net info, stay inside the frame, and then the inner size fits the declared
    one and neither size that is computed from the two wraps. -/
structure GatewayContained (binary : Bytes) (off p : Nat) (stamped : NetInfo) : Prop where
  netInfo : Within (fun bs => getNetInfo bs off) binary (frameEnd off p)
  packet : ∀ netInfo, getNetInfo binary off = .ok netInfo →
    Within (fun bs => buildSendPacket bs off stamped) binary (frameEnd off p)
  sizes : ∀ netInfo, getNetInfo binary off = .ok netInfo →
    ∃ ns, NetSizeIs binary off ns ∧ sizeofNetInfoSize + ns ≤ p ∧ NoWrap (p - sizeofNetInfoSize - ns) ∧
      NoWrap (p + uint16 (byteSize stamped) - ns)

/-- **The size of the net info fits the frame, and its parts are addressable**: the size word, a net info
    that is there, and what is copied behind one that parses. -/
def GatewayFits (binary : Bytes) (off p : Nat) (stamped : NetInfo) : Prop :=
  ∃ ns, NetSizeIs binary off ns ∧ sizeofNetInfoSize + ns ≤ p ∧ off + sizeofPacketSize < 2 ^ 31 ∧
    (0 < ns → off + sizeofPacketSize + sizeofNetInfoSize < 2 ^ 31 ∧
      ((parse (netPart binary off ns) : Option NetInfo) ≠ none → byteSize stamped < 2 ^ 16 →
        off + sizeofPacketSize + sizeofNetInfoSize + ns < 2 ^ 31))

theorem stable_getNetInfo (off : Int) : Stable (fun bs => getNetInfo bs off) := by
  unfold getNetInfo
  apply Stable.bind (Stable.readNumber _ _)
  intro netSize
  apply Stable.ite
  · exact Stable.parseFromArray _ _
  · exact Stable.const _

theorem stable_buildSendPacket (off : Int) (stamped : NetInfo) :
    Stable (fun bs => buildSendPacket bs off stamped) := by
  unfold buildSendPacket
  apply Stable.bind (Stable.readNumber _ _)
  intro originalSize
  apply Stable.bind (Stable.readNumber _ _)
  intro originalNetInfoSize
  apply Stable.ite
  · apply Stable.bind (Stable.readBytes _ _)
    intro rest
    exact Stable.const _
  · exact Stable.const _

omit [Protobuf] in
/-- A read behind `n` bytes at an `int32_t` offset needs the offset to be below `2 ^ 31`: past it, it is
    negative. -/
theorem readNumber_int32_defined_iff {bs : Bytes} {n w : Nat} {cur : Int} (hcur : cur = n) (h : n < 2 ^ 32) :
    readNumber w bs (int32 cur) ≠ .error .undefined ↔ n < 2 ^ 31 ∧ n + w ≤ bs.length := by
  rw [readNumber_defined_iff, hcur]
  unfold int32
  omega

omit [Protobuf] in
theorem readBytes_int32_defined_iff {bs : Bytes} {n w : Nat} {cur : Int} (hcur : cur = n) (h : n < 2 ^ 32) :
    readBytes bs (int32 cur) w ≠ .error .undefined ↔ n < 2 ^ 31 ∧ n + w ≤ bs.length := by
  rw [readBytes_defined_iff, hcur]
  unfold int32
  omega

/-- **`GetNetInfo` stays inside exactly when the net info it is told of does.** -/
theorem getNetInfo_defined_iff (h : CompleteFrame binary off p) :
    getNetInfo (binary.take (frameEnd off p)) off ≠ .error .undefined ↔
      ∃ ns, NetSizeIs binary off ns ∧ sizeofNetInfoSize + ns ≤ p ∧ off + sizeofPacketSize < 2 ^ 31 ∧
        (0 < ns → off + sizeofPacketSize + sizeofNetInfoSize < 2 ^ 31) := by
  have hoff := h.offset_lt
  have hlen := h.length_take
  have hword : (sizeofPacketSize + off : Int) = (off + sizeofPacketSize : Nat) := by omega
  unfold getNetInfo
  rw [bind_defined_iff, readNumber_int32_defined_iff hword (by unfold sizeofPacketSize; omega), hlen]
  constructor
  · rintro ⟨⟨haddr, hheader⟩, hrest⟩
    have hcur : int32 (sizeofPacketSize + off) = (off + sizeofPacketSize : Nat) := by
      rw [hword, int32_of_lt (by omega) (by omega)]
    have hheader' : sizeofNetInfoSize ≤ p := by unfold frameEnd at hheader; omega
    rw [hcur] at hrest
    obtain ⟨ns, hns⟩ : ∃ ns, readNumber sizeofNetInfoSize (binary.take (frameEnd off p))
        (off + sizeofPacketSize : Nat) = .ok ns :=
      readNumber_of_defined (readNumber_defined_iff.mpr ⟨by omega, by rw [hlen]; omega⟩)
    have hrest := hrest ns hns
    refine ⟨ns, ((h.netSizeIs_take ns).mp hns).2, ?_⟩
    by_cases hpos : 0 < ns
    · rw [if_pos hpos, parseFromArray, bind_defined_iff, readBytes_int32_defined_iff
        (n := off + sizeofPacketSize + sizeofNetInfoSize) (by omega)
        (by unfold sizeofPacketSize sizeofNetInfoSize; omega), hlen] at hrest
      obtain ⟨⟨haddr', hfits⟩, _⟩ := hrest
      exact ⟨by unfold frameEnd at hfits; omega, haddr, fun _ => haddr'⟩
    · exact ⟨by omega, haddr, fun hpos' => absurd hpos' hpos⟩
  · rintro ⟨ns, hns, hfits, haddr, hinfo⟩
    have hcur : int32 (sizeofPacketSize + off) = (off + sizeofPacketSize : Nat) := by
      rw [hword, int32_of_lt (by omega) (by omega)]
    refine ⟨⟨haddr, by unfold frameEnd; omega⟩, ?_⟩
    rw [hcur]
    intro ns' hns'
    have hnstake := (h.netSizeIs_take ns).mpr ⟨by omega, hns⟩
    cases Except.ok.inj (hnstake.symm.trans hns')
    by_cases hpos : 0 < ns
    · rw [if_pos hpos, parseFromArray, bind_defined_iff, readBytes_int32_defined_iff
        (n := off + sizeofPacketSize + sizeofNetInfoSize) (by omega)
        (by unfold sizeofPacketSize sizeofNetInfoSize; omega), hlen]
      exact ⟨⟨hinfo hpos, by unfold frameEnd; omega⟩, fun bytes _ => orRefuse_defined _⟩
    · rw [if_neg hpos]
      exact refused_defined

/-- A frame that `GetNetInfo` takes has a net info that parses. -/
theorem getNetInfo_ok_iff (h : CompleteFrame binary off p) (hns : NetSizeIs binary off ns)
    (hfits : sizeofNetInfoSize + ns ≤ p) (haddr : off + sizeofPacketSize < 2 ^ 31)
    (hinfo : 0 < ns → off + sizeofPacketSize + sizeofNetInfoSize < 2 ^ 31) (netInfo : NetInfo) :
    getNetInfo binary off = .ok netInfo ↔ 0 < ns ∧ parse (netPart binary off ns) = some netInfo := by
  have hend := h.frameEnd_le
  have hcur : int32 (sizeofPacketSize + off) = (off + sizeofPacketSize : Nat) := by
    rw [int32_of_lt (by omega) (by omega)]; omega
  unfold getNetInfo
  rw [hcur]
  dsimp only
  rw [show readNumber _ _ _ = _ from hns, ok_bind]
  by_cases hpos : 0 < ns
  · have hcur' : int32 ((off + sizeofPacketSize : Nat) + sizeofNetInfoSize)
        = (off + sizeofPacketSize + sizeofNetInfoSize : Nat) := by
      rw [int32_of_lt (by omega) (by have := hinfo hpos; omega)]; omega
    have hread : readBytes binary (off + sizeofPacketSize + sizeofNetInfoSize : Nat) ns
        = .ok (netPart binary off ns) := by
      rw [readBytes, window, if_pos (by unfold frameEnd at hend; omega)]
      rfl
    rw [if_pos hpos, hcur', parseFromArray, hread, ok_bind]
    constructor
    · intro hok
      exact ⟨hpos, orRefuse_eq_ok hok⟩
    · rintro ⟨_, hparse⟩
      rw [hparse]
      rfl
  · rw [if_neg hpos]
    constructor
    · intro hok
      cases hok
    · rintro ⟨hpos', _⟩
      exact absurd hpos' hpos

/-- **`BuildSendPacket` stays inside exactly when what it copies is addressable**, once the inner size
    fits: then the copy ends where the frame does. -/
theorem buildSendPacket_defined_iff (h : CompleteFrame binary off p) (hns : NetSizeIs binary off ns)
    (hfits : sizeofNetInfoSize + ns ≤ p) (stamped : NetInfo) :
    buildSendPacket (binary.take (frameEnd off p)) off stamped ≠ .error .undefined ↔
      (byteSize stamped < 2 ^ 16 → off + sizeofPacketSize + sizeofNetInfoSize + ns < 2 ^ 31) := by
  have hoff := h.offset_lt
  have hlt := h.size_lt
  have hlen := h.length_take
  have hnstake : readNumber sizeofNetInfoSize (binary.take (frameEnd off p)) (off + sizeofPacketSize : Nat)
      = .ok ns := (h.netSizeIs_take ns).mpr ⟨by omega, hns⟩
  have hcopySize : uint32 (p - sizeofNetInfoSize - ns) = p - sizeofNetInfoSize - ns := by
    simp only [uint32, netPacketMaxSize, sizeofNetInfoSize] at *; omega
  unfold buildSendPacket
  rw [h.size_take, ok_bind, show ((off : Int) + sizeofPacketSize) = (off + sizeofPacketSize : Nat) by omega,
    hnstake, ok_bind]
  dsimp only
  rw [hcopySize]
  have hstamped : byteSize stamped ≤ uint16 (byteSize stamped) ↔ byteSize stamped < 2 ^ 16 := by
    unfold uint16; omega
  by_cases hsize : byteSize stamped < 2 ^ 16
  · rw [if_pos (hstamped.mpr hsize), bind_defined_iff, readBytes_int32_defined_iff
      (n := off + sizeofPacketSize + sizeofNetInfoSize + ns) (by omega)
      (by simp only [netPacketMaxSize, sizeofPacketSize, sizeofNetInfoSize] at *; omega), hlen]
    constructor
    · rintro ⟨⟨haddr, _⟩, _⟩ _
      exact haddr
    · intro haddr
      exact ⟨⟨haddr hsize, by unfold frameEnd; omega⟩, fun rest _ => pure_defined _⟩
  · rw [if_neg (fun hle => hsize (hstamped.mp hle))]
    constructor
    · intro _ hsize'
      exact absurd hsize' hsize
    · intro _
      exact refused_defined

/-- **The gateway handles a complete frame as it should exactly when the inner size fits it.** -/
theorem gatewayContained_iff (h : CompleteFrame binary off p) (stamped : NetInfo) :
    GatewayContained binary off p stamped ↔ GatewayFits binary off p stamped := by
  have hlt := h.size_lt
  constructor
  · intro hcontained
    obtain ⟨ns, hns, hfits, haddr, hinfo⟩ :=
      (getNetInfo_defined_iff h).mp ((within_iff (stable_getNetInfo _)).mp hcontained.netInfo)
    refine ⟨ns, hns, hfits, haddr, ?_⟩
    intro hpos
    refine ⟨hinfo hpos, ?_⟩
    intro hparse
    obtain ⟨netInfo, hnetInfo⟩ := Option.ne_none_iff_exists'.mp hparse
    have hok := (getNetInfo_ok_iff h hns hfits haddr hinfo netInfo).mpr ⟨hpos, hnetInfo⟩
    exact (buildSendPacket_defined_iff h hns hfits stamped).mp
      ((within_iff (stable_buildSendPacket _ _)).mp (hcontained.packet netInfo hok))
  · rintro ⟨ns, hns, hfits, haddr, hinfo⟩
    have hinfo' : 0 < ns → off + sizeofPacketSize + sizeofNetInfoSize < 2 ^ 31 :=
      fun hpos => (hinfo hpos).1
    constructor
    · exact (within_iff (stable_getNetInfo _)).mpr
        ((getNetInfo_defined_iff h).mpr ⟨ns, hns, hfits, haddr, hinfo'⟩)
    · intro netInfo hok
      obtain ⟨hpos, hparse⟩ := (getNetInfo_ok_iff h hns hfits haddr hinfo' netInfo).mp hok
      exact (within_iff (stable_buildSendPacket _ _)).mpr
        ((buildSendPacket_defined_iff h hns hfits stamped).mpr
          ((hinfo hpos).2 (by rw [hparse]; simp)))
    · intro netInfo _
      have hcur : uint16 (byteSize stamped) < 2 ^ 16 := Nat.mod_lt _ (by decide)
      unfold netPacketMaxSize at hlt
      exact ⟨ns, hns, hfits, noWrap_of_le (by omega) (by omega), noWrap_of_le (by omega) (by omega)⟩

end RpcRoute

/-- **Malformed frames: rejected or read only inside, exactly when the inner sizes fit.** For every complete
    frame in every buffer, the gateway (with any stamped net info) and `GetMessageFromBinary` (over any net
    info and packet) stay inside the frame, with no size wrapping, exactly when the inner sizes that they
    read fit the size that the frame declares, and for the gateway lie at addressable offsets. -/
theorem frames_contained_iff (h : CompleteFrame binary off p) (stamped netInfo : NetInfo)
    (packet : Option RpcPacket) :
    (RpcRoute.GatewayContained binary off p stamped ↔ RpcRoute.GatewayFits binary off p stamped) ∧
    (MessageContained binary off p netInfo packet ↔ MessageFits binary off p netInfo packet) := by
  constructor
  · exact RpcRoute.gatewayContained_iff h stamped
  · exact messageContained_iff h netInfo packet

end

/-! ## Two frames -/

/-- A heart frame of five bytes behind its size word. -/
def soundFrame : Bytes := [5, 0, 0, 0, 3, 0, 0x08, 0xF2, 0x01]

/-- The same bytes, but the frame declares that it ends behind the size of its net info. -/
def overrunFrame : Bytes := [2, 0, 0, 0, 3, 0, 0x08, 0xF2, 0x01]

theorem frames_contained_heart :
    RpcRoute.GatewayContained soundFrame 0 5 ⟨eNetTypeHeart, []⟩ ∧
      MessageContained soundFrame 0 5 default none := by
  have h : CompleteFrame soundFrame 0 5 := ⟨by decide, by decide, by decide, by decide, by decide⟩
  obtain ⟨hgateway, hmessage⟩ := frames_contained_iff h ⟨eNetTypeHeart, []⟩ default none
  refine ⟨hgateway.mpr ⟨3, ?_⟩, hmessage.mpr ⟨3, ?_⟩⟩
  · exact ⟨rfl, by decide, by decide, fun _ => ⟨by decide, fun _ _ => by decide⟩⟩
  · exact ⟨rfl, by decide, fun hmeta => absurd rfl hmeta.1⟩

/-- The gateway takes the three bytes behind the frame for its net info, and so does the frame reader. -/
theorem frames_not_contained :
    CompleteFrame overrunFrame 0 2 ∧
      RpcRoute.getNetInfo overrunFrame 0 = .ok ⟨eNetTypeHeart, []⟩ ∧
      ¬ RpcRoute.GatewayContained overrunFrame 0 2 ⟨eNetTypeHeart, []⟩ ∧
      ¬ MessageContained overrunFrame 0 2 default none := by
  refine ⟨⟨by decide, by decide, by decide, by decide, by decide⟩, by decide, ?_, ?_⟩
  · intro h
    exact h.netInfo.defined (by decide)
  · intro h
    exact h.within.defined (by decide)

end Frrpc
