import Frrpc.Public.Net
import Frrpc.Public.Serializable

/-!
# `Public.Correctness.Bounds` — which bytes a frame reader looks at

A reader of this model is undefined exactly when it reads outside its buffer. So it can be asked what it
does on the buffer cut off behind a frame: if it is still defined there, every read stayed before the cut,
and the result is the same whatever follows (`Within`, `within_iff`). A reader built from bounds-checked
reads has nothing else to depend on: `Stable` is that property, closed under sequencing, and
`bind_defined_iff` takes a reader apart into its reads.
-/

namespace Frrpc

open Lib

/-! ## Readers that only look inside a prefix -/

section

variable {α β : Type}

/-- A reader that is defined on a buffer does the same when more bytes follow. -/
def Stable (f : Bytes → Except Failure α) : Prop :=
  ∀ bs rest, f bs ≠ .error .undefined → f (bs ++ rest) = f bs

theorem Stable.const (x : Except Failure α) : Stable (fun _ => x) := by
  intro bs rest _
  rfl

theorem Stable.ite {c : Prop} [Decidable c] {f g : Bytes → Except Failure α} (hf : Stable f)
    (hg : Stable g) : Stable (fun bs => if c then f bs else g bs) := by
  intro bs rest hdef
  by_cases hc : c
  · simp only [if_pos hc] at hdef ⊢
    exact hf bs rest hdef
  · simp only [if_neg hc] at hdef ⊢
    exact hg bs rest hdef

theorem pure_defined (a : α) : (pure a : Except Failure α) ≠ .error .undefined := by
  intro h
  cases h

theorem refused_defined : (throw .refused : Except Failure α) ≠ .error .undefined := by
  intro h
  cases h

/-- A sequence is defined when its first step is, and the second is for each result of the first. -/
theorem bind_defined_iff {x : Except Failure α} {f : α → Except Failure β} :
    (x >>= f) ≠ .error .undefined ↔
      x ≠ .error .undefined ∧ ∀ a, x = .ok a → f a ≠ .error .undefined := by
  cases x with
  | ok a =>
    rw [ok_bind]
    constructor
    · intro h
      refine ⟨by simp, ?_⟩
      intro b hb
      cases hb
      exact h
    · intro h
      exact h.2 a rfl
  | error e =>
    rw [error_bind]
    constructor
    · intro h
      refine ⟨by simpa using h, ?_⟩
      intro b hb
      cases hb
    · intro h
      simpa using h.1

theorem Stable.bind {f : Bytes → Except Failure α} {g : α → Bytes → Except Failure β} (hf : Stable f)
    (hg : ∀ a, Stable (g a)) : Stable (fun bs => f bs >>= fun a => g a bs) := by
  intro bs rest hdef
  obtain ⟨hfirst, hsecond⟩ := bind_defined_iff.mp hdef
  show (f (bs ++ rest) >>= fun a => g a (bs ++ rest)) = f bs >>= fun a => g a bs
  rw [hf bs rest hfirst]
  cases hx : f bs with
  | ok a => exact hg a bs rest (hsecond a hx)
  | error e => rfl

theorem readBytes_defined_iff {bs : Bytes} {off : Int} {n : Nat} :
    readBytes bs off n ≠ .error .undefined ↔ 0 ≤ off ∧ off + n ≤ bs.length := by
  rw [← window_isSome_iff, readBytes]
  cases window bs off n <;> simp [orUndefined]

theorem readNumber_defined_iff {bs : Bytes} {off : Int} {w : Nat} :
    readNumber w bs off ≠ .error .undefined ↔ 0 ≤ off ∧ off + w ≤ bs.length := by
  rw [← window_isSome_iff, readNumber, wordAt]
  cases window bs off w <;> simp [orUndefined]

theorem Stable.readBytes (off : Int) (n : Nat) : Stable (fun bs => readBytes bs off n) := by
  intro bs rest hdef
  exact congrArg orUndefined (window_append_right (readBytes_defined_iff.mp hdef) rest)

theorem Stable.readNumber (w : Nat) (off : Int) : Stable (fun bs => readNumber w bs off) := by
  intro bs rest hdef
  have hwindow := window_append_right (readNumber_defined_iff.mp hdef) rest
  exact congrArg (fun word => orUndefined (Option.map ofLe word)) hwindow

theorem Stable.parseFromArray [Inhabited α] [PbMessage α] (off : Int) (n : Nat) :
    Stable (fun bs => (parseFromArray bs off n : Except Failure α)) :=
  (Stable.readBytes off n).bind fun bytes => Stable.const (orRefuse (parse bytes))

theorem orRefuse_defined (x : Option α) : orRefuse x ≠ .error .undefined := by
  cases x <;> simp [orRefuse]

theorem orRefuse_eq_ok {x : Option α} {a : α} (h : orRefuse x = .ok a) : x = some a := by
  cases x with
  | none => cases h
  | some b => cases h; rfl

theorem parseFromArray_defined_iff [Inhabited α] [PbMessage α] {bs : Bytes} {off : Int} {n : Nat} :
    (parseFromArray bs off n : Except Failure α) ≠ .error .undefined ↔ 0 ≤ off ∧ off + n ≤ bs.length := by
  rw [Frrpc.parseFromArray, bind_defined_iff, readBytes_defined_iff]
  constructor
  · intro h
    exact h.1
  · intro h
    exact ⟨h, fun bytes _ => orRefuse_defined _⟩

/-- **A reader stays within the first `stop` bytes**: with nothing behind them it is defined, so no read
    went past them, and what follows them does not matter. -/
structure Within (f : Bytes → Except Failure α) (binary : Bytes) (stop : Nat) : Prop where
  defined : f (binary.take stop) ≠ .error .undefined
  same : ∀ rest, f (binary.take stop ++ rest) = f (binary.take stop)

theorem within_iff {f : Bytes → Except Failure α} (hf : Stable f) {binary : Bytes} {stop : Nat} :
    Within f binary stop ↔ f (binary.take stop) ≠ .error .undefined := by
  constructor
  · intro h
    exact h.defined
  · intro h
    exact ⟨h, fun rest => hf _ rest h⟩

theorem Within.eq {f : Bytes → Except Failure α} {binary : Bytes} {stop : Nat} (h : Within f binary stop) :
    f binary = f (binary.take stop) := by
  have hsame := h.same (binary.drop stop)
  rwa [List.take_append_drop] at hsame

/-- A read before the cut sees the same bytes. -/
theorem window_take {binary : Bytes} {off : Int} {n stop : Nat} (hoff : 0 ≤ off) (h : off + n ≤ stop)
    (hstop : stop ≤ binary.length) : window (binary.take stop) off n = window binary off n := by
  have hlen : off + n ≤ (binary.take stop).length := by
    rw [List.length_take]; omega
  rw [← window_append_right ⟨hoff, hlen⟩ (binary.drop stop), List.take_append_drop]

theorem readNumber_take {binary : Bytes} {off : Int} {w stop : Nat} (hoff : 0 ≤ off) (h : off + w ≤ stop)
    (hstop : stop ≤ binary.length) :
    readNumber w (binary.take stop) off = readNumber w binary off := by
  rw [Frrpc.readNumber, Frrpc.readNumber, wordAt, wordAt, window_take hoff h hstop]

theorem readNumber_lt {w n : Nat} {bs : Bytes} {off : Int} (h : readNumber w bs off = .ok n) :
    n < 256 ^ w := by
  unfold Frrpc.readNumber at h
  cases hword : wordAt w bs off with
  | none => rw [hword] at h; cases h
  | some m =>
    rw [hword] at h
    cases h
    exact wordAt_lt hword

/-- Either a number is there or the read is undefined. -/
theorem readNumber_of_defined {w : Nat} {bs : Bytes} {off : Int}
    (h : readNumber w bs off ≠ .error .undefined) : ∃ n, readNumber w bs off = .ok n := by
  unfold Frrpc.readNumber at h ⊢
  cases hword : wordAt w bs off with
  | none => rw [hword] at h; exact absurd rfl h
  | some n => exact ⟨n, rfl⟩

end

/-! ## Complete frames -/

/-- **A frame that an `OnReceive` treats as complete**, at the `int32_t` offset `off`: its size word passes
    the checks on the size and on what is left of the buffer. -/
structure CompleteFrame (binary : Bytes) (off p : Nat) : Prop where
  size : readNumber sizeofPacketSize binary off = .ok p
  size_pos : 0 < p
  size_lt : p < netPacketMaxSize
  available : off + sizeofPacketSize + p ≤ binary.length
  offset_lt : off < 2 ^ 31

/-- The end that a frame declares. -/
def frameEnd (off p : Nat) : Nat := off + sizeofPacketSize + p

/-- An unsigned 32-bit difference that does not wrap below zero. -/
def NoWrap (n : Int) : Prop := (uint32 n : Int) = n

theorem noWrap_of_le {n : Int} (hnonneg : 0 ≤ n) (hlt : n < 2 ^ 32) : NoWrap n := by
  unfold NoWrap uint32
  omega

/-- The size of the net info, as the frame spells it. -/
def NetSizeIs (binary : Bytes) (off ns : Nat) : Prop :=
  readNumber sizeofNetInfoSize binary (off + sizeofPacketSize : Nat) = .ok ns

/-- The bytes of the net info. -/
def netPart (binary : Bytes) (off ns : Nat) : Bytes :=
  (binary.drop (off + sizeofPacketSize + sizeofNetInfoSize)).take ns

/-- The size of the meta, behind a net info of `ns` bytes. -/
def MetaSizeIs (binary : Bytes) (off ns ms : Nat) : Prop :=
  readNumber sizeofRpcMetaSize binary (off + sizeofPacketSize + sizeofNetInfoSize + ns : Nat) = .ok ms

namespace CompleteFrame

variable {binary : Bytes} {off p : Nat}

theorem frameEnd_le (h : CompleteFrame binary off p) : frameEnd off p ≤ binary.length := h.available

theorem length_take (h : CompleteFrame binary off p) :
    (binary.take (frameEnd off p)).length = frameEnd off p := by
  rw [List.length_take, Nat.min_eq_left h.frameEnd_le]

theorem size_take (h : CompleteFrame binary off p) :
    readNumber sizeofPacketSize (binary.take (frameEnd off p)) off = .ok p := by
  rw [readNumber_take (by omega) (by unfold frameEnd; omega) h.frameEnd_le]
  exact h.size

/-- Cutting behind the frame leaves its size words readable when they are inside. -/
theorem netSizeIs_take (h : CompleteFrame binary off p) (ns : Nat) :
    NetSizeIs (binary.take (frameEnd off p)) off ns ↔ sizeofNetInfoSize ≤ p ∧ NetSizeIs binary off ns := by
  unfold NetSizeIs
  constructor
  · intro hns
    have hdef := readNumber_defined_iff.mp (show readNumber _ _ _ ≠ .error .undefined by rw [hns]; simp)
    rw [h.length_take] at hdef
    have hfits : sizeofNetInfoSize ≤ p := by unfold frameEnd at hdef; omega
    rw [readNumber_take (by omega) (by unfold frameEnd; omega) h.frameEnd_le] at hns
    exact ⟨hfits, hns⟩
  · rintro ⟨hfits, hns⟩
    rw [readNumber_take (by omega) (by unfold frameEnd; omega) h.frameEnd_le]
    exact hns

theorem metaSizeIs_take (h : CompleteFrame binary off p) (ns ms : Nat) :
    MetaSizeIs (binary.take (frameEnd off p)) off ns ms ↔
      sizeofNetInfoSize + ns + sizeofRpcMetaSize ≤ p ∧ MetaSizeIs binary off ns ms := by
  unfold MetaSizeIs
  constructor
  · intro hms
    have hdef := readNumber_defined_iff.mp (show readNumber _ _ _ ≠ .error .undefined by rw [hms]; simp)
    rw [h.length_take] at hdef
    have hfits : sizeofNetInfoSize + ns + sizeofRpcMetaSize ≤ p := by unfold frameEnd at hdef; omega
    rw [readNumber_take (by omega) (by unfold frameEnd; omega) h.frameEnd_le] at hms
    exact ⟨hfits, hms⟩
  · rintro ⟨hfits, hms⟩
    rw [readNumber_take (by omega) (by unfold frameEnd; omega) h.frameEnd_le]
    exact hms

end CompleteFrame

/-! ## `GetMessageFromBinary` -/

section

variable [Protobuf]

/-- The net info that a frame yields: an empty net part leaves the one passed in. -/
def frameNetInfo (binary : Bytes) (off ns : Nat) (netInfo : NetInfo) : Option NetInfo :=
  if 0 < ns then parse (netPart binary off ns) else some netInfo

/-- A frame with meta, as `GetMessageFromBinary` sees it: a net type up to `eNetType_Special`, and a packet
    to put the meta in. -/
def HasMeta (binary : Bytes) (off ns : Nat) (netInfo : NetInfo) (packet : Option RpcPacket) : Prop :=
  packet ≠ none ∧
    ∃ info, frameNetInfo binary off ns netInfo = some info ∧ info.netType ≤ eNetTypeSpecial

/-- **The inner sizes fit the frame**: the net info, and in a frame with meta the meta as well. -/
def MessageFits (binary : Bytes) (off p : Nat) (netInfo : NetInfo) (packet : Option RpcPacket) : Prop :=
  ∃ ns, NetSizeIs binary off ns ∧ sizeofNetInfoSize + ns ≤ p ∧
    (HasMeta binary off ns netInfo packet → ∃ ms, MetaSizeIs binary off ns ms ∧
      sizeofNetInfoSize + ns + sizeofRpcMetaSize + ms ≤ p)

/-- **What the frame reader may do with a complete frame**: it stays inside the frame, and when it takes the
    frame the inner sizes fit the declared one and the body size is their true difference. -/
structure MessageContained (binary : Bytes) (off p : Nat) (netInfo : NetInfo)
    (packet : Option RpcPacket) : Prop where
  within : Within (fun bs => getMessageFromBinary bs off netInfo packet) binary (frameEnd off p)
  sizes : ∀ info packet', getMessageFromBinary binary off netInfo packet = .ok (info, packet') →
    ∃ ns, NetSizeIs binary off ns ∧ sizeofNetInfoSize + ns ≤ p ∧
      (info.netType ≤ eNetTypeSpecial → ∃ ms, MetaSizeIs binary off ns ms ∧
        sizeofNetInfoSize + ns + sizeofRpcMetaSize + ms ≤ p ∧
        NoWrap (p - sizeofNetInfoSize - ns - sizeofRpcMetaSize - ms))

theorem Stable.getNetInfoOver (off n : Nat) (netInfo : NetInfo) :
    Stable (fun bs => getNetInfoOver bs off n netInfo) :=
  Stable.ite (Stable.parseFromArray off n) (Stable.const (.ok netInfo))

theorem Stable.getMetaAndBinary (off p ns : Nat) (packet : RpcPacket) :
    Stable (fun bs => getMetaAndBinary bs off p ns packet) := by
  unfold Frrpc.getMetaAndBinary
  apply Stable.bind (Stable.readNumber _ _)
  intro metaSize
  apply Stable.ite
  · apply Stable.bind (Stable.parseFromArray _ _)
    intro rpcMeta
    apply Stable.ite
    · apply Stable.bind (Stable.readBytes _ _)
      intro body
      exact Stable.const _
    · exact Stable.const _
  · exact Stable.const _

theorem Stable.getMessageFromBinary (off : Int) (netInfo : NetInfo) (packet : Option RpcPacket) :
    Stable (fun bs => getMessageFromBinary bs off netInfo packet) := by
  unfold Frrpc.getMessageFromBinary
  apply Stable.bind (Stable.readNumber _ _)
  intro packetSize
  apply Stable.bind (Stable.readNumber _ _)
  intro netSize
  apply Stable.bind (Stable.getNetInfoOver _ _ _)
  intro info
  apply Stable.ite
  · apply Stable.bind (Stable.const _)
    intro packet
    apply Stable.bind (Stable.getMetaAndBinary _ _ _ _)
    intro packet
    exact Stable.const _
  · exact Stable.const _

variable {binary : Bytes} {off p ns : Nat}

/-- The net part is parsed in place. -/
theorem getNetInfoOver_defined_iff (h : CompleteFrame binary off p) (hheader : sizeofNetInfoSize ≤ p)
    {netInfo : NetInfo} :
    getNetInfoOver (binary.take (frameEnd off p)) (off + sizeofPacketSize + sizeofNetInfoSize) ns netInfo
      ≠ .error .undefined ↔ sizeofNetInfoSize + ns ≤ p := by
  unfold getNetInfoOver
  by_cases hns : 0 < ns
  · rw [if_pos hns, parseFromArray_defined_iff, h.length_take]
    unfold frameEnd
    omega
  · rw [if_neg hns]
    have hzero : ns = 0 := by omega
    simp [hzero, hheader]

theorem getNetInfoOver_take (h : CompleteFrame binary off p) (hfits : sizeofNetInfoSize + ns ≤ p)
    {netInfo : NetInfo} :
    getNetInfoOver (binary.take (frameEnd off p)) (off + sizeofPacketSize + sizeofNetInfoSize) ns netInfo
      = orRefuse (frameNetInfo binary off ns netInfo) := by
  have hlen := h.frameEnd_le
  unfold getNetInfoOver frameNetInfo
  by_cases hns : 0 < ns
  · have hwindow : window (binary.take (frameEnd off p))
        (off + sizeofPacketSize + sizeofNetInfoSize : Nat) ns = some (netPart binary off ns) := by
      rw [window_take (by omega) (by unfold frameEnd; omega) hlen, window,
        if_pos (by unfold frameEnd at hlen; omega)]
      rfl
    rw [if_pos hns, if_pos hns, parseFromArray, readBytes, hwindow]
    rfl
  · rw [if_neg hns, if_neg hns]
    rfl

/-- **The meta and the body stay inside the frame exactly when the sizes say so**: the body is what the
    other sizes leave, so it ends where the frame does. -/
theorem getMetaAndBinary_defined_iff (h : CompleteFrame binary off p) (hns : ns < 2 ^ 16)
    {packet : RpcPacket} :
    getMetaAndBinary (binary.take (frameEnd off p)) (off + sizeofPacketSize + sizeofNetInfoSize + ns) p ns
      packet ≠ .error .undefined ↔
    ∃ ms, MetaSizeIs binary off ns ms ∧ sizeofNetInfoSize + ns + sizeofRpcMetaSize + ms ≤ p := by
  have hoff := h.offset_lt
  have hcur : uint32 ((off + sizeofPacketSize + sizeofNetInfoSize + ns : Nat) + sizeofRpcMetaSize)
      = off + sizeofPacketSize + sizeofNetInfoSize + ns + sizeofRpcMetaSize := by
    simp only [uint32, sizeofPacketSize, sizeofNetInfoSize, sizeofRpcMetaSize]; omega
  unfold getMetaAndBinary
  rw [bind_defined_iff]
  constructor
  · rintro ⟨hword, hrest⟩
    obtain ⟨ms, hms⟩ := readNumber_of_defined hword
    obtain ⟨hword, hms'⟩ := (h.metaSizeIs_take ns ms).mp hms
    refine ⟨ms, hms', ?_⟩
    have hrest := hrest ms hms
    by_cases hpos : 0 < ms
    · rw [if_pos hpos, bind_defined_iff, hcur, parseFromArray_defined_iff, h.length_take] at hrest
      have hmeta := hrest.1.2
      unfold frameEnd at hmeta
      omega
    · omega
  · rintro ⟨ms, hms, hfits⟩
    have hmstake : MetaSizeIs (binary.take (frameEnd off p)) off ns ms :=
      (h.metaSizeIs_take ns ms).mpr ⟨by omega, hms⟩
    have hmslt : ms < 256 ^ sizeofRpcMetaSize := readNumber_lt hms
    refine ⟨?_, ?_⟩
    · rw [show readNumber _ _ _ = _ from hmstake]; simp
    · intro ms' hms'
      cases Except.ok.inj (hmstake.symm.trans hms')
      by_cases hpos : 0 < ms
      · rw [if_pos hpos, bind_defined_iff, hcur, parseFromArray_defined_iff, h.length_take]
        refine ⟨⟨by omega, by unfold frameEnd; omega⟩, ?_⟩
        intro rpcMeta _
        -- with the sizes in order neither the offset nor the body size wraps
        have hcur' : uint32 ((off + sizeofPacketSize + sizeofNetInfoSize + ns + sizeofRpcMetaSize : Nat) + ms)
            = off + sizeofPacketSize + sizeofNetInfoSize + ns + sizeofRpcMetaSize + ms := by
          simp only [uint32, sizeofPacketSize, sizeofNetInfoSize, sizeofRpcMetaSize] at *; omega
        have hbody : uint32 (p - sizeofNetInfoSize - ns - sizeofRpcMetaSize - ms)
            = p - sizeofNetInfoSize - ns - sizeofRpcMetaSize - ms := by
          have hlt := h.size_lt
          simp only [uint32, netPacketMaxSize, sizeofNetInfoSize, sizeofRpcMetaSize] at *; omega
        rw [hcur', hbody]
        dsimp only
        split
        · rw [bind_defined_iff, readBytes_defined_iff, h.length_take]
          exact ⟨⟨by omega, by unfold frameEnd; omega⟩, fun body _ => pure_defined _⟩
        · exact pure_defined _
      · rw [if_neg hpos]
        exact refused_defined

/-- `GetMessageFromBinary` on a complete frame, cut off behind it: the header's offsets do not wrap. -/
theorem getMessageFromBinary_take (h : CompleteFrame binary off p) (netInfo : NetInfo)
    (packet : Option RpcPacket) :
    getMessageFromBinary (binary.take (frameEnd off p)) off netInfo packet = (do
      let netSize ← readNumber sizeofNetInfoSize (binary.take (frameEnd off p)) (off + sizeofPacketSize : Nat)
      let info ← getNetInfoOver (binary.take (frameEnd off p))
        (off + sizeofPacketSize + sizeofNetInfoSize) netSize netInfo
      if info.netType ≤ eNetTypeSpecial then
        let packet ← orRefuse packet
        let packet ← getMetaAndBinary (binary.take (frameEnd off p))
          (uint32 ((off + sizeofPacketSize + sizeofNetInfoSize : Nat) + netSize)) p netSize packet
        return (info, some packet)
      else return (info, packet)) := by
  have hoff := h.offset_lt
  have hcur : uint32 (sizeofPacketSize + (off : Int)) = off + sizeofPacketSize := by
    simp only [uint32, sizeofPacketSize]; omega
  have hcur' : uint32 ((off + sizeofPacketSize : Nat) + sizeofNetInfoSize)
      = off + sizeofPacketSize + sizeofNetInfoSize := by
    simp only [uint32, sizeofPacketSize, sizeofNetInfoSize]; omega
  unfold getMessageFromBinary
  rw [h.size_take, ok_bind, hcur]
  dsimp only
  rw [hcur']

omit [Protobuf] in
/-- The offset behind the net info does not wrap either. -/
theorem metaOffset (h : CompleteFrame binary off p) (hns : NetSizeIs binary off ns) :
    uint32 ((off + sizeofPacketSize + sizeofNetInfoSize : Nat) + ns)
      = off + sizeofPacketSize + sizeofNetInfoSize + ns := by
  have hoff := h.offset_lt
  have hlt : ns < 256 ^ sizeofNetInfoSize := readNumber_lt hns
  simp only [uint32, sizeofPacketSize, sizeofNetInfoSize] at *
  omega

/-- **`GetMessageFromBinary` stays inside a complete frame exactly when the inner sizes fit it.** -/
theorem getMessageFromBinary_within_iff (h : CompleteFrame binary off p) (netInfo : NetInfo)
    (packet : Option RpcPacket) :
    Within (fun bs => getMessageFromBinary bs off netInfo packet) binary (frameEnd off p) ↔
      MessageFits binary off p netInfo packet := by
  rw [within_iff (Stable.getMessageFromBinary _ _ _), getMessageFromBinary_take h, bind_defined_iff]
  constructor
  · rintro ⟨hword, hrest⟩
    obtain ⟨ns, hns⟩ := readNumber_of_defined hword
    obtain ⟨hheader, hns'⟩ := (h.netSizeIs_take ns).mp hns
    have hrest := hrest ns hns
    rw [bind_defined_iff, getNetInfoOver_defined_iff h hheader] at hrest
    obtain ⟨hfits, hrest⟩ := hrest
    refine ⟨ns, hns', hfits, ?_⟩
    rintro ⟨hpacket, info, hinfo, htype⟩
    obtain ⟨packet, rfl⟩ := Option.ne_none_iff_exists'.mp hpacket
    have hrest := hrest info (by rw [getNetInfoOver_take h hfits, hinfo]; rfl)
    rw [if_pos htype, show orRefuse (some packet) = .ok packet from rfl, ok_bind, metaOffset h hns',
      bind_defined_iff, getMetaAndBinary_defined_iff h (readNumber_lt hns')] at hrest
    exact hrest.1
  · rintro ⟨ns, hns, hfits, hmeta⟩
    have hnstake : NetSizeIs (binary.take (frameEnd off p)) off ns :=
      (h.netSizeIs_take ns).mpr ⟨by omega, hns⟩
    refine ⟨?_, ?_⟩
    · rw [show readNumber _ _ _ = _ from hnstake]; simp
    · intro ns' hns'
      cases Except.ok.inj (hnstake.symm.trans hns')
      rw [bind_defined_iff, getNetInfoOver_take h hfits]
      refine ⟨orRefuse_defined _, ?_⟩
      intro info hinfo
      split
      · rename_i htype
        cases hpacket : packet with
        | none => simp [orRefuse]
        | some packet =>
          have hsizes := hmeta ⟨by simp [hpacket], info, orRefuse_eq_ok hinfo, htype⟩
          rw [show orRefuse (some packet) = .ok packet from rfl, ok_bind, metaOffset h hns,
            bind_defined_iff, getMetaAndBinary_defined_iff h (readNumber_lt hns)]
          exact ⟨hsizes, fun packet _ => pure_defined _⟩
      · exact pure_defined _

/-- A frame that is taken with a net type up to `eNetType_Special` is a frame with meta. -/
theorem hasMeta_of_accepted (h : CompleteFrame binary off p) (hfits : sizeofNetInfoSize + ns ≤ p)
    (hns : NetSizeIs binary off ns) {netInfo info : NetInfo} {packet packet' : Option RpcPacket}
    (hok : getMessageFromBinary (binary.take (frameEnd off p)) off netInfo packet = .ok (info, packet'))
    (htype : info.netType ≤ eNetTypeSpecial) : HasMeta binary off ns netInfo packet := by
  have hnstake : readNumber sizeofNetInfoSize (binary.take (frameEnd off p)) (off + sizeofPacketSize : Nat)
      = .ok ns := (h.netSizeIs_take ns).mpr ⟨by omega, hns⟩
  rw [getMessageFromBinary_take h, hnstake, ok_bind, getNetInfoOver_take h hfits] at hok
  obtain ⟨info', hinfo', hok⟩ := bind_eq_ok.mp hok
  have hinfo := orRefuse_eq_ok hinfo'
  by_cases htype' : info'.netType ≤ eNetTypeSpecial
  · rw [if_pos htype'] at hok
    obtain ⟨packet₀, hpacket, _⟩ := bind_eq_ok.mp hok
    exact ⟨by rw [orRefuse_eq_ok hpacket]; simp, info', hinfo, htype'⟩
  · rw [if_neg htype'] at hok
    cases hok
    exact absurd htype htype'

/-- **`GetMessageFromBinary` handles a complete frame as it should exactly when the inner sizes fit it.** -/
theorem messageContained_iff (h : CompleteFrame binary off p) (netInfo : NetInfo)
    (packet : Option RpcPacket) :
    MessageContained binary off p netInfo packet ↔ MessageFits binary off p netInfo packet := by
  constructor
  · intro hcontained
    exact (getMessageFromBinary_within_iff h netInfo packet).mp hcontained.within
  · intro hfits
    have hwithin := (getMessageFromBinary_within_iff h netInfo packet).mpr hfits
    obtain ⟨ns, hns, hle, hmeta⟩ := hfits
    refine ⟨hwithin, ?_⟩
    intro info packet' hok
    refine ⟨ns, hns, hle, ?_⟩
    intro htype
    rw [show getMessageFromBinary binary off netInfo packet = _ from hwithin.eq] at hok
    obtain ⟨ms, hms, hsum⟩ := hmeta (hasMeta_of_accepted h hle hns hok htype)
    have hlt := h.size_lt
    unfold netPacketMaxSize at hlt
    exact ⟨ms, hms, hsum, noWrap_of_le (by omega) (by omega)⟩

end

end Frrpc
