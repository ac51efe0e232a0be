import Mathlib.Logic.Relation
import Frrpc.Public.Correctness.Bounds
import Frrpc.Rpc.Correctness.Body

/-!
# `Rpc.Correctness.Framing` — whether the two endpoints find the same frames

Both `OnReceive` loops check the same things, but a channel checks the size limits before it looks whether
the frame is complete, and a server after. So they agree on every buffer of frames that decode, up to a
frame that is too large and not complete yet: there the channel gives up and the server waits for more
(`framing_agrees_iff`).
-/

namespace Frrpc

open Lib

/-! ## The frames of a call -/

/-- The frames that a call has taken: the offset of each, and the size it declares. -/
abbrev FrameLog := List (Int × Nat)

/-- An endpoint's handling of one frame, with what it takes on record. -/
def logFrames {σ : Type} (one : σ → Int → Nat → Except Failure (Option (σ × Nat)))
    (s : σ × FrameLog) (offset : Int) (readSize : Nat) : Except Failure (Option ((σ × FrameLog) × Nat)) :=
  match one s.1 offset readSize with
  | .error e => .error e
  | .ok none => .ok none
  | .ok (some (s', size)) => .ok (some ((s', s.2 ++ [(offset, size)]), size))

/-- The record changes nothing else. -/
theorem receiveLoop_logFrames {σ : Type} (left : Int → Nat → Nat)
    (one : σ → Int → Nat → Except Failure (Option (σ × Nat))) (fuel : Nat) (s : σ) (log : FrameLog)
    (offset : Int) (readSize : Nat) :
    (receiveLoop left (logFrames one) fuel (s, log) offset readSize).readSize
        = (receiveLoop left one fuel s offset readSize).readSize ∧
      (receiveLoop left (logFrames one) fuel (s, log) offset readSize).result
        = (receiveLoop left one fuel s offset readSize).result := by
  induction fuel generalizing s log offset readSize with
  | zero => exact ⟨rfl, rfl⟩
  | succ fuel ih =>
    unfold receiveLoop
    split
    · unfold logFrames
      cases one s offset readSize with
      | error e => exact ⟨rfl, rfl⟩
      | ok taken =>
        cases taken with
        | none => exact ⟨rfl, rfl⟩
        | some next => exact ih next.1 (log ++ [(offset, next.2)]) _ _
    · exact ⟨rfl, rfl⟩

section

variable [Protobuf]

/-- A server's loop over `binary`, with its record. -/
def serverLoop (routeId : RouteID) (binary : Bytes) (fuel : Nat) (s : RpcServerRoute × FrameLog)
    (offset : Int) (readSize : Nat) : Reception (RpcServerRoute × FrameLog) :=
  receiveLoop (fun offset _ => sizeSub binary.length offset)
    (logFrames fun s offset readSize => s.receiveOne routeId binary offset readSize) fuel s offset readSize

/-- A channel's loop over `binary`, with its record. -/
def channelLoop (binary : Bytes) (fuel : Nat) (c : RpcChannelRoute × FrameLog) (offset : Int)
    (readSize : Nat) : Reception (RpcChannelRoute × FrameLog) :=
  receiveLoop (fun _ readSize => sizeSub binary.length readSize)
    (logFrames fun c offset readSize => c.receiveOne binary offset readSize) fuel c offset readSize

/-- The frames that `RpcServer_Route_Client::OnReceive` extracts. -/
def RpcServerRoute.frames (s : RpcServerRoute) (routeId : RouteID) (binary : Bytes) : FrameLog :=
  (serverLoop routeId binary (binary.length + 1) (s, []) 0 0).state.2

/-- The frames that `RpcChannel_Route::OnReceive` extracts. -/
def RpcChannelRoute.frames (c : RpcChannelRoute) (binary : Bytes) : FrameLog :=
  (channelLoop binary (binary.length + 1) (c, []) 0 0).state.2

/-! ## Buffers of frames that decode -/

/-- More than a size word is there at `pos`, and it declares `size`. -/
structure HeaderIs (binary : Bytes) (pos size : Nat) : Prop where
  present : pos + sizeofPacketSize < binary.length
  size : readNumber sizeofPacketSize binary pos = .ok size

/-- The complete frame of an admissible size at `pos` ends at `pos'`. -/
def NextFrame (binary : Bytes) (pos pos' : Nat) : Prop :=
  ∃ size, CompleteFrame binary pos size ∧ pos' = frameEnd pos size

/-- Complete frames of admissible sizes lead from one position to another. -/
def Leads (binary : Bytes) (pos pos' : Nat) : Prop := Relation.ReflTransGen (NextFrame binary) pos pos'

/-- They lead from the start of the buffer to `pos`. -/
def FrameStart (binary : Bytes) (pos : Nat) : Prop := Leads binary 0 pos

/-- The frame at `pos` is a route frame with a route info and a body, or a heart frame. -/
def Decodes (binary : Bytes) (pos : Nat) : Prop :=
  ∃ netInfo packet,
    getMessageFromBinary binary pos default (some (.new 0 .method)) = .ok (netInfo, some packet) ∧
    ((netInfo.netType = eNetTypeRoute ∧ packet.binary ≠ none ∧
        ∃ routeNetInfo : RouteNetInfo, parse netInfo.netBinary = some routeNetInfo) ∨
      netInfo.netType = eNetTypeHeart)

/-- Every complete frame of an admissible size decodes. -/
def FramesDecode (binary : Bytes) : Prop :=
  ∀ pos size, FrameStart binary pos → CompleteFrame binary pos size → Decodes binary pos

/-- A header at `pos` declares no size or one over the limit. -/
def BadHeader (binary : Bytes) (pos : Nat) : Prop :=
  ∃ size, HeaderIs binary pos size ∧ (size = 0 ∨ netPacketMaxSize ≤ size)

/-- What is at `pos` is within an `int32_t`, and no frame that is too large and not complete. -/
def Clear (binary : Bytes) (pos : Nat) : Prop :=
  pos < 2 ^ 31 ∧
    ∀ size, HeaderIs binary pos size → netPacketMaxSize ≤ size → frameEnd pos size ≤ binary.length

/-- **The endpoints agree on a buffer**: both calls have a result, and it is the same, they have read as
    much, and taken the same frames; and both reject a bad size as soon as they see it. -/
structure SameFraming (s : RpcServerRoute) (routeId : RouteID) (c : RpcChannelRoute) (binary : Bytes) :
    Prop where
  defined : (s.onReceive routeId binary).result ≠ .error .undefined
  verdict : (s.onReceive routeId binary).result = (c.onReceive binary).result
  readSize : (s.onReceive routeId binary).readSize = (c.onReceive binary).readSize
  frames : s.frames routeId binary = c.frames binary
  rejected : ∀ pos, FrameStart binary pos → BadHeader binary pos →
    (s.onReceive routeId binary).result = .error .refused ∧ (c.onReceive binary).result = .error .refused

variable {binary : Bytes} {pos size : Nat}

omit [Protobuf] in
theorem CompleteFrame.header (h : CompleteFrame binary pos size) : HeaderIs binary pos size := by
  have havailable := h.available
  have hpos := h.size_pos
  exact ⟨by omega, h.size⟩

omit [Protobuf] in
/-- More than a size word always shows a size. -/
theorem exists_header (h : pos + sizeofPacketSize < binary.length) : ∃ size, HeaderIs binary pos size := by
  have hdefined : readNumber sizeofPacketSize binary pos ≠ .error .undefined :=
    readNumber_defined_iff.mpr ⟨by omega, by omega⟩
  obtain ⟨size, hsize⟩ := readNumber_of_defined hdefined
  exact ⟨size, h, hsize⟩

omit [Protobuf] in
theorem HeaderIs.unique {size' : Nat} (h : HeaderIs binary pos size) (h' : HeaderIs binary pos size') :
    size = size' := Except.ok.inj (h.size.symm.trans h'.size)

omit [Protobuf] in
/-- Behind a complete frame lies where it ends, and no other frame starts before. -/
theorem nextFrame_iff (h : CompleteFrame binary pos size) {pos' : Nat} :
    NextFrame binary pos pos' ↔ pos' = frameEnd pos size := by
  constructor
  · rintro ⟨size', h', rfl⟩
    rw [h.header.unique h'.header]
  · intro hpos'
    exact ⟨size, h, hpos'⟩

omit [Protobuf] in
theorem frameEnd_eq (pos size : Nat) : pos + (size + sizeofPacketSize) = frameEnd pos size := by
  unfold frameEnd
  omega

omit [Protobuf] in
theorem frameEnd_cast (pos size : Nat) : (pos : Int) + (size + sizeofPacketSize) = frameEnd pos size := by
  unfold frameEnd
  omega

/-! ## What a server does at a position -/

section Server

variable {routeId : RouteID} {fuel : Nat} {s : RpcServerRoute} {log : FrameLog}

/-- With no more than a size word left, a server's call ends. -/
theorem serverLoop_short (h : binary.length ≤ pos + sizeofPacketSize) (hpos : pos ≤ binary.length) :
    serverLoop routeId binary (fuel + 1) (s, log) pos pos = ⟨(s, log), pos, .ok ()⟩ := by
  rw [serverLoop, receiveLoop, sizeSub_of_le hpos, if_neg (by omega)]

/-- It looks at the frame's length first. -/
theorem serverLoop_incomplete (h : HeaderIs binary pos size) (hlength : binary.length < frameEnd pos size) :
    serverLoop routeId binary (fuel + 1) (s, log) pos pos = ⟨(s, log), pos, .ok ()⟩ := by
  have hpresent := h.present
  unfold frameEnd at hlength
  rw [serverLoop, receiveLoop, sizeSub_of_le (by omega), if_pos (by omega), logFrames,
    RpcServerRoute.receiveOne, h.size, ok_bind, sizeSub_of_le (by omega), if_pos (by omega)]
  rfl

/-- Then at the limits on its size. -/
theorem serverLoop_refused (h : HeaderIs binary pos size) (hlength : frameEnd pos size ≤ binary.length)
    (hbad : size = 0 ∨ netPacketMaxSize ≤ size) :
    serverLoop routeId binary (fuel + 1) (s, log) pos pos = ⟨(s, log), pos, .error .refused⟩ := by
  have hpresent := h.present
  unfold frameEnd at hlength
  rw [serverLoop, receiveLoop, sizeSub_of_le (by omega), if_pos (by omega), logFrames,
    RpcServerRoute.receiveOne, h.size, ok_bind, sizeSub_of_le (by omega), if_neg (by omega)]
  by_cases hmax : netPacketMaxSize ≤ size
  · rw [if_pos hmax]
    rfl
  · rw [if_neg hmax, if_pos (hbad.resolve_right hmax)]
    rfl

/-- A route frame is queued, a heart frame is not. -/
theorem RpcServerRoute.takeFrame_decodes (h : Decodes binary pos) (routeId : RouteID) (s : RpcServerRoute) :
    ∃ s', s.takeFrame routeId binary pos = .ok s' := by
  obtain ⟨netInfo, packet, hmessage, hkind⟩ := h
  rw [takeFrame, hmessage, ok_bind]
  show ∃ s', s.dispatch routeId netInfo packet = .ok s'
  rcases hkind with ⟨htype, hbinary, routeNetInfo, hparse⟩ | htype
  · obtain ⟨body, hbody⟩ := Option.ne_none_iff_exists'.mp hbinary
    have hcopy : packet.copy = .ok { packet with binary := some body } := by
      rw [RpcPacket.copy, hbody]
      rfl
    rw [dispatch, if_pos htype, receiveRoutePacket, hparse, orRefuse, ok_bind, hcopy]
    exact ⟨_, rfl⟩
  · have hdispatch : s.dispatch routeId netInfo packet = .ok s := by
      rw [dispatch, htype, if_neg (by decide), if_neg (by decide), if_neg (by decide), if_pos rfl]
    exact ⟨s, hdispatch⟩

/-- A complete frame that decodes is taken, and the loop goes on behind it. -/
theorem serverLoop_frame (h : CompleteFrame binary pos size) (hdecodes : Decodes binary pos)
    (routeId : RouteID) (fuel : Nat) (s : RpcServerRoute) (log : FrameLog) :
    ∃ s', serverLoop routeId binary (fuel + 1) (s, log) pos pos
      = serverLoop routeId binary fuel (s', log ++ [((pos : Int), size)]) (int32 (frameEnd pos size))
        (frameEnd pos size) := by
  have hpresent := h.header.present
  have havailable := h.available
  obtain ⟨s', htake⟩ := RpcServerRoute.takeFrame_decodes hdecodes routeId s
  have hone : s.receiveOne routeId binary pos pos = .ok (some (s', size)) := by
    rw [RpcServerRoute.receiveOne_takeFrame h.size (by rw [sizeSub_of_le (by omega)]; omega) h.size_lt
      h.size_pos, htake]
    rfl
  refine ⟨s', ?_⟩
  rw [serverLoop, receiveLoop, sizeSub_of_le (by omega), if_pos (by omega), logFrames, hone]
  dsimp only
  rw [frameEnd_eq, frameEnd_cast]
  rfl

/-- At a negative offset it reads outside the buffer. -/
theorem serverLoop_wrapped {offset : Int} (hneg : offset < 0) {readSize : Nat}
    (hlength : sizeofPacketSize ≤ binary.length) :
    (serverLoop routeId binary (fuel + 1) (s, log) offset readSize).result = .error .undefined := by
  have hleft : binary.length < sizeSub binary.length offset := lt_sizeSub_of_neg hneg
  rw [serverLoop, receiveLoop, if_pos (by omega), logFrames, RpcServerRoute.receiveOne, readNumber_neg hneg]
  rfl

end Server

/-! ## What a channel does there -/

section Channel

variable {fuel : Nat} {c : RpcChannelRoute} {log : FrameLog}

theorem channelLoop_short (h : binary.length ≤ pos + sizeofPacketSize) (hpos : pos ≤ binary.length) :
    channelLoop binary (fuel + 1) (c, log) pos pos = ⟨(c, log), pos, .ok ()⟩ := by
  rw [channelLoop, receiveLoop, sizeSub_of_le hpos, if_neg (by omega)]

/-- A channel looks at the limits first. -/
theorem channelLoop_refused (h : HeaderIs binary pos size) (hbad : size = 0 ∨ netPacketMaxSize ≤ size) :
    channelLoop binary (fuel + 1) (c, log) pos pos = ⟨(c, log), pos, .error .refused⟩ := by
  have hpresent := h.present
  have hcheck : getAndCheckPacketSize binary pos = .error .refused := by
    rw [getAndCheckPacketSize, h.size, ok_bind]
    by_cases hmax : netPacketMaxSize ≤ size
    · rw [if_pos hmax]
      rfl
    · rw [if_neg hmax, if_pos (hbad.resolve_right hmax)]
      rfl
  rw [channelLoop, receiveLoop, sizeSub_of_le (by omega), if_pos (by omega), logFrames,
    RpcChannelRoute.receiveOne, hcheck]
  rfl

/-- Then at the frame's length. -/
theorem channelLoop_incomplete (h : HeaderIs binary pos size) (hlength : binary.length < frameEnd pos size)
    (hmax : size < netPacketMaxSize) (hpos : 0 < size) :
    channelLoop binary (fuel + 1) (c, log) pos pos = ⟨(c, log), pos, .ok ()⟩ := by
  have hpresent := h.present
  have hcheck : getAndCheckPacketSize binary pos = .ok size := by
    rw [getAndCheckPacketSize, h.size, ok_bind, if_neg (Nat.not_le.mpr hmax),
      if_neg (Nat.pos_iff_ne_zero.mp hpos)]
    rfl
  unfold frameEnd at hlength
  rw [channelLoop, receiveLoop, sizeSub_of_le (by omega), if_pos (by omega), logFrames,
    RpcChannelRoute.receiveOne, hcheck, ok_bind, sizeSub_of_le (by omega), if_pos (by omega)]
  rfl

theorem RpcChannelRoute.takeFrame_decodes (h : Decodes binary pos) (c : RpcChannelRoute) :
    ∃ c', c.takeFrame binary pos = .ok c' := by
  obtain ⟨netInfo, packet, hmessage, hkind⟩ := h
  rw [takeFrame, hmessage, ok_bind]
  show ∃ c', c.dispatch netInfo packet = .ok c'
  rcases hkind with ⟨htype, _, _⟩ | htype
  · rw [dispatch, if_pos htype]
    exact ⟨_, rfl⟩
  · have hdispatch : c.dispatch netInfo packet = .ok c := by
      rw [dispatch, htype, if_neg (by decide), if_pos rfl]
    exact ⟨c, hdispatch⟩

theorem channelLoop_frame (h : CompleteFrame binary pos size) (hdecodes : Decodes binary pos)
    (fuel : Nat) (c : RpcChannelRoute) (log : FrameLog) :
    ∃ c', channelLoop binary (fuel + 1) (c, log) pos pos
      = channelLoop binary fuel (c', log ++ [((pos : Int), size)]) (int32 (frameEnd pos size))
        (frameEnd pos size) := by
  have hpresent := h.header.present
  have havailable := h.available
  obtain ⟨c', htake⟩ := RpcChannelRoute.takeFrame_decodes hdecodes c
  have hone : c.receiveOne binary pos pos = .ok (some (c', size)) := by
    rw [RpcChannelRoute.receiveOne_takeFrame h.size (by rw [sizeSub_of_le (by omega)]; omega) h.size_lt
      h.size_pos, htake]
    rfl
  refine ⟨c', ?_⟩
  rw [channelLoop, receiveLoop, sizeSub_of_le (by omega), if_pos (by omega), logFrames, hone]
  dsimp only
  rw [frameEnd_eq, frameEnd_cast]
  rfl

end Channel

/-! ## Side by side -/

/-- The outcomes of a server's and a channel's loop are the same. -/
structure Agree (server : Reception (RpcServerRoute × FrameLog))
    (channel : Reception (RpcChannelRoute × FrameLog)) : Prop where
  defined : server.result ≠ .error .undefined
  verdict : server.result = channel.result
  readSize : server.readSize = channel.readSize
  frames : server.state.2 = channel.state.2

omit [Protobuf] in
/-- Where no complete frame starts, nothing leads on. -/
theorem leads_iff_eq (h : ∀ size, ¬ CompleteFrame binary pos size) {pos' : Nat} :
    Leads binary pos pos' ↔ pos' = pos := by
  constructor
  · intro hleads
    rcases Relation.ReflTransGen.cases_head hleads with rfl | ⟨_, ⟨size, hframe, _⟩, _⟩
    · rfl
    · exact absurd hframe (h size)
  · rintro rfl
    exact .refl

omit [Protobuf] in
/-- Where one does, everything else lies behind it. -/
theorem leads_iff (h : CompleteFrame binary pos size) {pos' : Nat} :
    Leads binary pos pos' ↔ pos' = pos ∨ Leads binary (frameEnd pos size) pos' := by
  constructor
  · intro hleads
    rcases Relation.ReflTransGen.cases_head hleads with rfl | ⟨next, hnext, hrest⟩
    · exact Or.inl rfl
    · obtain rfl := (nextFrame_iff h).mp hnext
      exact Or.inr hrest
  · rintro (rfl | hrest)
    · exact .refl
    · exact .head ((nextFrame_iff h).mpr rfl) hrest

/-- What the two loops come to from a position on. -/
def LoopsAgree (binary : Bytes) (pos : Nat) (server : Reception (RpcServerRoute × FrameLog))
    (channel : Reception (RpcChannelRoute × FrameLog)) : Prop :=
  Agree server channel ∧ ∀ pos', Leads binary pos pos' → BadHeader binary pos' →
    server.result = .error .refused ∧ channel.result = .error .refused

omit [Protobuf] in
/-- Where no complete frame starts, the loops are judged by what is there. -/
theorem loopsAgree_stop {server : Reception (RpcServerRoute × FrameLog)}
    {channel : Reception (RpcChannelRoute × FrameLog)} (hstop : ∀ size, ¬ CompleteFrame binary pos size)
    (hbad : Agree server channel → BadHeader binary pos →
      server.result = .error .refused ∧ channel.result = .error .refused)
    (hclear : Agree server channel ↔ Clear binary pos) :
    LoopsAgree binary pos server channel ↔ ∀ pos', Leads binary pos pos' → Clear binary pos' := by
  constructor
  · rintro ⟨hagree, _⟩ pos' hleads
    rw [(leads_iff_eq hstop).mp hleads]
    exact hclear.mp hagree
  · intro h
    have hagree := hclear.mpr (h pos .refl)
    refine ⟨hagree, fun pos' hleads hheader => ?_⟩
    rw [(leads_iff_eq hstop).mp hleads] at hheader
    exact hbad hagree hheader

omit [Protobuf] in
/-- Where one starts, by what follows it. -/
theorem loopsAgree_frame {server : Reception (RpcServerRoute × FrameLog)}
    {channel : Reception (RpcChannelRoute × FrameLog)} (h : CompleteFrame binary pos size) :
    LoopsAgree binary pos server channel ↔ LoopsAgree binary (frameEnd pos size) server channel := by
  have hgood : ¬ BadHeader binary pos := by
    rintro ⟨size', hheader, hsize⟩
    obtain rfl := hheader.unique h.header
    have hpos := h.size_pos
    have hlt := h.size_lt
    omega
  constructor
  · rintro ⟨hagree, hbad⟩
    exact ⟨hagree, fun pos' hleads => hbad pos' ((leads_iff h).mpr (Or.inr hleads))⟩
  · rintro ⟨hagree, hbad⟩
    refine ⟨hagree, fun pos' hleads hheader => ?_⟩
    rcases (leads_iff h).mp hleads with rfl | hleads
    · exact absurd hheader hgood
    · exact hbad pos' hleads hheader

omit [Protobuf] in
/-- A complete frame is clear itself. -/
theorem clear_frame (h : CompleteFrame binary pos size) :
    (∀ pos', Leads binary pos pos' → Clear binary pos') ↔
      ∀ pos', Leads binary (frameEnd pos size) pos' → Clear binary pos' := by
  constructor
  · exact fun hclear pos' hleads => hclear pos' ((leads_iff h).mpr (Or.inr hleads))
  · intro hclear pos' hleads
    rcases (leads_iff h).mp hleads with rfl | hleads
    · refine ⟨h.offset_lt, fun size' hheader _ => ?_⟩
      obtain rfl := hheader.unique h.header
      exact h.available
    · exact hclear pos' hleads

/-- **The loops agree from a position on exactly when all is clear from there on.** -/
theorem loops_agree_iff (routeId : RouteID) (fuel : Nat) (s : RpcServerRoute) (c : RpcChannelRoute)
    (log : FrameLog) (hpos : pos < 2 ^ 31) (hle : pos ≤ binary.length) (hfuel : binary.length < pos + fuel)
    (hdecode : ∀ pos' size, Leads binary pos pos' → CompleteFrame binary pos' size → Decodes binary pos') :
    LoopsAgree binary pos (serverLoop routeId binary fuel (s, log) pos pos)
        (channelLoop binary fuel (c, log) pos pos)
      ↔ ∀ pos', Leads binary pos pos' → Clear binary pos' := by
  induction fuel generalizing pos s c log with
  | zero => omega
  | succ fuel ih =>
    by_cases hshort : binary.length ≤ pos + sizeofPacketSize
    · -- both see the end of the buffer
      have hnone : ∀ size, ¬ HeaderIs binary pos size := fun size h => absurd h.present (by omega)
      rw [serverLoop_short hshort hle, channelLoop_short hshort hle]
      refine loopsAgree_stop (fun size h => hnone size h.header) ?_ ?_
      · rintro _ ⟨size, hheader, _⟩
        exact absurd hheader (hnone size)
      · exact iff_of_true ⟨nofun, rfl, rfl, rfl⟩ ⟨hpos, fun size h => absurd h (hnone size)⟩
    · obtain ⟨size, hheader⟩ := exists_header (Nat.not_le.mp hshort)
      have hone : ∀ size', HeaderIs binary pos size' → size' = size := fun _ h => h.unique hheader
      by_cases hbad : size = 0 ∨ netPacketMaxSize ≤ size
      · have hstop : ∀ size', ¬ CompleteFrame binary pos size' := by
          intro size' h
          have hmin := h.size_pos
          have hmax := h.size_lt
          have hsize := hone size' h.header
          omega
        rw [channelLoop_refused hheader hbad]
        by_cases hlength : frameEnd pos size ≤ binary.length
        · -- the whole of it is there, and both refuse it
          rw [serverLoop_refused hheader hlength hbad]
          refine loopsAgree_stop hstop (fun _ _ => ⟨rfl, rfl⟩) (iff_of_true ⟨nofun, rfl, rfl, rfl⟩ ⟨hpos, ?_⟩)
          intro size' h _
          rw [hone size' h]
          exact hlength
        · -- the server waits for the rest of what the channel refuses
          rw [serverLoop_incomplete hheader (Nat.not_le.mp hlength)]
          refine loopsAgree_stop hstop (fun hagree _ => nomatch hagree.verdict) (iff_of_false ?_ ?_)
          · rintro ⟨_, hverdict, _, _⟩
            cases hverdict
          · intro hclear
            have hpresent := hheader.present
            rcases hbad with rfl | hmax
            · exact hlength (by unfold frameEnd; omega)
            · exact hlength (hclear.2 size hheader hmax)
      · obtain ⟨hmin, hmax⟩ := not_or.mp hbad
        by_cases hlength : frameEnd pos size ≤ binary.length
        · have hframe : CompleteFrame binary pos size :=
            ⟨hheader.size, by omega, by omega, hlength, hpos⟩
          have hdecodes : Decodes binary pos := hdecode pos size .refl hframe
          obtain ⟨s', hserver⟩ := serverLoop_frame hframe hdecodes routeId fuel s log
          obtain ⟨c', hchannel⟩ := channelLoop_frame hframe hdecodes fuel c log
          have hend : pos + sizeofPacketSize < frameEnd pos size := by unfold frameEnd; omega
          rw [hserver, hchannel, loopsAgree_frame hframe, clear_frame hframe]
          by_cases hwrap : frameEnd pos size < 2 ^ 31
          · rw [int32_of_lt (by omega) (by omega)]
            exact ih s' c' _ hwrap hlength (by omega) fun pos' size' hleads =>
              hdecode pos' size' ((leads_iff hframe).mpr (Or.inr hleads))
          · -- the server's guard reads through a negative offset
            have hsize : netPacketMaxSize ≤ 2 ^ 12 := by decide
            have hneg : int32 (frameEnd pos size) < 0 :=
              int32_neg (by omega) (by unfold frameEnd sizeofPacketSize at *; omega)
            obtain ⟨fuel, rfl⟩ : ∃ k, fuel = k + 1 := ⟨fuel - 1, by omega⟩
            refine iff_of_false (fun h => h.1.defined ?_) fun hclear => hwrap (hclear _ .refl).1
            exact serverLoop_wrapped hneg (by omega)
        · -- both wait for the rest
          have hshort := Nat.not_le.mp hlength
          rw [serverLoop_incomplete hheader hshort,
            channelLoop_incomplete hheader hshort (by omega) (by omega)]
          refine loopsAgree_stop ?_ ?_ (iff_of_true ⟨nofun, rfl, rfl, rfl⟩ ⟨hpos, ?_⟩)
          · intro size' h
            rw [hone size' h.header] at h
            exact hlength h.available
          · rintro _ ⟨size', h, hsize⟩
            rw [hone size' h] at hsize
            exact absurd hsize hbad
          · intro size' h hsize
            rw [hone size' h] at hsize
            exact absurd hsize hmax

/-! ## A whole call -/

/-- The calls are the loops without their records. -/
theorem sameFraming_iff {binary : Bytes} (s : RpcServerRoute) (routeId : RouteID) (c : RpcChannelRoute) :
    SameFraming s routeId c binary ↔
      LoopsAgree binary 0 (serverLoop routeId binary (binary.length + 1) (s, []) 0 0)
        (channelLoop binary (binary.length + 1) (c, []) 0 0) := by
  obtain ⟨hserverRead, hserver⟩ := receiveLoop_logFrames (fun offset _ => sizeSub binary.length offset)
    (fun s offset readSize => RpcServerRoute.receiveOne s routeId binary offset readSize)
    (binary.length + 1) s [] 0 0
  obtain ⟨hchannelRead, hchannel⟩ := receiveLoop_logFrames (fun _ readSize => sizeSub binary.length readSize)
    (fun c offset readSize => RpcChannelRoute.receiveOne c binary offset readSize) (binary.length + 1) c [] 0 0
  rw [LoopsAgree, serverLoop, channelLoop]
  constructor
  · rintro ⟨hdefined, hverdict, hread, hframes, hrejected⟩
    rw [hserver, hchannel]
    refine ⟨⟨?_, ?_, ?_, hframes⟩, hrejected⟩
    · rw [hserver]; exact hdefined
    · rw [hserver, hchannel]; exact hverdict
    · rw [hserverRead, hchannelRead]; exact hread
  · rintro ⟨⟨hdefined, hverdict, hread, hframes⟩, hrejected⟩
    rw [hserver, hchannel] at hrejected
    rw [hserver, hchannel] at hverdict
    rw [hserverRead, hchannelRead] at hread
    rw [hserver] at hdefined
    exact ⟨hdefined, hverdict, hread, hframes, hrejected⟩

/-- **The endpoints agree on a buffer of frames that decode exactly when everything in it is clear**: the
    complete frames end within an `int32_t`, and what follows them is no frame that is too large and not
    complete. -/
theorem framing_agrees_iff {binary : Bytes} (hdecode : FramesDecode binary) (s : RpcServerRoute)
    (routeId : RouteID) (c : RpcChannelRoute) :
    SameFraming s routeId c binary ↔ ∀ pos, FrameStart binary pos → Clear binary pos := by
  rw [sameFraming_iff]
  exact loops_agree_iff routeId (binary.length + 1) s c [] (by decide) (Nat.zero_le _) (by omega)
    fun pos size => hdecode pos size

end

/-! ## Two buffers -/

/-- A heart frame, and the first bytes of a frame of nine. -/
def heartAndPiece : Bytes := buildBinaryFromMessageNet ⟨eNetTypeHeart, []⟩ ++ [9, 0, 0, 0, 1]

/-- A buffer with a frame that is not complete yet is found the same. -/
theorem framing_agrees_piece : SameFraming (.new 1) 0 ⟨[], []⟩ heartAndPiece := by
  have hheart : CompleteFrame heartAndPiece 0 5 := ⟨by decide, by decide, by decide, by decide, by decide⟩
  have hpiece : HeaderIs heartAndPiece 9 9 := ⟨by decide, by decide⟩
  have hstop : ∀ size, ¬ CompleteFrame heartAndPiece 9 size := by
    intro size h
    obtain rfl := h.header.unique hpiece
    exact absurd h.available (by decide)
  have hstart : ∀ pos, FrameStart heartAndPiece pos → pos = 0 ∨ pos = 9 := by
    intro pos hpos
    rcases (leads_iff hheart).mp hpos with rfl | hpos
    · exact Or.inl rfl
    · exact Or.inr ((leads_iff_eq hstop).mp hpos)
  refine (framing_agrees_iff (fun pos size hpos hframe => ?_) _ 0 _).mpr fun pos hpos => ?_
  · rcases hstart pos hpos with rfl | rfl
    · exact ⟨⟨eNetTypeHeart, []⟩, .new 0 .method, by decide, Or.inr rfl⟩
    · exact absurd hframe (hstop size)
  · rcases hstart pos hpos with rfl | rfl
    · refine ⟨by decide, fun size h hmax => ?_⟩
      obtain rfl := h.unique hheart.header
      exact absurd hmax (by decide)
    · refine ⟨by decide, fun size h hmax => ?_⟩
      obtain rfl := h.unique hpiece
      exact absurd hmax (by decide)

/-- The size word of a frame of the packet limit, and one byte more. -/
def oversizedPiece : Bytes := [0, 16, 0, 0, 0]

/-- **A server waits for a frame that a channel has refused.** -/
theorem framing_not_agrees :
    FramesDecode oversizedPiece ∧ HeaderIs oversizedPiece 0 netPacketMaxSize ∧
      (RpcServerRoute.onReceive (.new 1) 0 oversizedPiece).result = .ok () ∧
      (RpcChannelRoute.onReceive ⟨[], []⟩ oversizedPiece).result = .error .refused ∧
      ¬ SameFraming (.new 1) 0 ⟨[], []⟩ oversizedPiece := by
  have hheader : HeaderIs oversizedPiece 0 netPacketMaxSize := ⟨by decide, by decide⟩
  have hserver : (RpcServerRoute.onReceive (.new 1) 0 oversizedPiece).result = .ok () := by decide
  have hchannel : (RpcChannelRoute.onReceive ⟨[], []⟩ oversizedPiece).result = .error .refused := by decide
  have hstop : ∀ size, ¬ CompleteFrame oversizedPiece 0 size := by
    intro size h
    obtain rfl := h.header.unique hheader
    exact absurd h.size_lt (by decide)
  refine ⟨fun pos size hpos hframe => ?_, hheader, hserver, hchannel, fun h => ?_⟩
  · rw [(leads_iff_eq hstop).mp hpos] at hframe
    exact absurd hframe (hstop size)
  · have hverdict := h.verdict
    rw [hserver, hchannel] at hverdict
    cases hverdict

end Frrpc
