import Frrpc.Deployment.Correctness.Frames
import Frrpc.Rpc.Correctness.Body

/-!
# `Deployment.Correctness.Endpoint` — what an endpoint takes from its connection

Both endpoints share one loop. Given a part of a stream of frames, it reads whole frames from the front
(`receiveLoop_keeps`), whether it ends well or refuses one, and what it makes of each is the dispatch of the
parts that the frame was built from (`receiveOne_builtFrom`).
-/

namespace Frrpc

open Lib

/-! ## The loop over whole frames -/

section

variable {σ : Type} {P : Frame → Prop} {Inv : σ → Prop} {left : Int → Nat → Nat}
  {one : Bytes → σ → Int → Nat → Except Failure (Option (σ × Nat))}

/-- What a round does with a part of a stream: a frame of interest is moved past and leaves the invariant,
    and a piece of a frame is not taken. -/
structure RoundKeeps (P : Frame → Prop) (Inv : σ → Prop)
    (one : Bytes → σ → Int → Nat → Except Failure (Option (σ × Nat))) : Prop where
  whole : ∀ {f : Frame} {pre post : Bytes} {s s' : σ} {size : Nat}, P f → pre.length < 2 ^ 31 → Inv s →
    one (pre ++ f.bytes ++ post) s pre.length pre.length = .ok (some (s', size)) → size = f.size ∧ Inv s'
  piece : ∀ {f : Frame} {pre t : Bytes} {s s' : σ} {size : Nat}, t <+: f.bytes → t.length < f.bytes.length →
    sizeofPacketSize < t.length → one (pre ++ t) s pre.length pre.length ≠ .ok (some (s', size))

/-- A call that began with `n` bytes read leaves the invariant, and has read some frames more. -/
structure ReadsSome (Inv : σ → Prop) (gs : List Frame) (n : Nat) (reception : Reception σ) : Prop where
  state : Inv reception.state
  frames : ∃ hs later, gs = hs ++ later ∧ reception.readSize = n + (stream Frame.bytes hs).length

theorem ReadsSome.none {gs : List Frame} {n : Nat} {s : σ} (hs : Inv s) (result : Except Failure Unit) :
    ReadsSome Inv gs n ⟨s, n, result⟩ := ⟨hs, [], gs, rfl, rfl⟩

/-- At a piece of a frame the loop ends. -/
theorem receiveLoop_piece (hround : RoundKeeps P Inv one) {rest : List Frame} {pre t : Bytes}
    (hleft : ∀ n ≤ (pre ++ t).length, left n n = (pre ++ t).length - n)
    (ht : Incomplete Frame.bytes rest t) {s : σ} (hs : Inv s) (fuel : Nat) :
    ReadsSome Inv [] pre.length (receiveLoop left (one (pre ++ t)) (fuel + 1) s pre.length pre.length) := by
  have hhere : left pre.length pre.length = t.length := by
    rw [hleft _ (by simp), List.length_append, Nat.add_sub_cancel_left]
  rw [receiveLoop, hhere]
  by_cases hword : sizeofPacketSize < t.length
  · cases rest with
    | nil =>
      rw [show t = [] from ht] at hword
      exact absurd hword (Nat.not_lt_zero _)
    | cons f rest =>
      rw [if_pos hword]
      split
      · exact .none hs _
      · exact .none hs _
      · next s' size hone => exact absurd hone (hround.piece ht.1 ht.2 hword)
  · rw [if_neg hword]
    exact .none hs _

/-- **The loop reads whole frames**, and leaves what they leave. -/
theorem receiveLoop_keeps (hround : RoundKeeps P Inv one) {rest : List Frame} {t binary : Bytes}
    (hleft : ∀ n ≤ binary.length, left n n = binary.length - n) (ht : Incomplete Frame.bytes rest t)
    (fuel : Nat) {gs : List Frame} (hgs : ∀ f ∈ gs, P f) {pre : Bytes}
    (hbinary : binary = pre ++ stream Frame.bytes gs ++ t)
    (hlimit : pre.length + (stream Frame.bytes gs).length < 2 ^ 31) {s : σ} (hs : Inv s) :
    ReadsSome Inv gs pre.length (receiveLoop left (one binary) fuel s pre.length pre.length) := by
  induction fuel generalizing gs pre s with
  | zero => exact .none hs _
  | succ fuel ih =>
    cases gs with
    | nil =>
      rw [stream_nil, List.append_nil] at hbinary
      subst hbinary
      exact receiveLoop_piece hround hleft ht hs fuel
    | cons f gs =>
      rw [stream_cons, List.length_append] at hlimit
      have hlength := f.bytes_length
      have hnext : binary = pre ++ f.bytes ++ stream Frame.bytes gs ++ t := by
        rw [hbinary, stream_cons, ← List.append_assoc]
      rw [receiveLoop]
      split
      · split
        · exact .none hs _
        · exact .none hs _
        · next s' size hone =>
          have hframe : binary = pre ++ f.bytes ++ (stream Frame.bytes gs ++ t) := by
            rw [hnext, List.append_assoc]
          rw [hframe] at hone
          obtain ⟨rfl, hs'⟩ := hround.whole (hgs f List.mem_cons_self) (by omega) hs hone
          -- both positions move past the frame
          have hoffset : int32 (pre.length + ((f.size : Int) + sizeofPacketSize)) = (pre ++ f.bytes).length := by
            rw [← Int.natCast_add, ← hlength, int32_of_lt (by omega) (by omega), List.length_append,
              Int.natCast_add]
          have hread : pre.length + (f.size + sizeofPacketSize) = (pre ++ f.bytes).length := by
            rw [List.length_append, hlength]
          rw [hoffset, hread]
          obtain ⟨hstate, hs₁, later, hsplit, hsize⟩ := ih (fun g hg => hgs g (List.mem_cons_of_mem f hg)) hnext
            (by rw [List.length_append]; omega) hs'
          refine ⟨hstate, f :: hs₁, later, by rw [hsplit, List.cons_append], ?_⟩
          rw [hsize, stream_cons, List.length_append, List.length_append, Nat.add_assoc]
      · exact .none hs _

end

/-! ## One frame -/

/-- The size word of a frame, whatever stands around it. -/
theorem Frame.eq_size {f : Frame} {pre post : Bytes} {size : Nat}
    (h : readNumber sizeofPacketSize (pre ++ f.bytes ++ post) pre.length = .ok size) : size = f.size :=
  (Except.ok.inj ((f.readNumber_size pre post).symm.trans h)).symm

/-- A piece of a frame with its size word is too short for it. -/
theorem Frame.piece_short {f : Frame} {pre t : Bytes} (ht : t <+: f.bytes) (hshort : t.length < f.bytes.length)
    (hword : sizeofPacketSize < t.length) {size : Nat}
    (hsize : readNumber sizeofPacketSize (pre ++ t) pre.length = .ok size) :
    sizeSub (pre ++ t).length pre.length < size + sizeofPacketSize := by
  have hread : readNumber sizeofPacketSize (pre ++ t) pre.length = .ok f.size :=
    f.readNumber_size_of_prefix ht (Nat.le_of_lt hword)
  obtain rfl := Except.ok.inj (hread.symm.trans hsize)
  rw [sizeSub_of_le (by simp), List.length_append, Nat.add_sub_cancel_left, ← f.bytes_length]
  exact hshort

namespace RpcChannelRoute

/-- A round that takes a frame has read its size, found it complete, and dispatched its message. -/
theorem receiveOne_cases {c c' : RpcChannelRoute} {binary : Bytes} {offset : Int} {readSize size : Nat}
    (h : c.receiveOne binary offset readSize = .ok (some (c', size))) :
    readNumber sizeofPacketSize binary offset = .ok size ∧
    ¬ sizeSub binary.length readSize < size + sizeofPacketSize ∧
    c.takeFrame binary offset = .ok c' := by
  obtain ⟨size', hcheck, h⟩ := bind_eq_ok.mp h
  obtain ⟨size'', hsize, hcheck⟩ := bind_eq_ok.mp hcheck
  split at hcheck
  · cases hcheck
  · split at hcheck
    · cases hcheck
    · cases hcheck
      split at h
      · cases h
      · next hcomplete =>
        obtain ⟨⟨netInfo, packet⟩, hmessage, h⟩ := bind_eq_ok.mp h
        obtain ⟨c₁, hdispatch, h⟩ := bind_eq_ok.mp h
        cases h
        refine ⟨hsize, hcomplete, ?_⟩
        rw [takeFrame, hmessage]
        exact hdispatch

/-- **A channel dispatches the parts of the frame.** -/
theorem takeFrame_builtFrom {f : Frame} {parts : FrameParts} (h : f.BuiltFrom parts) (c : RpcChannelRoute)
    (pre post : Bytes) (hpre : pre.length < 2 ^ 31) :
    c.takeFrame (pre ++ f.bytes ++ post) pre.length = c.dispatch parts.netInfo parts.packet := by
  rw [takeFrame, h.getMessageFromBinary_eq pre post hpre]
  rfl

/-- What dispatching keeps, the loop keeps. -/
theorem roundKeeps {P : FrameParts → Prop} {Inv : RpcChannelRoute → Prop}
    (hdispatch : ∀ {f : Frame} {parts : FrameParts} {c c' : RpcChannelRoute}, P parts → f.BuiltFrom parts →
      Inv c → c.dispatch parts.netInfo parts.packet = .ok c' → Inv c') :
    RoundKeeps (Frame.Says P) Inv fun binary c offset readSize => c.receiveOne binary offset readSize where
  whole hsaid hpre hs hone := by
    obtain ⟨parts, hparts, hbuilt⟩ := hsaid
    obtain ⟨hsize, _, htake⟩ := receiveOne_cases hone
    rw [takeFrame_builtFrom hbuilt _ _ _ hpre] at htake
    exact ⟨Frame.eq_size hsize, hdispatch hparts hbuilt hs htake⟩
  piece ht hshort hword hone := by
    obtain ⟨hsize, hcomplete, _⟩ := receiveOne_cases hone
    exact hcomplete (Frame.piece_short ht hshort hword hsize)

end RpcChannelRoute

namespace RpcServerRoute

theorem receiveOne_cases {s s' : RpcServerRoute} {routeId : RouteID} {binary : Bytes} {offset : Int}
    {readSize size : Nat} (h : s.receiveOne routeId binary offset readSize = .ok (some (s', size))) :
    readNumber sizeofPacketSize binary offset = .ok size ∧
    ¬ sizeSub binary.length readSize < size + sizeofPacketSize ∧
    s.takeFrame routeId binary offset = .ok s' := by
  obtain ⟨size', hsize, h⟩ := bind_eq_ok.mp h
  split at h
  · cases h
  · next hcomplete =>
    split at h
    · cases h
    · split at h
      · cases h
      · obtain ⟨⟨netInfo, packet⟩, hmessage, h⟩ := bind_eq_ok.mp h
        obtain ⟨s₁, hdispatch, h⟩ := bind_eq_ok.mp h
        cases h
        refine ⟨hsize, hcomplete, ?_⟩
        rw [takeFrame, hmessage]
        exact hdispatch

/-- **A server dispatches the parts of the frame.** -/
theorem takeFrame_builtFrom {f : Frame} {parts : FrameParts} (h : f.BuiltFrom parts) (s : RpcServerRoute)
    (routeId : RouteID) (pre post : Bytes) (hpre : pre.length < 2 ^ 31) :
    s.takeFrame routeId (pre ++ f.bytes ++ post) pre.length
      = s.dispatch routeId parts.netInfo parts.packet := by
  rw [takeFrame, h.getMessageFromBinary_eq pre post hpre]
  rfl

theorem roundKeeps {P : FrameParts → Prop} {Inv : RpcServerRoute → Prop} {routeId : RouteID}
    (hdispatch : ∀ {f : Frame} {parts : FrameParts} {s s' : RpcServerRoute}, P parts → f.BuiltFrom parts →
      Inv s → s.dispatch routeId parts.netInfo parts.packet = .ok s' → Inv s') :
    RoundKeeps (Frame.Says P) Inv
      fun binary s offset readSize => s.receiveOne routeId binary offset readSize where
  whole hsaid hpre hs hone := by
    obtain ⟨parts, hparts, hbuilt⟩ := hsaid
    obtain ⟨hsize, _, htake⟩ := receiveOne_cases hone
    rw [takeFrame_builtFrom hbuilt _ _ _ _ hpre] at htake
    exact ⟨Frame.eq_size hsize, hdispatch hparts hbuilt hs htake⟩
  piece ht hshort hword hone := by
    obtain ⟨hsize, hcomplete, _⟩ := receiveOne_cases hone
    exact hcomplete (Frame.piece_short ht hshort hword hsize)

end RpcServerRoute

/-! ## A call of `OnReceive` -/

section

variable {gs rest : List Frame} {t : Bytes} {P : FrameParts → Prop} (hgs : ∀ f ∈ gs, f.Says P)
  (ht : Incomplete Frame.bytes rest t) (hlimit : (stream Frame.bytes gs ++ t).length < 2 ^ 31)

include hgs ht hlimit

/-- **What a channel takes from a part of a stream** are whole frames, from the front. -/
theorem RpcChannelRoute.onReceive_keeps {Inv : RpcChannelRoute → Prop}
    (hdispatch : ∀ {f : Frame} {parts : FrameParts} {c c' : RpcChannelRoute}, P parts → f.BuiltFrom parts →
      Inv c → c.dispatch parts.netInfo parts.packet = .ok c' → Inv c') {c : RpcChannelRoute} (hc : Inv c) :
    ReadsSome Inv gs 0 (c.onReceive (stream Frame.bytes gs ++ t)) := by
  rw [List.length_append] at hlimit
  have hstart : ([] : Bytes).length + (stream Frame.bytes gs).length < 2 ^ 31 := by
    rw [List.length_nil]
    omega
  exact receiveLoop_keeps (RpcChannelRoute.roundKeeps hdispatch) (fun n hn => sizeSub_of_le hn) ht _ hgs rfl
    hstart hc

/-- **What a server takes from a part of a stream** are whole frames too. -/
theorem RpcServerRoute.onReceive_keeps {Inv : RpcServerRoute → Prop} {routeId : RouteID}
    (hdispatch : ∀ {f : Frame} {parts : FrameParts} {s s' : RpcServerRoute}, P parts → f.BuiltFrom parts →
      Inv s → s.dispatch routeId parts.netInfo parts.packet = .ok s' → Inv s') {s : RpcServerRoute} (hs : Inv s) :
    ReadsSome Inv gs 0 (s.onReceive routeId (stream Frame.bytes gs ++ t)) := by
  rw [List.length_append] at hlimit
  have hstart : ([] : Bytes).length + (stream Frame.bytes gs).length < 2 ^ 31 := by
    rw [List.length_nil]
    omega
  exact receiveLoop_keeps (RpcServerRoute.roundKeeps hdispatch) (fun n hn => sizeSub_of_le hn) ht _ hgs rfl
    hstart hs

end

end Frrpc
