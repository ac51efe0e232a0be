import Frrpc.Lib.Stream
import Frrpc.Rpc.NetBase

/-!
# `Rpc.Correctness.Receive` — the receiving loop over whole frames

`receiveLoop` from what handling one frame does:

* `receiveLoop_frame` — a complete frame is handled, and both positions move past it together;
* `receiveLoop_incomplete` — what is not a complete frame ends the call with everything before it read;
* `receiveLoop_wrap` — past `2 ^ 31` bytes the offset is negative, and the next frame is not found.

`trims_receiveLoop` puts them together: the loop meets `Lib.Trims` as long as the frames of one call stay
below `2 ^ 31` bytes.
-/

namespace Frrpc

open Lib

section

variable {σ φ ο : Type} {left : Bytes → Int → Nat → Nat}
  {one : Bytes → σ → Int → Nat → Except Failure (Option (σ × Nat))}
  {enc : φ → Bytes} {out : φ → List ο} {inv : σ → Prop} {push : σ → List ο → σ}

/-- What an endpoint, in any state of interest, does with one frame of a stream. -/
structure HandlesFrames (left : Bytes → Int → Nat → Nat)
    (one : Bytes → σ → Int → Nat → Except Failure (Option (σ × Nat))) (enc : φ → Bytes)
    (out : φ → List ο) (inv : σ → Prop) (push : σ → List ο → σ) : Prop where
  push_inv : ∀ s os, inv s → inv (push s os)
  /-- A frame is a size word and something more, within the packet limit. -/
  size : ∀ f, sizeofPacketSize < (enc f).length ∧ (enc f).length < netPacketMaxSize + sizeofPacketSize
  /-- The guard sees what is left behind a position reached by both counters. -/
  left_eq : ∀ (binary : Bytes) (n : Nat), n ≤ binary.length → left binary n n = binary.length - n
  /-- The guard does not stop the loop between two frames when the offset is negative. -/
  left_wrap : ∀ (binary : Bytes) (offset : Int) (n : Nat), offset < 0 → n < 2 ^ 31 + 2 ^ 13 →
    n + sizeofPacketSize < binary.length → sizeofPacketSize < left binary offset n
  /-- A complete frame is handled. -/
  complete : ∀ s f pre post, inv s → pre.length < 2 ^ 31 →
    one (pre ++ enc f ++ post) s pre.length pre.length
      = .ok (some (push s (out f), (enc f).length - sizeofPacketSize))
  /-- An incomplete one is left alone. -/
  incomplete : ∀ s f pre t, t <+: enc f → t.length < (enc f).length → sizeofPacketSize < t.length →
    one (pre ++ t) s pre.length pre.length = .ok none
  /-- Nothing can be read at a negative offset. -/
  negative : ∀ binary s offset n, offset < 0 → one binary s offset n = .error .undefined

variable (h : HandlesFrames left one enc out inv push)

include h

theorem HandlesFrames.enc_ne_nil (f : φ) : enc f ≠ [] := by
  intro hnil
  have := (h.size f).1
  rw [hnil] at this
  exact absurd this (by decide)

/-- One round at a complete frame; the offset is exact or wraps, depending on where the frame ends. -/
theorem receiveLoop_round (fuel : Nat) {s : σ} (hs : inv s) (f : φ) (pre post : Bytes)
    (hpre : pre.length < 2 ^ 31) :
    receiveLoop (left (pre ++ enc f ++ post)) (one (pre ++ enc f ++ post)) (fuel + 1) s pre.length
        pre.length
      = receiveLoop (left (pre ++ enc f ++ post)) (one (pre ++ enc f ++ post)) fuel (push s (out f))
        (int32 (pre.length + (enc f).length)) (pre.length + (enc f).length) := by
  have hsize := (h.size f).1
  have hlen : (pre ++ enc f ++ post).length = pre.length + (enc f).length + post.length := by
    simp only [List.length_append]
  have hback : (enc f).length - sizeofPacketSize + sizeofPacketSize = (enc f).length := by omega
  have hcast : (((enc f).length - sizeofPacketSize : Nat) : Int) + sizeofPacketSize = (enc f).length := by
    omega
  rw [receiveLoop, h.left_eq _ _ (by omega), if_pos (by omega), h.complete s f pre post hs hpre]
  simp only [hcast, hback]

theorem receiveLoop_frame (fuel : Nat) {s : σ} (hs : inv s) (f : φ) (pre post : Bytes)
    (hlimit : pre.length + (enc f).length < 2 ^ 31) :
    receiveLoop (left (pre ++ enc f ++ post)) (one (pre ++ enc f ++ post)) (fuel + 1) s pre.length
        pre.length
      = receiveLoop (left (pre ++ enc f ++ post)) (one (pre ++ enc f ++ post)) fuel (push s (out f))
        (pre.length + (enc f).length : Nat) (pre.length + (enc f).length) := by
  rw [receiveLoop_round h fuel hs f pre post (by omega), int32_of_lt (by omega) (by omega),
    Int.natCast_add]

theorem receiveLoop_incomplete (fuel : Nat) (s : σ) {rest : List φ} {pre t : Bytes}
    (ht : Incomplete enc rest t) :
    receiveLoop (left (pre ++ t)) (one (pre ++ t)) (fuel + 1) s pre.length pre.length
      = ⟨s, pre.length, .ok ()⟩ := by
  rw [receiveLoop, h.left_eq _ _ (by simp), List.length_append, Nat.add_sub_cancel_left]
  cases rest with
  | nil => rw [show t = [] from ht, if_neg (by simp)]
  | cons f rest =>
    by_cases hword : sizeofPacketSize < t.length
    · rw [if_pos hword, h.incomplete s f pre t ht.1 ht.2 hword]
    · rw [if_neg hword]

/-- **The offset wraps**: once the frames of a call reach `2 ^ 31` bytes, a further frame is looked for
    outside the buffer. -/
theorem receiveLoop_wrap (fuel : Nat) {s : σ} (hs : inv s) (f g : φ) (pre post : Bytes)
    (hpre : pre.length < 2 ^ 31) (hwrap : 2 ^ 31 ≤ pre.length + (enc f).length) :
    (receiveLoop (left (pre ++ enc f ++ (enc g ++ post))) (one (pre ++ enc f ++ (enc g ++ post)))
      (fuel + 2) s pre.length pre.length).result = .error .undefined := by
  have hf := (h.size f).2
  have hg := (h.size g).1
  have hmax : netPacketMaxSize + sizeofPacketSize ≤ 2 ^ 13 := by decide
  -- a frame is short, so the offset is past the range by little and comes back negative
  have hneg : int32 (pre.length + (enc f).length) < 0 := int32_neg (by omega) (by omega)
  rw [receiveLoop_round h (fuel + 1) hs f pre (enc g ++ post) hpre, receiveLoop,
    if_pos (h.left_wrap _ _ _ hneg (by omega) (by simp only [List.length_append]; omega)),
    h.negative _ _ _ _ hneg]

/-- The first frames of a call are handled one after the other, as long as they stay below `2 ^ 31`
    bytes. -/
theorem receiveLoop_frames (hpush : ∀ s os os', push (push s os) os' = push s (os ++ os'))
    (hnil : ∀ s, push s [] = s) (fuel : Nat) {s : σ} (hs : inv s) (gs : List φ) (post : Bytes)
    (hlimit : (stream enc gs).length < 2 ^ 31) :
    receiveLoop (left (stream enc gs ++ post)) (one (stream enc gs ++ post)) (fuel + gs.length) s 0 0
      = receiveLoop (left (stream enc gs ++ post)) (one (stream enc gs ++ post)) fuel
        (push s (gs.flatMap out)) (stream enc gs).length (stream enc gs).length := by
  -- the loop state is the start with the outputs so far pushed, and both counters agree
  let loop (fuel : Nat) (_ : Unit) (log : List ο) (pos : Nat) :=
    receiveLoop (left (stream enc gs ++ post)) (one (stream enc gs ++ post)) fuel (push s log) pos pos
  have hstep : ∀ fuel (u : Unit) log pre f (fs : List φ) post', True → True →
      stream enc gs ++ post = pre ++ enc f ++ post' → pre.length + (enc f).length < 2 ^ 31 →
      ∃ u', True ∧ loop (fuel + 1) u log pre.length
        = loop fuel u' (log ++ out f) (pre.length + (enc f).length) := by
    intro fuel u log pre f _ post' _ _ hbuf hlt
    refine ⟨(), trivial, ?_⟩
    simp only [loop, hbuf]
    rw [receiveLoop_frame h fuel (h.push_inv s log hs) f pre post' hlt, hpush]
  have hbuf : stream enc gs ++ post = [] ++ stream enc gs ++ post := rfl
  obtain ⟨_, -, hloop⟩ := loop_frames loop (fun _ => True) (stream enc gs ++ post)
    (fun _ _ => True) hstep gs [] fuel () [] trivial trivial hbuf (by simpa using hlimit)
  simp only [loop, List.length_nil, Nat.zero_add, hnil, List.nil_append] at hloop
  exact hloop

/-- All frames of a call below `2 ^ 31` bytes are handled, and exactly these are read. -/
theorem receiveLoop_stream (hpush : ∀ s os os', push (push s os) os' = push s (os ++ os'))
    (hnil : ∀ s, push s [] = s) {s : σ} (hs : inv s) {gs rest : List φ} {t : Bytes}
    (ht : Incomplete enc rest t) (hlimit : (stream enc gs).length < 2 ^ 31) :
    receiveLoop (left (stream enc gs ++ t)) (one (stream enc gs ++ t)) ((stream enc gs ++ t).length + 1)
        s 0 0
      = ⟨push s (gs.flatMap out), (stream enc gs).length, .ok ()⟩ := by
  have hcount : gs.length ≤ (stream enc gs).length := length_le_stream h.enc_ne_nil gs
  obtain ⟨fuel, hfuel⟩ : ∃ fuel, (stream enc gs ++ t).length + 1 = (fuel + 1) + gs.length :=
    ⟨(stream enc gs ++ t).length - gs.length, by rw [List.length_append]; omega⟩
  -- one round a frame, and one more to see that the rest is incomplete
  rw [hfuel, receiveLoop_frames h hpush hnil (fuel + 1) hs gs t hlimit, receiveLoop_incomplete h fuel _ ht]

/-- A call that holds `2 ^ 31` bytes of frames and one more frame has no defined result. -/
theorem receiveLoop_overflow (hpush : ∀ s os os', push (push s os) os' = push s (os ++ os'))
    (hnil : ∀ s, push s [] = s) {s : σ} (hs : inv s) (gs : List φ) (f g : φ) (post : Bytes)
    (hbelow : (stream enc gs).length < 2 ^ 31) (habove : 2 ^ 31 ≤ (stream enc gs).length + (enc f).length)
    {buffer : Bytes} (hbuf : buffer = stream enc gs ++ enc f ++ (enc g ++ post)) :
    (receiveLoop (left buffer) (one buffer) (buffer.length + 1) s 0 0).result = .error .undefined := by
  have hcount : gs.length ≤ (stream enc gs).length := length_le_stream h.enc_ne_nil gs
  have hf := (h.size f).1
  subst hbuf
  obtain ⟨fuel, hfuel⟩ : ∃ fuel, (stream enc gs ++ enc f ++ (enc g ++ post)).length + 1
      = (fuel + 2) + gs.length :=
    ⟨(stream enc gs ++ enc f ++ (enc g ++ post)).length - gs.length - 1, by
      simp only [List.length_append]; omega⟩
  have hassoc : stream enc gs ++ enc f ++ (enc g ++ post)
      = stream enc gs ++ (enc f ++ (enc g ++ post)) := List.append_assoc _ _ _
  have hloop := receiveLoop_frames h hpush hnil (fuel + 2) hs gs (enc f ++ (enc g ++ post)) hbelow
  rw [← hassoc] at hloop
  rw [hfuel, hloop]
  exact receiveLoop_wrap h fuel (h.push_inv s _ hs) f g _ post hbelow habove

/-- **The loop meets `Lib.Trims`** as long as one call's frames stay below `2 ^ 31` bytes. -/
theorem trims_receiveLoop {queue : σ → List ο} (hqueue : ∀ s os, queue (push s os) = queue s ++ os)
    (hpush : ∀ s os os', push (push s os) os' = push s (os ++ os')) (hnil : ∀ s, push s [] = s) :
    Trims enc out (fun _ => inv) (fun gs _ => (stream enc gs).length < 2 ^ 31)
      (fun s binary =>
        (receiveLoop (left binary) (one binary) (binary.length + 1) s 0 0).toFeed queue s) where
  trim s gs rest t hs ht hlimit := by
    refine ⟨push s (gs.flatMap out), h.push_inv s _ hs, ?_⟩
    rw [receiveLoop_stream h hpush hnil hs ht hlimit, Reception.toFeed]
    simp only [hqueue, List.drop_left]

end

/-- The loop only extends a queue that each frame only extends. -/
theorem receiveLoop_queue {σ ο : Type} {left : Int → Nat → Nat}
    {one : σ → Int → Nat → Except Failure (Option (σ × Nat))} {queue : σ → List ο}
    (hone : ∀ s offset n s' size, one s offset n = .ok (some (s', size)) → queue s <+: queue s')
    (fuel : Nat) (s : σ) (offset : Int) (n : Nat) :
    queue s <+: queue (receiveLoop left one fuel s offset n).state := by
  induction fuel generalizing s offset n with
  | zero => exact List.prefix_rfl
  | succ fuel ih =>
    unfold receiveLoop
    split
    · split
      · exact List.prefix_rfl
      · exact List.prefix_rfl
      · rename_i s' size hcall
        exact (hone s offset n s' size hcall).trans (ih s' _ _)
    · exact List.prefix_rfl

/-- A call whose outputs are what it appended to the queue. -/
theorem toFeed_queue {σ ο : Type} {queue : σ → List ο} {s s' : σ} {r : Reception σ} {o : List ο} {n : Nat}
    (hgrows : queue s <+: queue r.state) (h : r.toFeed queue s = some (s', o, n)) :
    queue s' = queue s ++ o := by
  unfold Reception.toFeed at h
  split at h
  · simp only [Option.some.injEq, Prod.mk.injEq] at h
    obtain ⟨rfl, rfl, -⟩ := h
    obtain ⟨new, hnew⟩ := hgrows
    rw [← hnew, List.drop_left]
  · exact absurd h (by simp)

end Frrpc
