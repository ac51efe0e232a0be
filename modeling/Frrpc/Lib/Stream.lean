import Mathlib.Data.List.Basic

/-!
# `Lib.Stream` — cutting a stream of frames out of arbitrary chunks

A sender writes frames back to back (`stream enc fs`); the receiver sees the same elements cut at
arbitrary points. The receiving layer keeps the unread elements, appends each chunk, hands the whole
buffer to `recv` and drops as many elements as `recv` asks for (`feed`).

* `completed enc fs n` are the frames that lie wholly within the first `n` elements, and `Incomplete`
  describes what follows them: a proper piece of the next frame, or nothing.
* `Trims` is the contract of a receiver that emits the outputs of the completed frames and drops exactly
  these frames; its invariant sees the frames still to come. `Splits` says what any call that goes through
  has emitted and dropped, in whatever state.
* `feed_of_trimmed`: if every call trims, any cutting of any part of the stream delivers exactly the
  completed frames and leaves exactly the incomplete rest.
* `feed_iff_trimmed`: over the whole stream, delivering every frame exactly once happens **only** if every
  call trims.
-/

namespace Frrpc.Lib

variable {α φ ο σ : Type}

/-- All frames, back to back. -/
def stream (enc : φ → List α) (fs : List φ) : List α := fs.flatMap enc

/-- The frames lying wholly within the first `n` elements of `stream enc fs`. -/
def completed (enc : φ → List α) : List φ → Nat → List φ
  | [], _ => []
  | f :: fs, n =>
    if (enc f).length ≤ n then f :: completed enc fs (n - (enc f).length) else []

/-- `t` is what can follow the completed frames: a proper piece of the next frame, or nothing. -/
def Incomplete (enc : φ → List α) : List φ → List α → Prop
  | [], t => t = []
  | f :: _, t => t <+: enc f ∧ t.length < (enc f).length

variable {enc : φ → List α}

@[simp] theorem stream_nil : stream enc [] = [] := rfl

@[simp] theorem stream_cons (f : φ) (fs : List φ) : stream enc (f :: fs) = enc f ++ stream enc fs := rfl

@[simp] theorem stream_append (fs gs : List φ) :
    stream enc (fs ++ gs) = stream enc fs ++ stream enc gs := List.flatMap_append

theorem stream_eq_nil (hne : ∀ f, enc f ≠ []) {fs : List φ} (h : stream enc fs = []) : fs = [] := by
  cases fs with
  | nil => rfl
  | cons f fs => exact absurd (List.append_eq_nil_iff.mp h).1 (hne f)

theorem stream_replicate_length (n : Nat) (f : φ) :
    (stream enc (List.replicate n f)).length = n * (enc f).length := by
  induction n with
  | zero => simp
  | succ n ih => rw [List.replicate_succ, stream_cons, List.length_append, ih, Nat.succ_mul]; omega

/-! ## Splitting a delivered prefix -/

/-- Frames that are completely present are completed, whatever follows. -/
theorem completed_append (gs rest : List φ) (n : Nat) :
    completed enc (gs ++ rest) ((stream enc gs).length + n) = gs ++ completed enc rest n := by
  induction gs with
  | nil => simp
  | cons g gs ih =>
    have hlen : (enc g).length + (stream enc gs).length + n - (enc g).length
        = (stream enc gs).length + n := by omega
    simp only [List.cons_append, completed, stream_cons, List.length_append, hlen, ih]
    rw [if_pos (by omega)]

/-- A proper piece of the next frame completes nothing. -/
theorem completed_incomplete {rest : List φ} {t : List α} (h : Incomplete enc rest t) :
    completed enc rest t.length = [] := by
  cases rest with
  | nil => rfl
  | cons f rest => simp only [completed]; rw [if_neg (Nat.not_le.mpr h.2)]

/-- **A delivered prefix splits uniquely** into the completed frames and an incomplete rest. -/
theorem prefix_split {fs : List φ} {b : List α} (hb : b <+: stream enc fs) :
    ∃ gs rest t, fs = gs ++ rest ∧ b = stream enc gs ++ t ∧ Incomplete enc rest t := by
  induction fs generalizing b with
  | nil => exact ⟨[], [], b, rfl, rfl, List.prefix_nil.mp hb⟩
  | cons f fs ih =>
    by_cases hlen : (enc f).length ≤ b.length
    · obtain ⟨b', rfl⟩ := List.prefix_of_prefix_length_le (List.prefix_append _ _) hb hlen
      rw [stream_cons, List.prefix_append_right_inj] at hb
      obtain ⟨gs, rest, t, rfl, rfl, ht⟩ := ih hb
      exact ⟨f :: gs, rest, t, rfl, by rw [stream_cons, List.append_assoc], ht⟩
    · refine ⟨[], f :: fs, b, rfl, rfl, ?_, Nat.not_le.mp hlen⟩
      exact List.prefix_of_prefix_length_le hb (List.prefix_append _ _) (by omega)

theorem completed_split {gs rest : List φ} {t : List α} (ht : Incomplete enc rest t) :
    completed enc (gs ++ rest) (stream enc gs ++ t).length = gs := by
  rw [List.length_append, completed_append, completed_incomplete ht, List.append_nil]

/-- What was delivered splits in only one way. -/
theorem split_unique {gs rest gs' rest' : List φ} {t t' : List α} (ht : Incomplete enc rest t)
    (ht' : Incomplete enc rest' t') (hfs : gs ++ rest = gs' ++ rest')
    (hb : stream enc gs ++ t = stream enc gs' ++ t') : gs = gs' ∧ t = t' := by
  have hgs := @completed_split _ _ enc gs rest t ht
  rw [hfs, hb, completed_split ht'] at hgs
  subst hgs
  exact ⟨rfl, List.append_cancel_left hb⟩

/-- **The first of several pieces splits**, and its incomplete rest goes on with the later ones. -/
theorem first_split {fs : List φ} {unread c later : List α} (h : unread ++ (c ++ later) <+: stream enc fs) :
    ∃ gs rest t, fs = gs ++ rest ∧ unread ++ c = stream enc gs ++ t ∧ Incomplete enc rest t ∧
      unread ++ (c ++ later) = stream enc gs ++ (t ++ later) ∧ t ++ later <+: stream enc rest := by
  rw [← List.append_assoc] at h ⊢
  obtain ⟨gs, rest, t, rfl, hb, ht⟩ := prefix_split ((List.prefix_append _ later).trans h)
  refine ⟨gs, rest, t, rfl, hb, ht, by rw [hb, List.append_assoc], ?_⟩
  rwa [hb, List.append_assoc, stream_append, List.prefix_append_right_inj] at h

/-- The same of a whole stream. -/
theorem first_split_whole {fs : List φ} {unread c later : List α}
    (h : unread ++ (c ++ later) = stream enc fs) :
    ∃ gs rest t, fs = gs ++ rest ∧ unread ++ c = stream enc gs ++ t ∧ Incomplete enc rest t ∧
      t ++ later = stream enc rest := by
  have hpre : unread ++ (c ++ later) <+: stream enc fs := ⟨[], (List.append_nil _).trans h⟩
  obtain ⟨gs, rest, t, rfl, hb, ht, hsplit, _⟩ := first_split hpre
  rw [h, stream_append, List.append_right_inj] at hsplit
  exact ⟨gs, rest, t, rfl, hb, ht, hsplit.symm⟩

/-! ## The receiving layer -/

/-- Feed the chunks one by one: unread elements and the chunk go to `recv`, which returns the new state,
    the outputs and the number of elements to drop; `none` ends the connection. The result is the final
    state, all outputs in order, and the elements still unread. -/
def feed (recv : σ → List α → Option (σ × List ο × Nat)) :
    σ → List α → List (List α) → Option (σ × List ο × List α)
  | s, unread, [] => some (s, [], unread)
  | s, unread, c :: cs => do
    let (s₁, out₁, n) ← recv s (unread ++ c)
    let (s₂, out₂, unread₂) ← feed recv s₁ ((unread ++ c).drop n) cs
    return (s₂, out₁ ++ out₂, unread₂)

theorem feed_cons_some {recv : σ → List α → Option (σ × List ο × Nat)} {s s₁ : σ}
    {unread c : List α} {cs : List (List α)} {o : List ο} {n : Nat}
    (h : recv s (unread ++ c) = some (s₁, o, n)) :
    feed recv s unread (c :: cs)
      = (feed recv s₁ ((unread ++ c).drop n) cs).map (fun r => (r.1, o ++ r.2.1, r.2.2)) := by
  simp only [feed, h, Option.bind_eq_bind, Option.bind_some]
  cases feed recv s₁ ((unread ++ c).drop n) cs <;> rfl

theorem feed_cons_none {recv : σ → List α → Option (σ × List ο × Nat)} {s : σ}
    {unread c : List α} {cs : List (List α)} (h : recv s (unread ++ c) = none) :
    feed recv s unread (c :: cs) = none := by
  simp [feed, h]

/-- A run that goes through is its first call followed by a run of the later ones. -/
theorem feed_cons_cases {recv : σ → List α → Option (σ × List ο × Nat)} {s s' : σ}
    {unread unread' c : List α} {cs : List (List α)} {o : List ο}
    (h : feed recv s unread (c :: cs) = some (s', o, unread')) :
    ∃ s₁ o₁ n o₂, recv s (unread ++ c) = some (s₁, o₁, n) ∧
      feed recv s₁ ((unread ++ c).drop n) cs = some (s', o₂, unread') ∧ o = o₁ ++ o₂ := by
  cases hcall : recv s (unread ++ c) with
  | none =>
    rw [feed_cons_none hcall] at h
    cases h
  | some r =>
    obtain ⟨s₁, o₁, n⟩ := r
    rw [feed_cons_some hcall] at h
    obtain ⟨⟨s₂, o₂, u₂⟩, hlater, heq⟩ := Option.map_eq_some_iff.mp h
    cases heq
    exact ⟨s₁, o₁, n, o₂, rfl, hlater, rfl⟩

/-- If every call appends its outputs to a queue in the state, the run appends all of them. -/
theorem feed_queue {recv : σ → List α → Option (σ × List ο × Nat)} {queue : σ → List ο}
    (hrecv : ∀ s b s' o n, recv s b = some (s', o, n) → queue s' = queue s ++ o) {s s' : σ}
    {unread unread' : List α} {chunks : List (List α)} {o : List ο}
    (h : feed recv s unread chunks = some (s', o, unread')) : queue s' = queue s ++ o := by
  induction chunks generalizing s unread o with
  | nil =>
    simp only [feed, Option.some.injEq, Prod.mk.injEq] at h
    obtain ⟨rfl, rfl, -⟩ := h
    rw [List.append_nil]
  | cons c cs ih =>
    obtain ⟨s₁, o₁, n, o₂, hcall, hlater, rfl⟩ := feed_cons_cases h
    rw [ih hlater, hrecv _ _ _ _ _ hcall, List.append_assoc]

/-- The contract of a frame-splitting receiver. In the states of interest (`inv`, which sees the frames
    still to come), a buffer made of the completed frames `gs` and an incomplete rest `t` yields the outputs
    of `gs`, and when `trims gs t` holds the receiver drops exactly `gs`. -/
structure Trims (enc : φ → List α) (out : φ → List ο) (inv : List φ → σ → Prop)
    (trims : List φ → List α → Prop) (recv : σ → List α → Option (σ × List ο × Nat)) : Prop where
  trim : ∀ s gs rest t, inv (gs ++ rest) s → Incomplete enc rest t → trims gs t →
    ∃ s', inv rest s' ∧ recv s (stream enc gs ++ t) = some (s', gs.flatMap out, (stream enc gs).length)

/-- What a call that goes through has done, whatever state it began in: it has emitted the outputs of the
    completed frames; it dropped them when `trims` holds, and otherwise there were some and it dropped
    nothing. -/
structure Splits (enc : φ → List α) (out : φ → List ο) (trims : List φ → List α → Prop)
    (recv : σ → List α → Option (σ × List ο × Nat)) : Prop where
  call : ∀ s gs rest t s' o n, Incomplete enc rest t → recv s (stream enc gs ++ t) = some (s', o, n) →
    o = gs.flatMap out ∧ (trims gs t → n = (stream enc gs).length) ∧ (¬ trims gs t → gs ≠ [] ∧ n = 0)

/-- Every call of the run trims: the buffer of each call is the `unread` piece of the frames `fs` still to
    be delivered followed by the chunk, and after a trimming call only the incomplete rest is left. -/
def AllTrimmed (enc : φ → List α) (trims : List φ → List α → Prop) :
    List φ → List α → List (List α) → Prop
  | _, _, [] => True
  | fs, unread, c :: cs =>
    let gs := completed enc fs (unread ++ c).length
    let t := (unread ++ c).drop (stream enc gs).length
    trims gs t ∧ AllTrimmed enc trims (fs.drop gs.length) t cs

theorem allTrimmed_cons_split {trims : List φ → List α → Prop} {gs rest : List φ}
    {unread c t : List α} {cs : List (List α)} (hb : unread ++ c = stream enc gs ++ t)
    (ht : Incomplete enc rest t) :
    AllTrimmed enc trims (gs ++ rest) unread (c :: cs)
      ↔ trims gs t ∧ AllTrimmed enc trims rest t cs := by
  simp only [AllTrimmed, hb, completed_split ht, List.drop_left]

section Receiver

variable {out : φ → List ο} {inv : List φ → σ → Prop} {trims : List φ → List α → Prop}
  {recv : σ → List α → Option (σ × List ο × Nat)}

/-- **Delivery.** If every call trims, feeding any part of the stream, cut in any way, emits exactly the
    outputs of the completed frames and leaves exactly what follows them unread. -/
theorem feed_of_trimmed (hr : Trims enc out inv trims recv) {s : σ} {fs : List φ} (hs : inv fs s)
    {unread : List α} {chunks : List (List α)} (hu : Incomplete enc fs unread)
    (hpre : unread ++ chunks.flatten <+: stream enc fs) (hall : AllTrimmed enc trims fs unread chunks) :
    ∃ s' gs rest t, fs = gs ++ rest ∧ unread ++ chunks.flatten = stream enc gs ++ t ∧
      Incomplete enc rest t ∧ feed recv s unread chunks = some (s', gs.flatMap out, t) := by
  induction chunks generalizing s fs unread with
  | nil => exact ⟨s, [], fs, unread, rfl, by simp, hu, rfl⟩
  | cons c cs ih =>
    rw [List.flatten_cons] at hpre ⊢
    obtain ⟨gs, rest, t, rfl, hb, ht, hflat, hpre'⟩ := first_split hpre
    obtain ⟨htrim, hrest⟩ := (allTrimmed_cons_split hb ht).mp hall
    -- the call uses up the frames `gs`; the invariant goes on with `rest`
    obtain ⟨s₁, hs₁, hcall⟩ := hr.trim s gs rest t hs ht htrim
    obtain ⟨s', gs', rest', t', rfl, heq, ht', hfeed⟩ := ih hs₁ ht hpre' hrest
    refine ⟨s', gs ++ gs', rest', t', (List.append_assoc ..).symm, ?_, ht', ?_⟩
    · rw [hflat, heq, stream_append, List.append_assoc]
    · rw [feed_cons_some (by rw [hb]; exact hcall), hb, List.drop_left, hfeed, List.flatMap_append]
      rfl

/-- The same, when the delivered frames are given. -/
theorem feed_delivers (hr : Trims enc out inv trims recv) {s : σ} {gs rest : List φ}
    (hs : inv (gs ++ rest) s) {t : List α} {chunks : List (List α)} (hne : ∀ f, enc f ≠ [])
    (hchunks : chunks.flatten = stream enc gs ++ t) (ht : Incomplete enc rest t)
    (hall : AllTrimmed enc trims (gs ++ rest) [] chunks) :
    ∃ s', feed recv s [] chunks = some (s', gs.flatMap out, t) := by
  have hu : Incomplete enc (gs ++ rest) [] := by
    cases hfs : gs ++ rest with
    | nil => rfl
    | cons f fs => exact ⟨List.nil_prefix, List.length_pos_iff.mpr (hne f)⟩
  have hpre : [] ++ chunks.flatten <+: stream enc (gs ++ rest) := by
    rw [List.nil_append, hchunks, stream_append, List.prefix_append_right_inj]
    cases rest with
    | nil => rw [show t = [] from ht]; exact List.nil_prefix
    | cons f rest => exact ht.1.trans (List.prefix_append _ _)
  obtain ⟨s', gs', rest', t', hfs, heq, ht', hfeed⟩ := feed_of_trimmed hr hs hu hpre hall
  rw [List.nil_append, hchunks] at heq
  obtain ⟨rfl, rfl⟩ := split_unique ht ht' hfs heq
  exact ⟨s', hfeed⟩

/-- A run that ends with nothing unread has emitted at least the outputs of every frame, whatever state it
    began in. -/
theorem feed_length_ge (hr : Splits enc out trims recv) (hne : ∀ f, enc f ≠ []) {s s' : σ} {fs : List φ}
    {unread : List α} {chunks : List (List α)} {o : List ο} (hall : unread ++ chunks.flatten = stream enc fs)
    (hfeed : feed recv s unread chunks = some (s', o, [])) : (fs.flatMap out).length ≤ o.length := by
  induction chunks generalizing s fs unread o with
  | nil =>
    simp only [feed, Option.some.injEq, Prod.mk.injEq] at hfeed
    obtain ⟨_, rfl, rfl⟩ := hfeed
    have hfs : fs = [] := stream_eq_nil hne (by simpa using hall.symm)
    subst hfs
    exact Nat.zero_le _
  | cons c cs ih =>
    rw [List.flatten_cons] at hall
    obtain ⟨gs, rest, t, rfl, hb, ht, hrest⟩ := first_split_whole hall
    obtain ⟨s₁, o₁, n, o₂, hcall, hlater, rfl⟩ := feed_cons_cases hfeed
    rw [hb] at hcall hlater
    obtain ⟨rfl, hdrops, hkeeps⟩ := hr.call s gs rest t s₁ o₁ n ht hcall
    by_cases htrim : trims gs t
    · -- the completed frames are dropped: later calls still owe the rest
      rw [hdrops htrim, List.drop_left] at hlater
      have := ih hrest hlater
      simp only [List.flatMap_append, List.length_append]
      omega
    · -- nothing is dropped: later calls owe every frame again
      rw [(hkeeps htrim).2, List.drop_zero] at hlater
      have := ih (by rw [List.append_assoc, hrest, ← stream_append]) hlater
      simp only [List.length_append]
      omega

/-- **Exactly once needs every call to trim**: frames that are handled and kept come out again. -/
theorem allTrimmed_of_feed (hr : Splits enc out trims recv) (hne : ∀ f, enc f ≠ []) (hout : ∀ f, out f ≠ [])
    {s s' : σ} {fs : List φ} {unread : List α} {chunks : List (List α)}
    (hall : unread ++ chunks.flatten = stream enc fs)
    (hfeed : feed recv s unread chunks = some (s', fs.flatMap out, [])) :
    AllTrimmed enc trims fs unread chunks := by
  induction chunks generalizing s fs unread with
  | nil => trivial
  | cons c cs ih =>
    rw [List.flatten_cons] at hall
    obtain ⟨gs, rest, t, rfl, hb, ht, hrest⟩ := first_split_whole hall
    obtain ⟨s₁, o₁, n, o₂, hcall, hlater, ho⟩ := feed_cons_cases hfeed
    rw [hb] at hcall hlater
    obtain ⟨rfl, hdrops, hkeeps⟩ := hr.call s gs rest t s₁ o₁ n ht hcall
    apply (allTrimmed_cons_split hb ht).mpr
    by_cases htrim : trims gs t
    · rw [hdrops htrim, List.drop_left] at hlater
      rw [List.flatMap_append, List.append_right_inj] at ho
      subst ho
      exact ⟨htrim, ih hrest hlater⟩
    · -- the frames `gs` come out now and, being kept, once more later: too many outputs
      exfalso
      obtain ⟨hgs, rfl⟩ := hkeeps htrim
      rw [List.drop_zero] at hlater
      have hmore := feed_length_ge hr hne (by rw [List.append_assoc, hrest, ← stream_append]) hlater
      have hlen := congrArg List.length ho
      obtain ⟨g, gs', rfl⟩ := List.exists_cons_of_ne_nil hgs
      have hpos : 0 < (out g).length := List.length_pos_iff.mpr (hout g)
      simp only [List.length_append, List.flatMap_append, List.flatMap_cons] at hlen hmore
      omega

/-- **Exactly once, exactly when every call trims.** Over the whole stream, from a state in which the
    receiver takes its frames, the run emits the outputs of every frame once and in order and leaves nothing
    unread if and only if every call trims. -/
theorem feed_iff_trimmed (htrims : Trims enc out inv trims recv) (hsplits : Splits enc out trims recv)
    (hne : ∀ f, enc f ≠ []) (hout : ∀ f, out f ≠ []) {s : σ} {fs : List φ} (hs : inv fs s)
    {chunks : List (List α)} (hall : chunks.flatten = stream enc fs) :
    (∃ s', feed recv s [] chunks = some (s', fs.flatMap out, [])) ↔ AllTrimmed enc trims fs [] chunks := by
  constructor
  · rintro ⟨s', hfeed⟩
    exact allTrimmed_of_feed hsplits hne hout hall hfeed
  · intro htrim
    have hs : inv (fs ++ []) s := by rwa [List.append_nil]
    have hchunks : chunks.flatten = stream enc fs ++ [] := by rw [hall, List.append_nil]
    exact feed_delivers htrims hs hne hchunks rfl (by rwa [List.append_nil])

end Receiver

/-! ## Cursor loops

The receivers walk a buffer with a cursor, one frame an iteration. From what one iteration does at a frame
follow what the loop does over all of them, and what becomes of a cursor too narrow for the buffer. -/

section Loop

variable {ρ : Type} {out : φ → List ο} {limit : Nat}

/-- Frames are not empty, so there are at most as many as there are elements. -/
theorem length_le_stream (hne : ∀ f, enc f ≠ []) (gs : List φ) : gs.length ≤ (stream enc gs).length := by
  induction gs with
  | nil => exact Nat.le_refl _
  | cons g gs ih =>
    have := List.length_pos_iff.mpr (hne g)
    rw [stream_cons, List.length_append, List.length_cons]
    omega

/-- **All frames within the cursor's range are handled**, one iteration each, as long as the loop's result
    is one of interest (`good`). The invariant sees the frames still to come. -/
theorem loop_frames (loop : Nat → σ → List ο → Nat → ρ) (good : ρ → Prop) (buffer : List α)
    (inv : List φ → σ → Prop)
    (hstep : ∀ fuel s log pre f fs post, inv (f :: fs) s → good (loop (fuel + 1) s log pre.length) →
      buffer = pre ++ enc f ++ post → pre.length + (enc f).length < limit → ∃ s', inv fs s' ∧
        loop (fuel + 1) s log pre.length
          = loop fuel s' (log ++ out f) (pre.length + (enc f).length))
    (gs rest : List φ) (fuel : Nat) (s : σ) (log : List ο) {pre post : List α} (hs : inv (gs ++ rest) s)
    (hgood : good (loop (fuel + gs.length) s log pre.length)) (hbuf : buffer = pre ++ stream enc gs ++ post)
    (hlimit : pre.length + (stream enc gs).length < limit) :
    ∃ s', inv rest s' ∧ loop (fuel + gs.length) s log pre.length
      = loop fuel s' (log ++ gs.flatMap out) (pre.length + (stream enc gs).length) := by
  induction gs generalizing s log pre with
  | nil => exact ⟨s, hs, by simp⟩
  | cons f gs ih =>
    rw [stream_cons, List.length_append] at hlimit
    have hone : buffer = pre ++ enc f ++ (stream enc gs ++ post) := by
      rw [hbuf, stream_cons]; simp only [List.append_assoc]
    rw [List.length_cons, ← Nat.add_assoc] at hgood
    obtain ⟨s₁, hs₁, hfirst⟩ :=
      hstep (fuel + gs.length) s log pre f (gs ++ rest) _ hs hgood hone (by omega)
    -- one iteration on, the loop still has the same result
    rw [hfirst, ← List.length_append] at hgood
    have hrest : buffer = (pre ++ enc f) ++ stream enc gs ++ post := by
      rw [hone]; simp only [List.append_assoc]
    obtain ⟨s₂, hs₂, hlater⟩ :=
      ih s₁ (log ++ out f) hs₁ hgood hrest (by rw [List.length_append]; omega)
    refine ⟨s₂, hs₂, ?_⟩
    rw [List.length_cons, ← Nat.add_assoc, hfirst, ← List.length_append, hlater, List.flatMap_cons,
      List.append_assoc, stream_cons, List.length_append, List.length_append, Nat.add_assoc]

/-- Frames that reach the limit contain one that crosses it. -/
theorem exists_crossing {gs : List φ} (h : limit ≤ (stream enc gs).length) (hpos : 0 < limit) :
    ∃ gs₁ f gs₂, gs = gs₁ ++ f :: gs₂ ∧ (stream enc gs₁).length < limit ∧
      limit ≤ (stream enc gs₁).length + (enc f).length := by
  induction gs generalizing limit with
  | nil => exact absurd h (Nat.not_le.mpr hpos)
  | cons f gs ih =>
    rw [stream_cons, List.length_append] at h
    by_cases hf : limit ≤ (enc f).length
    · exact ⟨[], f, gs, rfl, by simpa using hpos, by simpa using hf⟩
    · obtain ⟨gs₁, g, gs₂, rfl, hlt, hle⟩ := @ih (limit - (enc f).length) (by omega) (by omega)
      refine ⟨f :: gs₁, g, gs₂, rfl, ?_, ?_⟩ <;> rw [stream_cons, List.length_append] <;> omega

end Loop

end Frrpc.Lib
