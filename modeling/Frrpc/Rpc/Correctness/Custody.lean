import Frrpc.Lib.Tokens
import Frrpc.Rpc.Correctness.Expire
import Frrpc.Rpc.Correctness.Threads

/-!
# `Rpc.Correctness.Custody` — a callback completes at most once

Four things take a callback out of the pending map: its response, a late or repeated response, the timeout
sweep and a cancel. Each moves it on to the queue or drops it, in one step under the lock; from the queue it
goes to one work thread's batch, and from there it is called. So the callbacks are tokens over the map, the
queue, the batches and the calls (`step_tokens`), and none is ever in two places (`completes_at_most_once`).
-/

namespace Frrpc

open Lib Std

namespace Channel

/-- The callbacks that wait for their response. -/
def pending (c : Channel) : List Nat := (vals c.requestCallback).map ChannelCallback.ptr

/-- The callbacks that a channel holds: pending or queued. -/
def held (c : Channel) : List Nat := c.pending ++ c.alreadyCallbackQueue.map ChannelCallback.ptr

theorem pending_erase {c : Channel} {requestId : RpcRequestId} {callback : ChannelCallback}
    (h : c.requestCallback[requestId]? = some callback) :
    c.pending.Perm (callback.ptr :: (vals (c.requestCallback.erase requestId)).map ChannelCallback.ptr) :=
  (vals_erase_perm h).map ChannelCallback.ptr

/-- The channel keeps what it holds, and nothing new is pending. -/
structure Keeps (c c' : Channel) : Prop where
  nextPtr : c'.nextPtr = c.nextPtr
  held : c'.held.Perm c.held
  pending : ∀ p ∈ c'.pending, p ∈ c.pending

theorem Keeps.refl (c : Channel) : Keeps c c := ⟨rfl, .refl _, fun _ h => h⟩

theorem Keeps.trans {c c' c'' : Channel} (h : Keeps c c') (h' : Keeps c' c'') : Keeps c c'' :=
  ⟨h'.nextPtr.trans h.nextPtr, h'.held.trans h.held, fun p hp => h.pending p (h'.pending p hp)⟩

/-- A change of anything else. -/
theorem Keeps.of_eq {c c' : Channel} (hnext : c'.nextPtr = c.nextPtr)
    (hmap : c'.requestCallback = c.requestCallback)
    (hqueue : c'.alreadyCallbackQueue = c.alreadyCallbackQueue) : Keeps c c' := by
  refine ⟨hnext, ?_, ?_⟩
  · rw [Channel.held, Channel.pending, hmap, hqueue]
    exact .refl _
  · intro p hp
    rw [Channel.pending, hmap] at hp
    exact hp

/-- **A completion moves the callback from the map to the queue.** -/
theorem keeps_finish {c : Channel} {requestId : RpcRequestId} {callback callback' : ChannelCallback}
    (h : c.requestCallback[requestId]? = some callback) (hptr : callback'.ptr = callback.ptr) :
    Keeps c (c.finish requestId callback') := by
  have herase := pending_erase h
  refine ⟨rfl, ?_, fun p hp => herase.mem_iff.mpr (List.mem_cons_of_mem _ hp)⟩
  -- the address is counted once less in the map and once more in the queue
  rw [List.perm_iff_count] at herase ⊢
  intro p
  have hp := herase p
  simp only [held, finish, pending, List.map_append, List.map_cons, List.map_nil, hptr, List.count_append,
    List.count_cons, List.count_nil] at hp ⊢
  omega

theorem keeps_doRequestPacket {c c' : Channel} {package : RpcPacket}
    (h : c.doRequestPacket package = some c') : Keeps c c' := by
  rcases doRequestPacket_cases h with ⟨_, rfl⟩ | ⟨callback, callback', hentry, _, hsame, rfl⟩
  · exact .refl _
  · exact keeps_finish hentry hsame.ptr

theorem keeps_expire (c : Channel) (requestId : RpcRequestId) : Keeps c (c.expire requestId) := by
  cases h : c.requestCallback[requestId]? with
  | none =>
    rw [expire, h]
    exact .refl c
  | some callback =>
    rw [expire, h]
    exact keeps_finish h (ChannelCallback.setFailed_ptr _ _)

theorem keeps_clearTimeoutRequest (c : Channel) (curTime : Int) : Keeps c (c.clearTimeoutRequest curTime) :=
  clearTimeoutRequest_rel (fun _ _ => .of_eq rfl rfl rfl) keeps_expire (fun _ _ _ => .trans) c curTime

/-- **A cancel drops the callback.** -/
theorem held_cancel {c : Channel} {requestId : RpcRequestId} {callback : ChannelCallback}
    (h : c.requestCallback[requestId]? = some callback) :
    c.held.Perm (callback.ptr ::
      ({ c with requestCallback := c.requestCallback.erase requestId } : Channel).held) :=
  (pending_erase h).append_right _

end Channel

namespace ChannelThreads

/-- The callbacks of the whole system, called ones included. -/
def tokens (s : ChannelThreads) : List Nat :=
  s.channel.held ++ (s.batches.flatten ++ s.called).map ChannelCallback.ptr

/-- Every callback is at one place. -/
def Owned (s : ChannelThreads) : Prop := Linear s.channel.nextPtr s.tokens

/-- A callback that has left the map, or was never in it. -/
def Left (s : ChannelThreads) (p : Nat) : Prop := p < s.channel.nextPtr ∧ p ∉ s.channel.pending

/-- A callback that is nowhere any more. -/
def Gone (s : ChannelThreads) (p : Nat) : Prop := p < s.channel.nextPtr ∧ p ∉ s.tokens

/-- One step: what it does to the callbacks, and that only a new one becomes pending. -/
structure CustodyStep (s s' : ChannelThreads) : Prop where
  tokens : TokenStep s.channel.nextPtr s.tokens s'.channel.nextPtr s'.tokens
  pending : ∀ p ∈ s'.channel.pending, p ∈ s.channel.pending ∨ p = s.channel.nextPtr

theorem CustodyStep.of_keeps {s s' : ChannelThreads} (h : s.channel.Keeps s'.channel)
    (hbatches : s'.batches = s.batches) (hcalled : s'.called = s.called) : CustodyStep s s' := by
  refine ⟨?_, fun p hp => Or.inl (h.pending p hp)⟩
  rw [ChannelThreads.tokens, ChannelThreads.tokens, hbatches, hcalled, h.nextPtr]
  exact (TokenStep.kept h.held).append_right _

theorem custody_insert {s s' : ChannelThreads} {index : Nat} (h : s.insert index = some s') :
    CustodyStep s s' := by
  obtain ⟨invocation, _, _, ⟨_, rfl⟩ | ⟨hnone, rfl⟩⟩ := insert_cases h
  · exact .of_keeps (.refl _) rfl rfl
  · -- the new callback is the only change to the map
    have hpending := (vals_insertIfNew_perm
      (v := s.channel.newCallback invocation.method invocation.requestId) hnone).map ChannelCallback.ptr
    rw [List.map_cons] at hpending
    refine ⟨TokenStep.append_right (.fresh (hpending.append_right _)) _, fun p hp => ?_⟩
    rcases List.mem_cons.mp (hpending.mem_iff.mp hp) with rfl | hold
    · exact Or.inr rfl
    · exact Or.inl hold

theorem custody_cancel (s : ChannelThreads) (requestId : RpcRequestId) :
    CustodyStep s { s with channel := (s.channel.cancelRequest requestId).1 } := by
  rcases s.channel.cancelRequest_cases requestId with ⟨_, heq⟩ | ⟨callback, hentry, heq⟩
  · rw [heq]
    exact .of_keeps (.refl _) rfl rfl
  · rw [heq]
    refine ⟨TokenStep.append_right (.lost callback.ptr (Channel.held_cancel hentry)) _,
      fun p hp => Or.inl ?_⟩
    exact (Channel.pending_erase hentry).mem_iff.mpr (List.mem_cons_of_mem _ hp)

theorem custody_registerPacket {s : ChannelThreads} {channel : Channel} {package : RpcPacket}
    (h : s.channel.doRegisterPacket package = some channel) : CustodyStep s { s with channel } := by
  rcases Channel.doRegisterPacket_cases h with rfl | ⟨callback, hptr, _, rfl⟩
  · exact .of_keeps (.refl _) rfl rfl
  · refine ⟨TokenStep.append_right (.fresh ?_) _, fun p hp => Or.inl hp⟩
    rw [List.perm_iff_count]
    intro p
    simp only [Channel.held, Channel.pending, List.map_append, List.map_cons, List.map_nil, hptr,
      List.count_append, List.count_cons, List.count_nil]
    omega

/-- A batch leaves the queue, a called callback its batch. -/
theorem custody_pop {s s' : ChannelThreads} {thread dealMsgNumOnce : Nat}
    (h : s.pop thread dealMsgNumOnce = some s') : CustodyStep s s' := by
  obtain ⟨hget, batch, queue, hqueue, rfl⟩ := pop_cases h
  refine ⟨.kept ?_, fun p hp => Or.inl hp⟩
  rw [List.perm_iff_count]
  intro p
  -- the thread had no batch, so all batches together grow by what the queue loses
  have hbatches := count_flatten_set ChannelCallback.ptr hget batch p
  simp only [tokens, Channel.held, Channel.pending, hqueue, List.map_append, List.count_append,
    List.map_nil, List.count_nil] at hbatches ⊢
  omega

theorem custody_call {s s' : ChannelThreads} {thread : Nat} (h : s.call thread = some s') :
    CustodyStep s s' := by
  obtain ⟨callback, batch, hget, rfl⟩ := call_cases h
  refine ⟨.kept ?_, fun p hp => Or.inl hp⟩
  rw [List.perm_iff_count]
  intro p
  have hbatches := count_flatten_set ChannelCallback.ptr hget batch p
  simp only [tokens, List.map_append, List.map_cons, List.map_nil, List.count_append, List.count_cons,
    List.count_nil] at hbatches ⊢
  omega

theorem tokens_started (option : ChannelOption) (workThreadNum : Nat) :
    (started option workThreadNum).tokens = [] := by
  have hbatches : (List.replicate workThreadNum ([] : List ChannelCallback)).flatten = [] := by
    simp
  have hpending : (started option workThreadNum).channel.pending = [] := by
    show (vals (∅ : ExtTreeMap RpcRequestId ChannelCallback)).map ChannelCallback.ptr = []
    rw [vals_empty]
    rfl
  rw [tokens, Channel.held, hpending]
  show ([] ++ []) ++ ((List.replicate workThreadNum []).flatten ++ []).map ChannelCallback.ptr = []
  rw [hbatches]
  rfl

theorem owned_started (option : ChannelOption) (workThreadNum : Nat) :
    (started option workThreadNum).Owned := by
  rw [Owned, tokens_started]
  exact linear_nil _

theorem Gone.not_called {s : ChannelThreads} {p : Nat} (h : s.Gone p) :
    p ∉ s.called.map ChannelCallback.ptr := by
  intro hp
  apply h.2
  rw [tokens, List.map_append]
  exact List.mem_append_right _ (List.mem_append_right _ hp)

section

variable [Protobuf] [FrNet]

/-- **What a step does to the callbacks.** -/
theorem step_tokens {s s' : ChannelThreads} {e : Event} (h : step s e = some s') : CustodyStep s s' := by
  cases e with
  | allocate method =>
    obtain rfl := Option.some.inj h
    rw [allocate]
    split
    · exact .of_keeps (.of_eq rfl rfl rfl) rfl rfl
    · exact .of_keeps (.refl _) rfl rfl
  | insert index => exact custody_insert h
  | send index =>
    obtain ⟨_, _, _, _, _, _, _, rfl⟩ := send_cases h
    exact .of_keeps (.of_eq rfl rfl rfl) rfl rfl
  | schedule index localTimeMs =>
    obtain ⟨_, _, _, _, rfl⟩ := pushTimeout_cases h
    exact .of_keeps (.of_eq rfl rfl rfl) rfl rfl
  | requestPacket package =>
    obtain ⟨channel, hpacket, rfl⟩ := Option.map_eq_some_iff.mp h
    exact .of_keeps (Channel.keeps_doRequestPacket hpacket) rfl rfl
  | registerPacket package =>
    obtain ⟨channel, hpacket, rfl⟩ := Option.map_eq_some_iff.mp h
    exact custody_registerPacket hpacket
  | clearTimeout curTime =>
    obtain rfl := Option.some.inj h
    exact .of_keeps (s.channel.keeps_clearTimeoutRequest curTime) rfl rfl
  | cancel requestId =>
    obtain rfl := Option.some.inj h
    exact custody_cancel s requestId
  | registerCallback callbackKey info =>
    obtain ⟨channel, hregister, rfl⟩ := Option.map_eq_some_iff.mp h
    obtain ⟨_, rfl⟩ := Channel.registerCallbackInfo_cases hregister
    exact .of_keeps (.of_eq rfl rfl rfl) rfl rfl
  | pop thread dealMsgNumOnce => exact custody_pop h
  | call thread => exact custody_call h

/-! ## Runs -/

/-- No callback is in two places. -/
theorem linear_reachable {option : ChannelOption} {workThreadNum : Nat} {s : ChannelThreads}
    (hrun : Reaches step anyStep (started option workThreadNum) s) : s.Owned := by
  apply hrun.invariant (owned_started option workThreadNum)
  intro s e s' _ howned hstep
  exact (step_tokens hstep).tokens.linear howned

/-- A callback that is not pending does not become pending again. -/
theorem left_reachable {s s' : ChannelThreads} (hrun : Reaches step anyStep s s') {p : Nat}
    (h : s.Left p) : s'.Left p := by
  apply hrun.invariant h
  rintro s e s' _ ⟨hdrawn, hnot⟩ hstep
  have hcustody := step_tokens hstep
  refine ⟨Nat.lt_of_lt_of_le hdrawn hcustody.tokens.next_le, fun hp => ?_⟩
  rcases hcustody.pending p hp with hold | rfl
  · exact hnot hold
  · exact Nat.lt_irrefl _ hdrawn

/-- A callback that is nowhere stays nowhere. -/
theorem gone_reachable {s s' : ChannelThreads} (hrun : Reaches step anyStep s s') {p : Nat}
    (h : s.Gone p) : s'.Gone p := by
  apply hrun.invariant h
  rintro s e s' _ ⟨hdrawn, hgone⟩ hstep
  exact (step_tokens hstep).tokens.gone hdrawn hgone

/-- **A request completes at most once**, whatever its threads do and whatever packets, timeouts and cancels
    come in whatever order: each callback is at one place among the pending map, the queue, the batches and
    the calls made; one that has left the map does not come back; and one that was cancelled is not called. -/
theorem completes_at_most_once {option : ChannelOption} {workThreadNum : Nat} {s : ChannelThreads}
    (hrun : Reaches step anyStep (started option workThreadNum) s) :
    (s.channel.pending ++ s.channel.alreadyCallbackQueue.map ChannelCallback.ptr
      ++ (s.batches.flatten ++ s.called).map ChannelCallback.ptr).Nodup ∧
    (∀ s', Reaches step anyStep s s' → ∀ p < s.channel.nextPtr,
      p ∉ s.channel.pending → p ∉ s'.channel.pending) ∧
    (s.called.map ChannelCallback.ptr).Nodup ∧
    ∀ requestId, (s.channel.cancelRequest requestId).2 = true →
      ∃ callback, s.channel.requestCallback[requestId]? = some callback ∧
        ∀ s' s'', step s (.cancel requestId) = some s' → Reaches step anyStep s' s'' →
          callback.ptr ∉ s''.called.map ChannelCallback.ptr := by
  have hlinear := linear_reachable hrun
  refine ⟨hlinear.nodup, fun s' hrun' p hdrawn hnot => (left_reachable hrun' ⟨hdrawn, hnot⟩).2, ?_,
    fun requestId hcancel => ?_⟩
  · have hcalls := (List.nodup_append.mp hlinear.nodup).2.1
    rw [List.map_append] at hcalls
    exact (List.nodup_append.mp hcalls).2.1
  · rcases s.channel.cancelRequest_cases requestId with ⟨_, heq⟩ | ⟨callback, hentry, heq⟩
    · rw [heq] at hcancel
      cases hcancel
    · -- the callback was at one place, the map, and the cancel took it out
      refine ⟨callback, hentry, fun s' s'' hstep hrun' => ?_⟩
      obtain rfl := Option.some.inj hstep
      have hperm := (Channel.held_cancel hentry).append_right
        ((s.batches.flatten ++ s.called).map ChannelCallback.ptr)
      rw [heq] at hrun'
      exact (gone_reachable hrun' (hlinear.lost hperm)).not_called

end

section

attribute [local instance] networkUp

/-- The response to the first request. -/
def firstReply : RpcPacket := ⟨0, .method, ⟨"S", 0, some ⟨1⟩, none, 0⟩, some [7]⟩

/-- Two calls at once: the first is answered twice and called, the second is cancelled. -/
def answeredTwice : List Event :=
  [.allocate asyncCall, .allocate asyncCall, .insert 1, .insert 0, .send 0, .cancel 2,
    .requestPacket firstReply, .requestPacket firstReply, .pop 0 20, .call 0]

theorem completes_at_most_once_answeredTwice :
    ∃ s, exec step (started ⟨0, 1000⟩ 1) answeredTwice = some s ∧
      s.called.map ChannelCallback.ptr = [1] ∧
      (s.channel.pending ++ s.channel.alreadyCallbackQueue.map ChannelCallback.ptr
        ++ (s.batches.flatten ++ s.called).map ChannelCallback.ptr).Nodup := by
  have hcalled : (exec step (started ⟨0, 1000⟩ 1) answeredTwice).map
      (fun s => s.called.map ChannelCallback.ptr) = some [1] := by decide
  obtain ⟨s, hexec, hptrs⟩ := Option.map_eq_some_iff.mp hcalled
  exact ⟨s, hexec, hptrs, (completes_at_most_once (reaches_exec hexec)).1⟩

end

end ChannelThreads

end Frrpc
