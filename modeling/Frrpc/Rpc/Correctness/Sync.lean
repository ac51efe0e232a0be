import Frrpc.Rpc.Sync
import Frrpc.Rpc.Correctness.Objects

/-!
# `Rpc.Correctness.Sync` — when a synchronous call waits for its own completion

A caller that is not waiting yet when its callback is called misses the notification: it goes on to test or
to wait on a callback that may be deleted already, and nothing will wake it. Where every call of a
synchronous callback finds its caller waiting and no wake-up is spurious, a caller has been woken exactly
when its callback has been called (`Progressing.woken`), and so each call waits exactly for its own
completion.
-/

namespace Frrpc

open Lib

/-- The caller has been woken. -/
def WaitStage.Over (stage : WaitStage) : Prop := stage = .woken ∨ stage = .returned

theorem WaitStage.not_over {stage : WaitStage} (h : stage = .testing ∨ stage = .locking ∨ stage = .waiting) :
    ¬ stage.Over := by
  rcases h with rfl | rfl | rfl <;> rintro (hover | hover) <;> cases hover

namespace SyncThreads

/-- The callback has been called. -/
def Called (s : SyncThreads) (ptr : Nat) : Prop := ∃ callback ∈ s.threads.called, callback.ptr = ptr

/-- A notification may still come, unless the request was cancelled. -/
def Outstanding (s : SyncThreads) (ptr : Nat) : Prop :=
  (∃ callback, s.threads.Holds callback ∧ callback.ptr = ptr) ∨ ptr ∈ s.cancelled

/-- **What a caller finds**: no callback it is about to test or to wait on has been called and deleted, a
    caller that waits has its notification still to come, and one that returned has been notified. -/
def Completes (s : SyncThreads) : Prop :=
  ∀ (i : Nat) (inv : Invocation) ptr now, s.threads.invocations[i]? = some inv →
    inv.stage = .scheduled ptr now → inv.method.isSync = some true →
    match s.waits i with
    | .testing | .locking => ¬ (s.Called ptr ∧ ptr ∈ s.deleted)
    | .waiting => ¬ s.Called ptr ∧ s.Outstanding ptr
    | .woken => True
    | .returned => s.Called ptr

/-- A synchronous callback is only called while its caller waits, and no wake-up is spurious. -/
def CallsWaiting (s : SyncThreads) : Event → Prop
  | .threads (.call thread) => ∀ callback batch,
      s.threads.batches[thread]? = some (callback :: batch) → callback.cntl.isSync = true →
      ∀ (i : Nat) (inv : Invocation), s.threads.invocations[i]? = some inv →
        inv.stage.ptr? = some callback.ptr → s.awaited i = some callback.ptr ∧ s.waits i = .waiting
  | .wake _ => False
  | _ => True

/-! ## The invariant -/

/-- Only callbacks that were called are deleted, a caller waits only after its event is pushed, and it has
    been woken exactly when its callback was called. -/
structure Progressing (s : SyncThreads) : Prop where
  assigned : s.threads.Assigned
  calling : ∀ thread ptr, s.calling thread = some ptr → s.Called ptr
  deleted : ∀ ptr ∈ s.deleted, s.Called ptr
  early : ∀ i, s.waits i ≠ .testing → ∃ (inv : Invocation) (ptr : Nat) (now : Int),
    s.threads.invocations[i]? = some inv ∧ inv.stage = .scheduled ptr now
  woken : ∀ (i : Nat) (inv : Invocation) ptr, s.threads.invocations[i]? = some inv →
    inv.stage.ptr? = some ptr → inv.method.isSync = some true → (s.Called ptr ↔ (s.waits i).Over)
  still : ∀ (i : Nat) (inv : Invocation) ptr, s.threads.invocations[i]? = some inv →
    inv.stage.ptr? = some ptr → s.Outstanding ptr ∨ s.Called ptr

theorem progressing_started (option : ChannelOption) (workThreadNum : Nat) :
    (started option workThreadNum).Progressing := by
  refine ⟨ChannelThreads.assigned_started option workThreadNum, ?_, ?_, ?_, ?_, ?_⟩
  · intro thread ptr h
    cases h
  · intro ptr h
    cases h
  · intro i h
    exact absurd rfl h
  · intro i inv ptr h
    cases h
  · intro i inv ptr h
    cases h

/-- **The invariant says that each call waits for its own completion.** -/
theorem Progressing.completes {s : SyncThreads} (h : s.Progressing) : s.Completes := by
  intro i inv ptr now hget hstage hsync
  have hptr : inv.stage.ptr? = some ptr := by rw [hstage]; rfl
  have hwoken := h.woken i inv ptr hget hptr hsync
  split
  · next heq =>
    rintro ⟨hcalled, _⟩
    exact WaitStage.not_over (Or.inl heq) (hwoken.mp hcalled)
  · next heq =>
    rintro ⟨hcalled, _⟩
    exact WaitStage.not_over (Or.inr (Or.inl heq)) (hwoken.mp hcalled)
  · next heq =>
    have hnot : ¬ s.Called ptr := fun hcalled =>
      WaitStage.not_over (Or.inr (Or.inr heq)) (hwoken.mp hcalled)
    exact ⟨hnot, (h.still i inv ptr hget hptr).resolve_right hnot⟩
  · trivial
  · next heq => exact hwoken.mpr (Or.inr heq)

/-! ## The steps of the channel's threads -/

section

variable [Protobuf] [FrNet]

/-- **A step of the threads other than a call** wakes nobody: a new callback has not been called, and what
    is lost was cancelled. -/
theorem progressing_threads {s : SyncThreads} {e : ChannelThreads.Event} {threads : ChannelThreads}
    {cancelled : List Nat} (h : s.Progressing) (hcall : ∀ thread, e ≠ .call thread)
    (hstep : ChannelThreads.step s.threads e = some threads)
    (hcancelled : cancelled = s.threads.lostBy e ++ s.cancelled) :
    Progressing { s with threads, cancelled } := by
  have hprogress := ChannelThreads.step_progress hstep hcall
  have hcalled : ∀ ptr, Called { s with threads, cancelled } ptr ↔ s.Called ptr := by
    intro ptr
    show (∃ callback ∈ threads.called, _) ↔ _
    rw [hprogress.called]
    rfl
  have hassigned := ChannelThreads.assigned_step hstep h.assigned
  refine ⟨hassigned, ?_, ?_, ?_, ?_, ?_⟩
  · intro thread ptr hcalling
    exact (hcalled ptr).mpr (h.calling thread ptr hcalling)
  · intro ptr hdeleted
    exact (hcalled ptr).mpr (h.deleted ptr hdeleted)
  · intro i hwaits
    obtain ⟨inv, ptr, now, hget, hstage⟩ := h.early i hwaits
    exact ⟨inv, ptr, now, hprogress.scheduled i inv ptr now hget hstage, hstage⟩
  · intro i inv' ptr hget hptr hsync
    rw [hcalled]
    rcases hprogress.ptrs i inv' ptr hget hptr with ⟨inv, hinv, hmethod, hold⟩ | ⟨rfl, hallocated, _⟩
    · exact h.woken i inv ptr hinv hold (hmethod ▸ hsync)
    · -- a new callback: nobody has called it, and its invocation does not wait yet
      obtain ⟨inv, hinv, hstage⟩ := hallocated
      have htesting : s.waits i = .testing := by
        by_contra hwaits
        obtain ⟨inv', ptr', now, hinv', hscheduled⟩ := h.early i hwaits
        obtain rfl := Option.some.inj (hinv.symm.trans hinv')
        rw [hstage] at hscheduled
        cases hscheduled
      constructor
      · rintro ⟨callback, hmem, heq⟩
        have hdrawn := h.assigned.owned.drawn callback.ptr (ChannelThreads.mem_tokens_of_called hmem)
        exact absurd hdrawn (heq ▸ Nat.lt_irrefl _)
      · exact fun hover => absurd hover (WaitStage.not_over (Or.inl htesting))
  · intro i inv' ptr hget hptr
    rcases hprogress.made i inv' ptr hget hptr with ⟨inv, hinv, hold⟩ | ⟨callback', hholds, rfl⟩
    · rcases h.still i inv ptr hinv hold with (⟨callback, hholds, rfl⟩ | hlost) | hdone
      · left
        by_cases hmem : callback.ptr ∈ s.threads.lostBy e
        · exact Or.inr (hcancelled ▸ List.mem_append_left _ hmem)
        · obtain ⟨callback', hholds', hsame⟩ := hprogress.retained callback hholds hmem
          exact Or.inl ⟨callback', hholds', hsame.ptr⟩
      · exact Or.inl (Or.inr (hcancelled ▸ List.mem_append_right _ hlost))
      · exact Or.inr ((hcalled ptr).mpr hdone)
    · exact Or.inl (Or.inl ⟨callback', hholds, rfl⟩)

end

theorem call_cases {s s' : SyncThreads} {thread : Nat} (h : s.call thread = some s') :
    ∃ callback batch threads waits, s.threads.batches[thread]? = some (callback :: batch) ∧
      s.threads.call thread = some threads ∧
      waits = (if callback.cntl.isSync then s.notifyOne callback.ptr else s).waits ∧
      s' = { s with threads, waits, calling := Function.update s.calling thread (some callback.ptr) } := by
  unfold call at h
  split at h
  · next callback batch _ hget =>
    obtain ⟨threads, hcall, heq⟩ := Option.map_eq_some_iff.mp h
    refine ⟨callback, batch, threads, _, hget, hcall, rfl, ?_⟩
    rw [← heq]
    split <;> rfl
  · cases h

theorem awaited_eq {s : SyncThreads} {i : Nat} {ptr : Nat} (h : s.awaited i = some ptr) :
    ∃ (inv : Invocation) (now : Int), s.threads.invocations[i]? = some inv ∧
      inv.stage = .scheduled ptr now := by
  unfold awaited at h
  split at h
  · next method requestId ptr' now hget =>
    obtain rfl := Option.some.inj h
    exact ⟨_, now, hget, rfl⟩
  · cases h

/-- A notification only wakes. -/
theorem notifyOne_waits (s : SyncThreads) (ptr i : Nat) :
    (s.notifyOne ptr).waits i = s.waits i ∨
      (s.awaited i = some ptr ∧ s.waits i = .waiting ∧ (s.notifyOne ptr).waits i = .woken) := by
  show (if _ then _ else _) = _ ∨ _ ∧ _ ∧ (if _ then _ else _) = _
  by_cases h : s.awaited i = some ptr ∧ s.waits i = .waiting
  · rw [if_pos h]
    exact Or.inr ⟨h.1, h.2, rfl⟩
  · rw [if_neg h]
    exact Or.inl rfl

/-- A call only wakes. -/
theorem call_waits (s : SyncThreads) (callback : ChannelCallback) (i : Nat) :
    (if callback.cntl.isSync then s.notifyOne callback.ptr else s).waits i = s.waits i ∨
      (s.awaited i = some callback.ptr ∧ s.waits i = .waiting) := by
  split
  · rcases s.notifyOne_waits callback.ptr i with hsame | ⟨hawaited, hbefore, _⟩
    · exact Or.inl hsame
    · exact Or.inr ⟨hawaited, hbefore⟩
  · exact Or.inl rfl

/-- The caller of another callback does not notice. -/
theorem call_waits_other {s : SyncThreads} {callback : ChannelCallback} {i : Nat} {inv : Invocation}
    {ptr : Nat} (hinv : s.threads.invocations[i]? = some inv) (hptr : inv.stage.ptr? = some ptr)
    (hne : callback.ptr ≠ ptr) :
    (if callback.cntl.isSync then s.notifyOne callback.ptr else s).waits i = s.waits i := by
  rcases s.call_waits callback i with hsame | ⟨hawaited, _⟩
  · exact hsame
  · obtain ⟨inv', now, hinv', hstage⟩ := awaited_eq hawaited
    obtain rfl := Option.some.inj (hinv.symm.trans hinv')
    rw [hstage] at hptr
    exact absurd (Option.some.inj hptr) hne

/-- The addresses that were called, one more. -/
theorem called_concat (called : List ChannelCallback) (callback : ChannelCallback) (ptr : Nat) :
    (∃ c ∈ called ++ [callback], c.ptr = ptr) ↔ (∃ c ∈ called, c.ptr = ptr) ∨ callback.ptr = ptr := by
  constructor
  · rintro ⟨c, hmem, heq⟩
    rcases List.mem_append.mp hmem with hold | hnew
    · exact Or.inl ⟨c, hold, heq⟩
    · exact Or.inr (List.mem_singleton.mp hnew ▸ heq)
  · rintro (⟨c, hmem, heq⟩ | heq)
    · exact ⟨c, List.mem_append_left _ hmem, heq⟩
    · exact ⟨callback, List.mem_append_right _ (List.mem_singleton.mpr rfl), heq⟩

/-- **A call that finds its caller waiting wakes it**, and nobody else. -/
theorem progressing_call {s s' : SyncThreads} {thread : Nat} (h : s.Progressing)
    (hwaiting : s.CallsWaiting (.threads (.call thread))) (hstep : s.call thread = some s')
    (hassigned : s'.threads.Assigned) : s'.Progressing := by
  obtain ⟨called, batch, threads, waits, hget, hcall, hwaits, rfl⟩ := call_cases hstep
  have hmove := ChannelThreads.holds_call hget hcall
  obtain ⟨called', batch', hget', rfl⟩ := ChannelThreads.call_cases hcall
  obtain ⟨rfl, rfl⟩ := List.cons.inj (Option.some.inj (hget.symm.trans hget'))
  have hcalled := called_concat s.threads.called called
  refine ⟨hassigned, ?_, ?_, ?_, ?_, ?_⟩
  · intro other ptr hcalling
    have hcalling : Function.update s.calling thread (some called.ptr) other = some ptr := hcalling
    apply (hcalled ptr).mpr
    by_cases heq : other = thread
    · subst heq
      rw [Function.update_self] at hcalling
      exact Or.inr (Option.some.inj hcalling)
    · rw [Function.update_of_ne heq] at hcalling
      exact Or.inl (h.calling other ptr hcalling)
  · intro ptr hdeleted
    exact (hcalled ptr).mpr (Or.inl (h.deleted ptr hdeleted))
  · intro i hi
    have hi : waits i ≠ .testing := hi
    rw [hwaits] at hi
    rcases s.call_waits called i with hsame | ⟨_, hbefore⟩
    · exact h.early i (hsame ▸ hi)
    · exact h.early i (hbefore ▸ nofun)
  · intro i inv ptr hinv hptr hsync
    show (∃ callback ∈ s.threads.called ++ [called], callback.ptr = ptr) ↔ (waits i).Over
    rw [hcalled, hwaits]
    by_cases heq : called.ptr = ptr
    · -- the caller of this callback was waiting, so it is woken
      subst heq
      have hkind : called.cntl.isSync = true := by
        have hbatch : s.threads.Holds called :=
          Or.inr ⟨_, List.mem_of_getElem? hget, List.mem_cons_self⟩
        rw [h.assigned.kind called hbatch i inv hinv hptr, hsync]
        rfl
      obtain ⟨hawaited, hbefore⟩ := hwaiting called batch hget hkind i inv hinv hptr
      have hwoken : (s.notifyOne called.ptr).waits i = .woken := if_pos ⟨hawaited, hbefore⟩
      rw [if_pos hkind, hwoken]
      exact iff_of_true (Or.inr rfl) (Or.inl rfl)
    · rw [call_waits_other (s := s) hinv hptr heq, ← h.woken i inv ptr hinv hptr hsync]
      exact or_iff_left heq
  · intro i inv ptr hinv hptr
    rcases h.still i inv ptr hinv hptr with (⟨callback, hholds, rfl⟩ | hlost) | hdone
    · rcases (hmove callback).2 hholds with rfl | hstays
      · exact Or.inr ((hcalled _).mpr (Or.inr rfl))
      · exact Or.inl (Or.inl ⟨callback, hstays, rfl⟩)
    · exact Or.inl (Or.inr hlost)
    · exact Or.inr ((hcalled ptr).mpr (Or.inl hdone))

/-! ## The steps of the callers -/

/-- **A caller that moves on** without a notification is woken after as before. -/
theorem progressing_setWait {s : SyncThreads} {i : Nat} {inv : Invocation} {ptr : Nat} {now : Int}
    {stage : WaitStage} (h : s.Progressing) (hget : s.threads.invocations[i]? = some inv)
    (hstage : inv.stage = .scheduled ptr now)
    (hover : inv.method.isSync = some true → (stage.Over ↔ (s.waits i).Over)) :
    (s.setWait i stage).Progressing := by
  refine ⟨h.assigned, h.calling, h.deleted, ?_, ?_, h.still⟩
  · intro j hj
    by_cases heq : j = i
    · subst heq
      exact ⟨inv, ptr, now, hget, hstage⟩
    · have hj : Function.update s.waits i stage j ≠ .testing := hj
      rw [Function.update_of_ne heq] at hj
      exact h.early j hj
  · intro j inv' ptr' hinv' hptr' hsync
    rw [show (s.setWait i stage).Called ptr' ↔ s.Called ptr' from Iff.rfl,
      h.woken j inv' ptr' hinv' hptr' hsync]
    show _ ↔ (Function.update s.waits i stage j).Over
    by_cases heq : j = i
    · subst heq
      obtain rfl := Option.some.inj (hget.symm.trans hinv')
      rw [Function.update_self]
      exact (hover hsync).symm
    · rw [Function.update_of_ne heq]

theorem progressing_delete {s s' : SyncThreads} {thread : Nat} (h : s.Progressing)
    (hstep : s.delete thread = some s') : s'.Progressing := by
  unfold delete at hstep
  split at hstep
  · next ptr hcalling =>
    obtain rfl := Option.some.inj hstep
    refine ⟨h.assigned, ?_, ?_, h.early, h.woken, h.still⟩
    · intro other ptr' hcalling'
      have hcalling' : Function.update s.calling thread none other = some ptr' := hcalling'
      by_cases heq : other = thread
      · rw [heq, Function.update_self] at hcalling'
        cases hcalling'
      · rw [Function.update_of_ne heq] at hcalling'
        exact h.calling other ptr' hcalling'
    · intro ptr' hdeleted
      rcases List.mem_cons.mp hdeleted with rfl | hold
      · exact h.calling thread ptr' hcalling
      · exact h.deleted ptr' hold
  · cases hstep

theorem progressing_test {s s' : SyncThreads} {i : Nat} (h : s.Progressing)
    (hstep : s.test i = some s') : s'.Progressing := by
  unfold test at hstep
  split at hstep
  · next method requestId ptr now hget hwaits =>
    split at hstep
    · cases hstep
    · obtain rfl := Option.some.inj hstep
      apply progressing_setWait h hget rfl
      intro hsync
      have hsync : method.isSync = some true := hsync
      rw [if_pos hsync]
      exact iff_of_false (WaitStage.not_over (Or.inr (Or.inl rfl))) (WaitStage.not_over (Or.inl hwaits))
  · cases hstep

theorem progressing_wait {s s' : SyncThreads} {i : Nat} (h : s.Progressing)
    (hstep : s.wait i = some s') : s'.Progressing := by
  unfold wait at hstep
  split at hstep
  · next ptr hawaited hwaits =>
    split at hstep
    · cases hstep
    · obtain rfl := Option.some.inj hstep
      obtain ⟨inv, now, hget, hstage⟩ := awaited_eq hawaited
      apply progressing_setWait h hget hstage
      intro _
      exact iff_of_false (WaitStage.not_over (Or.inr (Or.inr rfl)))
        (WaitStage.not_over (Or.inr (Or.inl hwaits)))
  · cases hstep

theorem progressing_leave {s s' : SyncThreads} {i : Nat} (h : s.Progressing)
    (hstep : s.leave i = some s') : s'.Progressing := by
  unfold leave at hstep
  split at hstep
  · next hwaits =>
    obtain rfl := Option.some.inj hstep
    obtain ⟨inv, ptr, now, hget, hstage⟩ := h.early i (hwaits ▸ nofun)
    apply progressing_setWait h hget hstage
    intro _
    exact iff_of_true (Or.inr rfl) (Or.inl hwaits)
  · cases hstep

/-! ## Runs -/

section

variable [Protobuf] [FrNet]

/-- A step of the threads other than a call, and what it cancels. -/
theorem step_threads_cases {s s' : SyncThreads} {e : ChannelThreads.Event}
    (hcall : ∀ thread, e ≠ .call thread) (h : step s (.threads e) = some s') :
    ∃ threads, ChannelThreads.step s.threads e = some threads ∧
      s' = { s with threads, cancelled := s.threads.lostBy e ++ s.cancelled } := by
  have hmap : (ChannelThreads.step s.threads e).map (fun threads =>
      { s with threads, cancelled := s.threads.lostBy e ++ s.cancelled }) = some s' := by
    cases e with
    | call thread => exact absurd rfl (hcall thread)
    | pop thread dealMsgNumOnce =>
      simp only [step] at h
      split at h
      · exact h
      · cases h
    | allocate _ | insert _ | send _ | schedule _ _ | requestPacket _ | registerPacket _ | clearTimeout _
    | cancel _ | registerCallback _ _ => exact h
  obtain ⟨threads, hthreads, rfl⟩ := Option.map_eq_some_iff.mp hmap
  exact ⟨threads, hthreads, rfl⟩

theorem progressing_step {s s' : SyncThreads} {e : Event} (h : s.Progressing) (hok : s.CallsWaiting e)
    (hstep : step s e = some s') : s'.Progressing := by
  cases e with
  | threads e =>
    by_cases hcall : ∃ thread, e = .call thread
    · obtain ⟨thread, rfl⟩ := hcall
      obtain ⟨_, _, threads, _, _, hthreads, _, heq⟩ := call_cases (s := s) hstep
      have hassigned : threads.Assigned :=
        ChannelThreads.assigned_step (e := .call thread) hthreads h.assigned
      exact progressing_call h hok hstep (heq ▸ hassigned)
    · have hother : ∀ thread, e ≠ .call thread := fun thread heq => hcall ⟨thread, heq⟩
      obtain ⟨threads, hthreads, rfl⟩ := step_threads_cases hother hstep
      exact progressing_threads h hother hthreads rfl
  | delete thread => exact progressing_delete h hstep
  | test index => exact progressing_test h hstep
  | wait index => exact progressing_wait h hstep
  | wake index => exact hok.elim
  | leave index => exact progressing_leave h hstep

/-- **A synchronous call waits exactly for its own completion** in every run in which every synchronous
    callback that is called finds its caller waiting, and no caller wakes up for no reason. -/
theorem sync_call_waits {option : ChannelOption} {workThreadNum : Nat} {s : SyncThreads}
    (hrun : Reaches step CallsWaiting (started option workThreadNum) s) : s.Completes := by
  have h : s.Progressing := by
    apply hrun.invariant (progressing_started option workThreadNum)
    intro s e s' hok hprogressing hstep
    exact progressing_step hprogressing hok hstep
  exact h.completes

end

end SyncThreads

section

attribute [local instance] networkUp

namespace SyncThreads

def syncCall : MethodCall := ⟨"S", 0, some true, [], true, none⟩

/-- The response comes while the caller waits. -/
def answeredInTime : List Event :=
  [.threads (.allocate syncCall), .threads (.insert 0), .threads (.send 0), .threads (.schedule 0 0),
    .test 0, .wait 0, .threads (.requestPacket ChannelThreads.firstReply), .threads (.pop 0 20)]

theorem sync_call_waits_answeredInTime :
    ∃ s, Reaches step CallsWaiting (started ⟨0, 1000⟩ 1) s ∧ s.waits 0 = .returned ∧ s.Completes := by
  have hresult : (exec step (started ⟨0, 1000⟩ 1) answeredInTime).map (fun s =>
        (s.threads.invocations, s.waits 0, s.threads.batches))
      = some ([⟨syncCall, 1, .scheduled 0 0⟩], .waiting, [[⟨0, ⟨true, 1, ""⟩, some [7], none⟩]]) := by
    decide
  have hreturned : (exec step (started ⟨0, 1000⟩ 1)
      (answeredInTime ++ [.threads (.call 0), .delete 0, .leave 0])).map (fun s => s.waits 0)
      = some .returned := by
    decide
  obtain ⟨s, hexec, hs⟩ := Option.map_eq_some_iff.mp hresult
  obtain ⟨s', hexec', hwaits'⟩ := Option.map_eq_some_iff.mp hreturned
  rw [exec_append, hexec] at hexec'
  have hexec' : exec step s [.threads (.call 0), .delete 0, .leave 0] = some s' := hexec'
  obtain ⟨s₁, hcall, hrest⟩ := Option.bind_eq_some_iff.mp hexec'
  simp only [Prod.mk.injEq] at hs
  obtain ⟨hinvocations, hwaits, hbatches⟩ := hs
  have hwaiting : s.CallsWaiting (.threads (.call 0)) := by
    intro callback batch hget hsync i inv hinv hptr
    rw [hbatches] at hget
    obtain ⟨rfl, rfl⟩ := List.cons.inj (Option.some.inj hget)
    have hzero : i = 0 := by
      have hlt := (List.getElem?_eq_some_iff.mp hinv).1
      rw [hinvocations] at hlt
      exact Nat.lt_one_iff.mp hlt
    subst hzero
    rw [awaited, hinvocations]
    exact ⟨rfl, hwaits⟩
  have hbefore : Reaches step CallsWaiting (started ⟨0, 1000⟩ 1) s :=
    reaches_exec_of hexec (by simp [answeredInTime, CallsWaiting])
  have hafter : Reaches step CallsWaiting s₁ s' :=
    reaches_exec_of hrest (by simp [CallsWaiting])
  have hrun := (hbefore.snoc hwaiting hcall).trans hafter
  exact ⟨s', hrun, hwaits', sync_call_waits hrun⟩

/-- The response comes before the caller tests. -/
def answeredEarly : List Event :=
  [.threads (.allocate syncCall), .threads (.insert 0), .threads (.send 0), .threads (.schedule 0 0),
    .threads (.requestPacket ChannelThreads.firstReply), .threads (.pop 0 20), .threads (.call 0), .delete 0]

/-- The caller wakes up for no reason. -/
def wokenEarly : List Event :=
  [.threads (.allocate syncCall), .threads (.insert 0), .threads (.send 0), .threads (.schedule 0 0),
    .test 0, .wait 0, .wake 0, .leave 0]

/-- **A caller is left with a deleted callback**, and one returns before its callback is called. -/
theorem sync_call_not_waits :
    (∃ s, exec step (started ⟨0, 1000⟩ 1) answeredEarly = some s ∧ s.waits 0 = .testing ∧ ¬ s.Completes) ∧
    ∃ s, exec step (started ⟨0, 1000⟩ 1) wokenEarly = some s ∧ s.waits 0 = .returned ∧ ¬ s.Completes := by
  constructor
  · have hresult : (exec step (started ⟨0, 1000⟩ 1) answeredEarly).map (fun s =>
          (s.threads.invocations, s.waits 0, s.threads.called.map ChannelCallback.ptr, s.deleted))
        = some ([⟨syncCall, 1, .scheduled 0 0⟩], .testing, [0], [0]) := by
      decide
    obtain ⟨s, hexec, hs⟩ := Option.map_eq_some_iff.mp hresult
    simp only [Prod.mk.injEq] at hs
    obtain ⟨hinvocations, hwaits, hcalled, hdeleted⟩ := hs
    refine ⟨s, hexec, hwaits, ?_⟩
    intro hcompletes
    have hfirst := hcompletes 0 ⟨syncCall, 1, .scheduled 0 0⟩ 0 0 (by rw [hinvocations]; rfl) rfl rfl
    rw [hwaits] at hfirst
    apply hfirst
    rw [hdeleted]
    constructor
    · have hmem : 0 ∈ s.threads.called.map ChannelCallback.ptr := by
        rw [hcalled]
        exact List.mem_singleton.mpr rfl
      exact List.mem_map.mp hmem
    · exact List.mem_singleton.mpr rfl
  · have hresult : (exec step (started ⟨0, 1000⟩ 1) wokenEarly).map (fun s =>
          (s.threads.invocations, s.waits 0, s.threads.called))
        = some ([⟨syncCall, 1, .scheduled 0 0⟩], .returned, []) := by
      decide
    obtain ⟨s, hexec, hs⟩ := Option.map_eq_some_iff.mp hresult
    simp only [Prod.mk.injEq] at hs
    obtain ⟨hinvocations, hwaits, hcalled⟩ := hs
    refine ⟨s, hexec, hwaits, ?_⟩
    intro hcompletes
    have hfirst := hcompletes 0 ⟨syncCall, 1, .scheduled 0 0⟩ 0 0 (by rw [hinvocations]; rfl) rfl rfl
    rw [hwaits] at hfirst
    obtain ⟨callback, hmem, _⟩ := hfirst
    rw [hcalled] at hmem
    cases hmem

end SyncThreads

end

end Frrpc
