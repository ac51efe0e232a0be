import Frrpc.Rpc.Cancel
import Frrpc.Rpc.Correctness.Objects

/-!
# `Rpc.Correctness.Cancel` — the documented contract of a cancel

`StartCancel` erases the request's entry and does nothing else with it, so its callback is gone: `done` is
never run (`cancel_breaks`). The closure of `NotifyOnCancel` is run by a later `StartCancel` only, so a
request that completes takes it along unrun (`delete_breaks`). The contract is kept in the runs that use
neither (`cancel_contract`).
-/

namespace Frrpc

open Lib

/-- **What `StartCancel` does to its channel** is to cancel the controller's id. -/
theorem CancelController.startCancel_ok (cntl : CancelController) (channel : Channel) :
    ∃ cntl' callback, cntl.startCancel (some channel) =
        .ok (cntl', (channel.cancelRequest cntl.requestId).1, callback) ∧
      (channel.requestCallback[cntl.requestId]? = none → callback = none) := by
  unfold startCancel
  rcases channel.cancelRequest_cases cntl.requestId with ⟨_, heq⟩ | ⟨callback, hentry, heq⟩
  · simp only [heq, Bool.false_and, Bool.false_eq_true, if_false]
    exact ⟨_, none, rfl, fun _ => rfl⟩
  · have hpending : channel.requestCallback[cntl.requestId]? ≠ none := by
      rw [hentry]
      exact Option.some_ne_none _
    simp only [heq, Bool.true_and]
    split
    · exact ⟨_, _, rfl, fun hnone => absurd hnone hpending⟩
    · exact ⟨_, _, rfl, fun hnone => absurd hnone hpending⟩

namespace CancelThreads

/-- The contract of the comments in `controller.h`. -/
structure Contract (s : CancelThreads) : Prop where
  /-- The `done` of a cancelled request has run with a controller that failed, or may still run. -/
  done : s.cancelled = true → ∃ ptr, s.ptr = some ptr ∧
    ((∃ callback ∈ s.threads.called, callback.ptr = ptr ∧ callback.cntl.failed = true) ∨
      ∃ callback, s.threads.Holds callback ∧ callback.ptr = ptr)
  /-- The closure has been run once when the request is cancelled, or is over. -/
  notify : s.cancelled = true ∨ s.deleted = true → s.ran = s.notified.toList
  /-- It is not run earlier, nor twice. -/
  once : s.ran = [] ∨ (s.ran = s.notified.toList ∧ (s.cancelled = true ∨ s.completed = true))

/-- A `StartCancel` finds no pending request, and a request is over without a closure of `NotifyOnCancel`. -/
def CancelUnused (s : CancelThreads) : Event → Prop
  | .startCancel => s.threads.channel.requestCallback[s.cntl.requestId]? = none
  | .delete => s.notified = none
  | _ => True

structure Unused (s : CancelThreads) : Prop where
  kept : s.cancelled = false
  silent : s.ran = []
  ended : s.deleted = true → s.notified = none

theorem unused_started (option : ChannelOption) (workThreadNum : Nat) :
    (started option workThreadNum).Unused := ⟨rfl, rfl, nofun⟩

theorem Unused.contract {s : CancelThreads} (h : s.Unused) : s.Contract := by
  refine ⟨?_, ?_, .inl h.silent⟩
  · intro hcancelled
    rw [h.kept] at hcancelled
    cases hcancelled
  · rintro (hcancelled | hdeleted)
    · rw [h.kept] at hcancelled
      cases hcancelled
    · rw [h.silent, h.ended hdeleted]
      rfl

/-! ## What a cancel takes out of the map -/

/-- **A callback that a cancel drops is nowhere any more.** -/
theorem gone_of_drops {s : CancelThreads} (howned : s.threads.Owned) {requestId : RpcRequestId} {ptr : Nat}
    (hptr : s.ptr = some ptr) (hdrops : s.drops requestId = true) :
    ChannelThreads.Gone { s.threads with channel := (s.threads.channel.cancelRequest requestId).1 } ptr := by
  rw [drops, hptr, Option.any_some, decide_eq_true_iff, Channel.droppedBy] at hdrops
  rcases s.threads.channel.cancelRequest_cases requestId with ⟨hnone, _⟩ | ⟨callback, hentry, heq⟩
  · rw [hnone] at hdrops
    cases hdrops
  · rw [hentry] at hdrops
    obtain rfl := List.mem_singleton.mp hdrops
    rw [heq]
    exact howned.lost ((Channel.held_cancel hentry).append_right _)

theorem drops_eq_false {s : CancelThreads} {requestId : RpcRequestId}
    (h : s.threads.channel.requestCallback[requestId]? = none) : s.drops requestId = false := by
  rw [drops, Channel.droppedBy, h]
  cases s.ptr <;> rfl

/-! ## Steps -/

theorem startCancel_cases {s s' : CancelThreads} (h : s.startCancel = some s') :
    ∃ cntl callback, s' = { s with
        threads := { s.threads with channel := (s.threads.channel.cancelRequest s.cntl.requestId).1 }
        cntl
        ran := s.ran ++ callback.toList
        cancelled := s.cancelled || s.drops s.cntl.requestId } ∧
      (s.threads.channel.requestCallback[s.cntl.requestId]? = none → callback = none) := by
  obtain ⟨cntl, callback, hok, hnone⟩ := s.cntl.startCancel_ok s.threads.channel
  rw [startCancel, hok] at h
  obtain rfl := Option.some.inj h
  exact ⟨cntl, callback, rfl, hnone⟩

variable [Protobuf] [FrNet]

/-- **A step of the threads** changes nothing else but the address of the request's callback. -/
theorem threads_cases {s s' : CancelThreads} {e : ChannelThreads.Event}
    (h : step s (.threads e) = some s') :
    ∃ threads ptr, ChannelThreads.step s.threads e = some threads ∧ s' = { s with threads, ptr } := by
  have hmap : ∃ f : ChannelThreads → Option Nat, (ChannelThreads.step s.threads e).map (fun threads =>
      { s with threads, ptr := f threads }) = some s' := by
    cases e with
    | insert index => exact ⟨fun threads => if s.index = some index then inserted threads index else s.ptr, h⟩
    | cancel requestId =>
      simp only [step] at h
      split at h
      · cases h
      · exact ⟨fun _ => s.ptr, h⟩
    | allocate _ | send _ | schedule _ _ | requestPacket _ | registerPacket _ | clearTimeout _
    | registerCallback _ _ | pop _ _ | call _ => exact ⟨fun _ => s.ptr, h⟩
  obtain ⟨f, hmap⟩ := hmap
  obtain ⟨threads, hstep, rfl⟩ := Option.map_eq_some_iff.mp hmap
  exact ⟨threads, f threads, hstep, rfl⟩

/-- **What a step does.** -/
inductive CancelStep (s : CancelThreads) : Event → CancelThreads → Prop where
  | threads {e : ChannelThreads.Event} {threads : ChannelThreads} (ptr : Option Nat)
      (step : ChannelThreads.step s.threads e = some threads) :
      CancelStep s (.threads e) { s with threads, ptr }
  | callMethod (method : MethodCall) (index : Option Nat) (cntl : CancelController) :
      CancelStep s (.callMethod method) { s with threads := s.threads.allocate method, index, cntl }
  | notifyOnCancel (callback : Closure) (live : s.deleted = false) :
      CancelStep s (.notifyOnCancel callback)
        { s with cntl := s.cntl.notifyOnCancel callback, notified := some callback }
  | startCancel (cntl : CancelController) {callback : Option Closure}
      (absent : s.threads.channel.requestCallback[s.cntl.requestId]? = none → callback = none) :
      CancelStep s .startCancel { s with
        threads := { s.threads with channel := (s.threads.channel.cancelRequest s.cntl.requestId).1 }
        cntl
        ran := s.ran ++ callback.toList
        cancelled := s.cancelled || s.drops s.cntl.requestId }
  | delete : CancelStep s .delete { s with deleted := true }

theorem cancelStep {s s' : CancelThreads} {e : Event} (h : step s e = some s') : CancelStep s e s' := by
  cases e with
  | threads e =>
    obtain ⟨threads, ptr, hstep, rfl⟩ := threads_cases h
    exact .threads ptr hstep
  | callMethod method =>
    simp only [step] at h
    split at h
    · obtain rfl := Option.some.inj h
      have hcall := CancelStep.callMethod (s := s) method
      unfold callMethod
      unfold ChannelThreads.allocate at hcall ⊢
      split
      · next hadmits =>
        rw [if_pos hadmits] at hcall
        exact hcall _ _
      · next hadmits =>
        rw [if_neg hadmits] at hcall
        exact hcall s.index s.cntl
    · cases h
  | notifyOnCancel callback =>
    simp only [step] at h
    split at h
    · next hlive =>
      obtain rfl := Option.some.inj h
      exact .notifyOnCancel callback hlive.1
    · cases h
  | startCancel =>
    simp only [step] at h
    split at h
    · cases h
    · obtain ⟨cntl, _, rfl, hnone⟩ := startCancel_cases h
      exact .startCancel cntl hnone
  | delete =>
    simp only [step] at h
    split at h
    · obtain rfl := Option.some.inj h
      exact .delete
    · cases h

/-- The threads take a step or stay. -/
theorem threads_step {s s' : CancelThreads} {e : Event} (h : step s e = some s') :
    s'.threads = s.threads ∨ ∃ e', ChannelThreads.step s.threads e' = some s'.threads := by
  cases cancelStep h with
  | threads _ hstep => exact .inr ⟨_, hstep⟩
  | callMethod method _ _ => exact .inr ⟨.allocate method, rfl⟩
  | notifyOnCancel _ _ => exact .inl rfl
  | startCancel _ _ => exact .inr ⟨.cancel s.cntl.requestId, rfl⟩
  | delete => exact .inl rfl

/-- In every run each callback is at one place. -/
theorem owned_reachable {option : ChannelOption} {workThreadNum : Nat} {ok : CancelThreads → Event → Prop}
    {s : CancelThreads} (hrun : Reaches step ok (started option workThreadNum) s) : s.threads.Owned := by
  apply hrun.invariant (ChannelThreads.owned_started option workThreadNum)
  intro s e s' _ howned hstep
  rcases threads_step hstep with hsame | ⟨e', hthreads⟩
  · rw [hsame]
    exact howned
  · exact (ChannelThreads.step_tokens hthreads).tokens.linear howned

/-! ## What breaks the contract -/

/-- **A cancel breaks the contract**, whenever it takes the request's callback out of the map. -/
theorem cancel_breaks {s s' : CancelThreads} (howned : s.threads.Owned)
    (hdrops : s.drops s.cntl.requestId = true) (hstep : step s .startCancel = some s') : ¬ s'.Contract := by
  cases cancelStep hstep with
  | startCancel _ _ =>
    intro hcontract
    have hcancelled : (s.cancelled || s.drops s.cntl.requestId) = true := by
      rw [hdrops, Bool.or_true]
    obtain ⟨ptr, hptr, hdone⟩ := hcontract.done hcancelled
    have hgone := gone_of_drops howned hptr hdrops
    rcases hdone with ⟨callback, hcalled, rfl, _⟩ | ⟨callback, hholds, rfl⟩
    · exact hgone.not_called (List.mem_map_of_mem hcalled)
    · exact hgone.2 hholds.mem_tokens

/-! ## Runs that use no cancel -/

theorem unused_step {s s' : CancelThreads} {e : Event} (h : s.Unused) (hok : s.CancelUnused e)
    (hstep : step s e = some s') : s'.Unused := by
  cases cancelStep hstep with
  | threads _ _ => exact ⟨h.kept, h.silent, h.ended⟩
  | callMethod _ _ _ => exact ⟨h.kept, h.silent, h.ended⟩
  | notifyOnCancel _ hlive =>
    refine ⟨h.kept, h.silent, ?_⟩
    intro hdeleted
    rw [show s.deleted = true from hdeleted] at hlive
    cases hlive
  | @startCancel _ callback hnone =>
    refine ⟨?_, ?_, h.ended⟩
    · show (s.cancelled || s.drops s.cntl.requestId) = false
      rw [h.kept, drops_eq_false hok]
      rfl
    · show s.ran ++ callback.toList = []
      rw [h.silent, hnone hok]
      rfl
  | delete => exact ⟨h.kept, h.silent, fun _ => hok⟩

/-- **The end of a request breaks the contract** if it has a closure of `NotifyOnCancel`. -/
theorem delete_breaks {s s' : CancelThreads} (h : s.Unused) (hnotified : s.notified ≠ none)
    (hstep : step s .delete = some s') : ¬ s'.Contract := by
  cases cancelStep hstep with
  | delete =>
    intro hcontract
    have hran : s.ran = s.notified.toList := hcontract.notify (.inr rfl)
    obtain ⟨callback, hcallback⟩ := Option.ne_none_iff_exists'.mp hnotified
    rw [h.silent, hcallback] at hran
    cases hran

/-- **The contract of a cancel** is kept in every run in which each `StartCancel` comes when the request is
    not pending any more, and the request is over without a closure of `NotifyOnCancel`; and it is broken by
    the first step that does not meet this. -/
theorem cancel_contract {option : ChannelOption} {workThreadNum : Nat} {s : CancelThreads}
    (hrun : Reaches step CancelUnused (started option workThreadNum) s) :
    s.Contract ∧
      (∀ s', s.drops s.cntl.requestId = true → step s .startCancel = some s' → ¬ s'.Contract) ∧
      ∀ s', s.notified ≠ none → step s .delete = some s' → ¬ s'.Contract := by
  have hunused : s.Unused := by
    apply hrun.invariant (unused_started option workThreadNum)
    intro s e s' hok h hstep
    exact unused_step h hok hstep
  refine ⟨hunused.contract, ?_, ?_⟩
  · intro s' hdrops hstep
    exact cancel_breaks (owned_reachable hrun) hdrops hstep
  · intro s' hnotified hstep
    exact delete_breaks hunused hnotified hstep

end CancelThreads

section

attribute [local instance] networkUp

namespace CancelThreads

/-- A request up to its timeout event. -/
def requested : List Event :=
  [.callMethod ChannelThreads.asyncCall, .threads (.insert 0), .threads (.send 0), .threads (.schedule 0 0)]

/-- The response is parsed, and the callback is called. -/
def answered : List Event :=
  [.threads (.requestPacket ChannelThreads.firstReply), .threads (.pop 0 20), .threads (.call 0)]

/-- A cancel that comes when the callback has been called. -/
theorem cancel_contract_tooLate :
    ∃ s, Reaches step CancelUnused (started ⟨0, 1000⟩ 1) s ∧ s.cntl.isCancel = true ∧ s.deleted = true ∧
      s.Contract := by
  have hanswered : (exec step (started ⟨0, 1000⟩ 1) (requested ++ answered)).map (fun s =>
      (s.threads.channel.requestCallback[s.cntl.requestId]?, s.notified)) = some (none, none) := by
    decide
  have hfinished : (exec step (started ⟨0, 1000⟩ 1) ((requested ++ answered) ++ [.startCancel, .delete])).map
      (fun s => (s.cntl.isCancel, s.deleted)) = some (true, true) := by
    decide
  obtain ⟨s, hexec, hs⟩ := Option.map_eq_some_iff.mp hanswered
  obtain ⟨s', hexec', hs'⟩ := Option.map_eq_some_iff.mp hfinished
  obtain ⟨hpending, hnotified⟩ := Prod.mk.inj hs
  obtain ⟨hcancel, hdeleted⟩ := Prod.mk.inj hs'
  rw [exec_append, hexec] at hexec'
  have hexec' : exec step s [.startCancel, .delete] = some s' := hexec'
  obtain ⟨s₁, hstep, hrest⟩ := Option.bind_eq_some_iff.mp hexec'
  obtain ⟨s₂, hdelete, hlast⟩ := Option.bind_eq_some_iff.mp hrest
  obtain rfl := Option.some.inj hlast
  have hnotified₁ : s₁.notified = none := by
    cases cancelStep hstep with
    | startCancel _ _ => exact hnotified
  have hbefore : Reaches step CancelUnused (started ⟨0, 1000⟩ 1) s :=
    reaches_exec_of hexec (by simp [requested, answered, CancelUnused])
  have hcancels : s.CancelUnused .startCancel := hpending
  have hdeletes : s₁.CancelUnused .delete := hnotified₁
  have hrun := (hbefore.snoc hcancels hstep).snoc hdeletes hdelete
  exact ⟨_, hrun, hcancel, hdeleted, (cancel_contract hrun).1⟩

/-- **The `done` of a cancelled request is lost**, a closure that is given after the cancel is not run, and
    nor is one whose request completes. -/
theorem cancel_contract_broken :
    (∃ s, exec step (started ⟨0, 1000⟩ 1) (requested ++ [.notifyOnCancel 5, .startCancel]) = some s ∧
      s.cancelled = true ∧ ¬ s.Contract) ∧
    (∃ s, exec step (started ⟨0, 1000⟩ 1) (requested ++ [.startCancel, .notifyOnCancel 5]) = some s ∧
      s.cancelled = true ∧ s.notified = some 5 ∧ s.ran = [] ∧ ¬ s.Contract) ∧
    ∃ s, exec step (started ⟨0, 1000⟩ 1) (requested ++ (.notifyOnCancel 5 :: answered) ++ [.delete]) = some s ∧
      s.cancelled = false ∧ s.notified = some 5 ∧ s.ran = [] ∧ ¬ s.Contract := by
  refine ⟨?_, ?_, ?_⟩
  · have hpending : (exec step (started ⟨0, 1000⟩ 1) (requested ++ [.notifyOnCancel 5])).map (fun s =>
        s.drops s.cntl.requestId) = some true := by
      decide
    have hresult : (exec step (started ⟨0, 1000⟩ 1)
        ((requested ++ [.notifyOnCancel 5]) ++ [.startCancel])).map cancelled = some true := by
      decide
    obtain ⟨s, hexec, hdrops⟩ := Option.map_eq_some_iff.mp hpending
    obtain ⟨s', hexec', hcancelled⟩ := Option.map_eq_some_iff.mp hresult
    refine ⟨s', hexec', hcancelled, ?_⟩
    rw [exec_append, hexec] at hexec'
    have hexec' : exec step s [.startCancel] = some s' := hexec'
    obtain ⟨s₁, hstep, hlast⟩ := Option.bind_eq_some_iff.mp hexec'
    obtain rfl := Option.some.inj hlast
    exact cancel_breaks (owned_reachable (reaches_exec hexec)) hdrops hstep
  · have hresult : (exec step (started ⟨0, 1000⟩ 1) (requested ++ [.startCancel, .notifyOnCancel 5])).map
        (fun s => (s.cancelled, s.notified, s.ran)) = some (true, some 5, []) := by
      decide
    obtain ⟨s, hexec, hs⟩ := Option.map_eq_some_iff.mp hresult
    simp only [Prod.mk.injEq] at hs
    obtain ⟨hcancelled, hnotified, hran⟩ := hs
    refine ⟨s, hexec, hcancelled, hnotified, hran, ?_⟩
    intro hcontract
    have hrun := hcontract.notify (.inl hcancelled)
    rw [hran, hnotified] at hrun
    cases hrun
  · have hresult : (exec step (started ⟨0, 1000⟩ 1)
        (requested ++ (.notifyOnCancel 5 :: answered) ++ [.delete])).map
        (fun s => (s.cancelled, s.notified, s.ran, s.deleted)) = some (false, some 5, [], true) := by
      decide
    obtain ⟨s, hexec, hs⟩ := Option.map_eq_some_iff.mp hresult
    simp only [Prod.mk.injEq] at hs
    obtain ⟨hcancelled, hnotified, hran, hdeleted⟩ := hs
    refine ⟨s, hexec, hcancelled, hnotified, hran, ?_⟩
    intro hcontract
    have hrun := hcontract.notify (.inr hdeleted)
    rw [hran, hnotified] at hrun
    cases hrun

end CancelThreads

end

end Frrpc
