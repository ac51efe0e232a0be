import Mathlib.Data.Finset.Dedup
import Mathlib.Data.Finset.Order
import Frrpc.Rpc.Correctness.Sweep

/-!
# `Rpc.Correctness.Orphan` — what a failed send leaves behind

`CallMethod` inserts the entry of its request before the send and pushes the timeout event after it. A send
that fails returns in between: the entry stays, and no event takes it out (`failed_send_orphans`). As long as
no send fails whose request is still pending, one thread of calls leaves no orphan: an entry either belongs to
an invocation that is about to send or push, or it has an event, and then the sweeps come to that event by a
time that no later step puts off (`sends_leave_no_orphan`).
-/

namespace Frrpc

open Lib Std

namespace Channel

/-! ## Events within reach of a sweep -/

/-- A sweep at this time comes to an event of the id. -/
def DueBy (c : Channel) (requestId : RpcRequestId) (deadline : Int) : Prop :=
  ∃ event ∈ c.timeoutEvents.takeWhile (RequestTimeoutEvent.due deadline), event.requestId = requestId

/-- Some sweep comes to any event. -/
theorem exists_dueBy {c : Channel} {event : RequestTimeoutEvent} (h : event ∈ c.timeoutEvents) :
    ∃ deadline, c.DueBy event.requestId deadline := by
  obtain ⟨deadline, hbound⟩ := (c.timeoutEvents.map RequestTimeoutEvent.timeout).toFinset.exists_le
  have hall : c.timeoutEvents.takeWhile (RequestTimeoutEvent.due deadline) = c.timeoutEvents := by
    refine List.takeWhile_eq_self_iff.mpr fun e he => ?_
    rw [RequestTimeoutEvent.due, decide_eq_true_eq]
    exact hbound _ (List.mem_toFinset.mpr (List.mem_map_of_mem he))
  exact ⟨deadline, event, by rwa [hall], rfl⟩

theorem DueBy.mono {c : Channel} {requestId : RpcRequestId} {deadline curTime : Int}
    (h : c.DueBy requestId deadline) (hle : deadline ≤ curTime) : c.DueBy requestId curTime := by
  obtain ⟨event, hevent, hid⟩ := h
  refine ⟨event, takeWhile_subset_of_imp (fun e hdue => ?_) hevent, hid⟩
  rw [RequestTimeoutEvent.due, decide_eq_true_eq] at hdue ⊢
  exact Int.le_trans hdue hle

/-- **The sweep fails what it comes to.** -/
theorem DueBy.resolved {c : Channel} {key : RpcRequestId} {curTime : Int} {callback : ChannelCallback}
    (h : c.DueBy key curTime) (hentry : c.requestCallback[key]? = some callback) :
    (c.clearTimeoutRequest curTime).requestCallback[key]? = none ∧
      callback.timedOut ∈ (c.clearTimeoutRequest curTime).alreadyCallbackQueue := by
  obtain ⟨event, hevent, hid⟩ := h
  have hkey := hid ▸ List.mem_map_of_mem (f := RequestTimeoutEvent.requestId) hevent
  constructor
  · rw [clearTimeoutRequest_getElem?, if_pos hkey]
  · rw [clearTimeoutRequest, clearTimeoutLoop_eq]
    exact timedOut_mem_expireAll hkey hentry

/-! ## Changes that keep them within reach -/

/-- No entry is new, and an event goes only with the entry of its id; those that stay are not put off. -/
structure Retains (c c' : Channel) : Prop where
  nextPtr : c.nextPtr ≤ c'.nextPtr
  entries : ∀ (key : RpcRequestId) callback, c'.requestCallback[key]? = some callback →
    c.requestCallback[key]? = some callback
  events : ∀ (key : RpcRequestId) deadline, c'.requestCallback[key]? ≠ none → c.DueBy key deadline →
    c'.DueBy key deadline

/-- Entries may go as long as the events stay. -/
theorem Retains.of_events {c c' : Channel} (hnext : c.nextPtr ≤ c'.nextPtr)
    (hentries : ∀ (key : RpcRequestId) callback, c'.requestCallback[key]? = some callback →
      c.requestCallback[key]? = some callback)
    (hevents : c'.timeoutEvents = c.timeoutEvents) : Retains c c' := by
  refine ⟨hnext, hentries, fun key deadline _ h => ?_⟩
  rw [DueBy, hevents]
  exact h

/-- A change of anything else. -/
theorem Retains.of_eq {c c' : Channel} (hnext : c'.nextPtr = c.nextPtr)
    (hmap : c'.requestCallback = c.requestCallback) (hevents : c'.timeoutEvents = c.timeoutEvents) :
    Retains c c' :=
  .of_events hnext.ge (fun key callback h => by rwa [hmap] at h) hevents

theorem Completes.retains {c c' : Channel} (h : Completes c c') : Retains c c' :=
  .of_events h.nextPtr h.entries h.events

theorem retains_pushTimeout (c : Channel) (localTimeMs : Int) : Retains c (c.pushTimeout localTimeMs) := by
  refine ⟨Nat.le_refl _, fun _ _ h => h, ?_⟩
  rintro key deadline _ ⟨event, hevent, hid⟩
  exact ⟨event, takeWhile_subset_append _ hevent, hid⟩

/-- **A sweep leaves the events of other times where they are**, but for those in front of them. -/
theorem retains_clearTimeoutRequest (c : Channel) (curTime : Int) :
    Retains c (c.clearTimeoutRequest curTime) := by
  refine ⟨(c.keeps_clearTimeoutRequest curTime).nextPtr.ge, fun key callback h => ?_, ?_⟩
  · rw [clearTimeoutRequest_getElem?] at h
    split at h
    · cases h
    · exact h
  · rintro key deadline hpending ⟨event, hevent, hid⟩
    rcases mem_takeWhile_or_dropWhile (RequestTimeoutEvent.due curTime) hevent with hswept | hleft
    · rw [clearTimeoutRequest_getElem?, if_pos (hid ▸ List.mem_map_of_mem hswept)] at hpending
      exact absurd rfl hpending
    · refine ⟨event, ?_, hid⟩
      rw [clearTimeoutRequest, clearTimeoutLoop_eq]
      exact hleft

end Channel

namespace ChannelThreads

section

variable [Protobuf] [FrNet] {s s' : ChannelThreads}

/-- **Every step but an insertion retains what is within reach.** -/
theorem retains_step {e : Event} (h : step s e = some s') :
    (∃ index, e = .insert index) ∨ s.channel.Retains s'.channel := by
  cases e with
  | allocate method =>
    obtain rfl := Option.some.inj h
    rw [allocate]
    split
    · exact Or.inr (.of_eq rfl rfl rfl)
    · exact Or.inr (.of_eq rfl rfl rfl)
  | insert index => exact Or.inl ⟨index, rfl⟩
  | send index =>
    obtain ⟨_, _, _, _, _, _, _, rfl⟩ := send_cases h
    exact Or.inr (.of_eq rfl rfl rfl)
  | schedule index localTimeMs =>
    obtain ⟨_, _, _, _, rfl⟩ := pushTimeout_cases h
    exact Or.inr (s.channel.retains_pushTimeout localTimeMs)
  | clearTimeout curTime =>
    obtain rfl := Option.some.inj h
    exact Or.inr (s.channel.retains_clearTimeoutRequest curTime)
  | _ => exact Or.inr (step_completes h trivial).1.retains

/-- The callback is not pending under this id any more, or a sweep at this time comes to an event of it. -/
def Tracked (key : RpcRequestId) (callback : ChannelCallback) (deadline : Int) (s : ChannelThreads) : Prop :=
  callback.ptr < s.channel.nextPtr ∧
    (s.channel.requestCallback[key]? = some callback → s.channel.DueBy key deadline)

theorem tracked_step {key : RpcRequestId} {callback : ChannelCallback} {deadline : Int} {e : Event}
    (h : s.Tracked key callback deadline) (hstep : step s e = some s') :
    s'.Tracked key callback deadline := by
  obtain ⟨hdrawn, hdue⟩ := h
  rcases retains_step hstep with ⟨index, rfl⟩ | hretains
  · obtain ⟨invocation, _, _, ⟨_, rfl⟩ | ⟨hfresh, rfl⟩⟩ := insert_cases hstep
    · exact ⟨hdrawn, hdue⟩
    · refine ⟨Nat.lt_succ_of_lt hdrawn, fun hentry => hdue ?_⟩
      replace hentry :
          (s.channel.requestCallback.insertIfNew invocation.requestId _)[key]? = some callback := hentry
      rw [getElem?_insertIfNew_eq] at hentry
      split at hentry
      · -- the new callback has a new address
        obtain rfl := Option.some.inj hentry
        exact absurd hdrawn (Nat.lt_irrefl _)
      · exact hentry
  · refine ⟨Nat.lt_of_lt_of_le hdrawn hretains.nextPtr, fun hentry => ?_⟩
    refine hretains.events key deadline ?_ (hdue (hretains.entries key callback hentry))
    rw [hentry]
    exact Option.some_ne_none _

/-- From some time on, whatever happens before it, a sweep that finds the entry fails it. -/
def WillResolve (s : ChannelThreads) (key : RpcRequestId) (callback : ChannelCallback) : Prop :=
  ∃ deadline : Int, ∀ s', Reaches step anyStep s s' → s'.channel.requestCallback[key]? = some callback →
    ∀ curTime, deadline ≤ curTime →
      (s'.channel.clearTimeoutRequest curTime).requestCallback[key]? = none ∧
      callback.timedOut ∈ (s'.channel.clearTimeoutRequest curTime).alreadyCallbackQueue

/-- **An entry with an event is resolved in the end.** -/
theorem willResolve_of_dueBy {key : RpcRequestId} {callback : ChannelCallback} {deadline : Int}
    (hdrawn : callback.ptr < s.channel.nextPtr) (hdue : s.channel.DueBy key deadline) :
    s.WillResolve key callback := by
  refine ⟨deadline, fun s' hrun hentry curTime hle => ?_⟩
  have htracked : s'.Tracked key callback deadline := by
    apply hrun.invariant ⟨hdrawn, fun _ => hdue⟩
    intro s e s' _ h hstep
    exact tracked_step h hstep
  exact ((htracked.2 hentry).mono hle).resolved hentry

end

/-! ## One thread that calls -/

/-- The entry is that of an invocation that is about to send its request, or to push its event. -/
def Sending (s : ChannelThreads) (key : RpcRequestId) (callback : ChannelCallback) : Prop :=
  ∃ inv ∈ s.invocations, inv.requestId = key ∧
    (inv.stage = .inserted callback.ptr ∨ inv.stage = .sent callback.ptr)

/-- Every entry is that of an invocation at work, or has its event. -/
structure Tended (s : ChannelThreads) : Prop where
  underway : ∀ inv ∈ s.invocations, inv.stage.Underway → inv.requestId = s.channel.requestId
  entries : ∀ (key : RpcRequestId) callback, s.channel.requestCallback[key]? = some callback →
    s.Sending key callback ∨ ∃ deadline, s.channel.DueBy key deadline

theorem tended_started (option : ChannelOption) (workThreadNum : Nat) :
    (started option workThreadNum).Tended where
  underway := nofun
  entries key callback h := by
    have hnone : (started option workThreadNum).channel.requestCallback[key]? = none :=
      ExtTreeMap.getElem?_empty
    rw [hnone] at h
    cases h

section

variable {s : ChannelThreads} {index : Nat} {invocation : Invocation} {key : RpcRequestId}
  {callback : ChannelCallback}

/-- Where the channel retains what it has, only the invocations matter. -/
theorem Tended.of_retains (h : s.Tended) {s' : ChannelThreads} (hretains : s.channel.Retains s'.channel)
    (hunderway : ∀ inv ∈ s'.invocations, inv.stage.Underway → inv.requestId = s'.channel.requestId)
    (hsending : ∀ (key : RpcRequestId) callback, s'.channel.requestCallback[key]? = some callback →
      s.Sending key callback → s'.Sending key callback ∨ ∃ deadline, s'.channel.DueBy key deadline) :
    s'.Tended := by
  refine ⟨hunderway, fun key callback hentry => ?_⟩
  rcases h.entries key callback (hretains.entries key callback hentry) with hold | ⟨deadline, hdue⟩
  · exact hsending key callback hentry hold
  · refine Or.inr ⟨deadline, hretains.events key deadline ?_ hdue⟩
    rw [hentry]
    exact Option.some_ne_none _

/-- An invocation that moves on keeps its id. -/
theorem Tended.underway_setStage (h : s.Tended) (hget : s.invocations[index]? = some invocation)
    (hstage : invocation.stage.Underway) (stage : Stage) :
    ∀ inv ∈ (s.setStage index invocation stage).invocations, inv.stage.Underway →
      inv.requestId = s.channel.requestId := by
  intro inv hinv hunderway
  rcases eq_or_mem_of_mem_setStage hinv with rfl | hold
  · exact h.underway invocation (List.mem_of_getElem? hget) hstage
  · exact h.underway inv hold hunderway

/-- The others are at work as before. -/
theorem Sending.setStage (h : s.Sending key callback) (hget : s.invocations[index]? = some invocation)
    (stage : Stage) :
    (s.setStage index invocation stage).Sending key callback ∨ invocation.requestId = key ∧
      (invocation.stage = .inserted callback.ptr ∨ invocation.stage = .sent callback.ptr) := by
  obtain ⟨inv, hinv, hid, hstage⟩ := h
  by_cases hmoved : inv = invocation
  · exact Or.inr (hmoved ▸ ⟨hid, hstage⟩)
  · exact Or.inl ⟨inv, mem_setStage hget stage hinv hmoved, hid, hstage⟩

theorem sending_setStage (hget : s.invocations[index]? = some invocation) (hid : invocation.requestId = key)
    {stage : Stage} (hstage : stage = .inserted callback.ptr ∨ stage = .sent callback.ptr) :
    (s.setStage index invocation stage).Sending key callback :=
  ⟨_, self_mem_setStage hget stage, hid, hstage⟩

theorem mem_pending_of_entry (h : s.channel.requestCallback[key]? = some callback) :
    callback.ptr ∈ s.channel.pending := List.mem_map_of_mem (mem_vals.mpr ⟨key, h⟩)

/-! ## Steps -/

/-- The condition: the thread takes an id only when it is done with the call before, and a request whose send
    fails is not pending any more. -/
def SendStep [Protobuf] [FrNet] (s : ChannelThreads) : Event → Prop
  | .allocate _ => ∀ inv ∈ s.invocations, ¬ inv.stage.Underway
  | .send index => ∀ inv ptr, s.invocations[index]? = some inv → inv.stage = .inserted ptr →
      (s.channel.sendRequest inv.method inv.requestId).2 = false → ptr ∉ s.channel.pending
  | _ => True

theorem tended_allocate (h : s.Tended) (method : MethodCall)
    (hidle : ∀ inv ∈ s.invocations, ¬ inv.stage.Underway) : (s.allocate method).Tended := by
  rw [allocate]
  split
  · refine h.of_retains (.of_eq rfl rfl rfl) (fun inv hinv hstage => ?_) ?_
    · rcases List.mem_append.mp hinv with hold | hnew
      · exact absurd hstage (hidle inv hold)
      · obtain rfl := List.mem_singleton.mp hnew
        rfl
    · rintro key callback - ⟨inv, hinv, hsending⟩
      exact Or.inl ⟨inv, List.mem_append_left _ hinv, hsending⟩
  · exact h

/-- A new entry is that of the invocation that inserts it. -/
theorem tended_insert (h : s.Tended) {s' : ChannelThreads} (hstep : s.insert index = some s') :
    s'.Tended := by
  obtain ⟨invocation, hget, hstage, hcases⟩ := insert_cases hstep
  have hother : ∀ (key : RpcRequestId) callback stage, s.Sending key callback →
      (s.setStage index invocation stage).Sending key callback := by
    intro key callback stage hsending
    refine (hsending.setStage hget stage).resolve_right ?_
    rintro ⟨_, hafter | hafter⟩
    · cases hstage.symm.trans hafter
    · cases hstage.symm.trans hafter
  rcases hcases with ⟨_, rfl⟩ | ⟨_, rfl⟩
  · refine h.of_retains (.of_eq rfl rfl rfl) (h.underway_setStage hget (Or.inl hstage) _) ?_
    exact fun key callback _ hsending => Or.inl (hother key callback _ hsending)
  · refine ⟨h.underway_setStage hget (Or.inl hstage) _, fun key callback hentry => ?_⟩
    replace hentry :
        (s.channel.requestCallback.insertIfNew invocation.requestId _)[key]? = some callback := hentry
    rw [getElem?_insertIfNew_eq] at hentry
    split at hentry
    · next hnew =>
      obtain rfl := Option.some.inj hentry
      exact Or.inl (sending_setStage hget hnew.1 (Or.inl rfl))
    · exact (h.entries key callback hentry).imp_left (hother key callback _)

variable [Protobuf] [FrNet]

/-- **A send leaves no entry behind**, if it succeeds or the entry is gone. -/
theorem tended_send (h : s.Tended) (hclean : SendStep s (.send index)) {s' : ChannelThreads}
    (hstep : s.send index = some s') : s'.Tended := by
  obtain ⟨invocation, ptr, rpcNet, hget, hstage, rfl⟩ := send_result hstep
  refine h.of_retains (.of_eq rfl rfl rfl)
    (h.underway_setStage hget (Or.inr ⟨ptr, Or.inl hstage⟩) _) fun key callback hentry hsending => Or.inl ?_
  rcases hsending.setStage hget _ with hold | ⟨hid, hown⟩
  · exact hold
  · obtain rfl : ptr = callback.ptr := by
      rw [hstage] at hown
      rcases hown with hown | hown
      · exact Stage.inserted.inj hown
      · cases hown
    refine sending_setStage hget hid (Or.inr ?_)
    rw [if_pos]
    -- a failure would leave this entry
    by_contra hfailed
    exact hclean invocation _ hget hstage (Bool.eq_false_iff.mpr hfailed) (mem_pending_of_entry hentry)

omit [Protobuf] [FrNet] in
/-- **The push gives the entry its event.** -/
theorem tended_schedule (h : s.Tended) {localTimeMs : Int} {s' : ChannelThreads}
    (hstep : s.pushTimeout index localTimeMs = some s') : s'.Tended := by
  obtain ⟨invocation, ptr, hget, hstage, rfl⟩ := pushTimeout_cases hstep
  have hunderway : invocation.stage.Underway := Or.inr ⟨ptr, Or.inr hstage⟩
  refine h.of_retains (s.channel.retains_pushTimeout localTimeMs) (h.underway_setStage hget hunderway _)
    fun key callback _ hsending => ?_
  rcases hsending.setStage hget (.scheduled ptr localTimeMs) with hold | ⟨hid, _⟩
  · exact Or.inl hold
  · right
    have hlast := h.underway invocation (List.mem_of_getElem? hget) hunderway
    rw [← hid, hlast]
    exact Channel.exists_dueBy (c := s.channel.pushTimeout localTimeMs)
      (List.mem_append_right _ (List.mem_singleton.mpr rfl))

/-- **Every step keeps the entries tended.** -/
theorem tended_step {s' : ChannelThreads} {e : Event} (h : s.Tended) (hok : SendStep s e)
    (hstep : step s e = some s') : s'.Tended := by
  cases e with
  | allocate method =>
    obtain rfl := Option.some.inj hstep
    exact tended_allocate h method hok
  | insert index => exact tended_insert h hstep
  | send index => exact tended_send h hok hstep
  | schedule index localTimeMs => exact tended_schedule h hstep
  | clearTimeout curTime =>
    obtain rfl := Option.some.inj hstep
    refine h.of_retains (s.channel.retains_clearTimeoutRequest curTime) (fun inv hinv hstage => ?_)
      fun _ _ _ hsending => Or.inl hsending
    exact (h.underway inv hinv hstage).trans (s.channel.settles_clearTimeoutRequest curTime).requestId.symm
  | _ =>
    obtain ⟨hcompletes, hinvocations⟩ := step_completes hstep trivial
    refine h.of_retains hcompletes.retains (fun inv hinv hstage => ?_) fun key callback _ hsending => Or.inl ?_
    · rw [hinvocations] at hinv
      exact (h.underway inv hinv hstage).trans hcompletes.requestId.symm
    · rw [Sending, hinvocations]
      exact hsending

/-! ## Runs -/

/-- No entry is left to itself: an invocation is at work on it, or it is resolved in the end. -/
def NoOrphan (s : ChannelThreads) : Prop :=
  ∀ (key : RpcRequestId) callback, s.channel.requestCallback[key]? = some callback →
    s.Sending key callback ∨ s.WillResolve key callback

theorem noOrphan_reachable {option : ChannelOption} {workThreadNum : Nat} {s : ChannelThreads}
    (hrun : Reaches step SendStep (started option workThreadNum) s) : s.NoOrphan := by
  have hboth : s.Tended ∧ s.Owned := by
    apply hrun.invariant ⟨tended_started option workThreadNum, owned_started option workThreadNum⟩
    rintro s e s' hok ⟨htended, howned⟩ hstep
    exact ⟨tended_step htended hok hstep, (step_tokens hstep).tokens.linear howned⟩
  intro key callback hentry
  refine (hboth.1.entries key callback hentry).imp_right ?_
  rintro ⟨deadline, hdue⟩
  have hholds : s.Holds callback := Or.inl (Or.inl ⟨key, hentry⟩)
  exact willResolve_of_dueBy (hholds.drawn hboth.2) hdue

/-- A failed send leaves its request pending unless it meets the condition. -/
theorem pending_of_failed_send {s' : ChannelThreads} {ptr : Nat}
    (hget : s.invocations[index]? = some invocation) (hstage : invocation.stage = .inserted ptr)
    (hfailed : (s.channel.sendRequest invocation.method invocation.requestId).2 = false)
    (hstep : step s (.send index) = some s') : ptr ∉ s'.channel.pending ↔ SendStep s (.send index) := by
  obtain ⟨_, _, _, _, _, rfl⟩ := send_result hstep
  constructor
  · intro hgone inv ptr' hget' hstage' _
    obtain rfl := Option.some.inj (hget.symm.trans hget')
    obtain rfl := Stage.inserted.inj (hstage.symm.trans hstage')
    exact hgone
  · intro hclean
    exact hclean invocation ptr hget hstage hfailed

/-- **Failed sends leave no orphan** in any run of one thread in which a request whose send fails is not
    pending any more; and a failed send leaves its request pending exactly when it breaks this condition. -/
theorem sends_leave_no_orphan :
    (∀ option workThreadNum (s : ChannelThreads), Reaches step SendStep (started option workThreadNum) s →
      s.NoOrphan) ∧
    ∀ (s s' : ChannelThreads) (index : Nat) (invocation : Invocation) ptr,
      s.invocations[index]? = some invocation → invocation.stage = .inserted ptr →
      (s.channel.sendRequest invocation.method invocation.requestId).2 = false →
      step s (.send index) = some s' → (ptr ∉ s'.channel.pending ↔ SendStep s (.send index)) :=
  ⟨fun _ _ _ => noOrphan_reachable, fun _ _ _ _ _ => pending_of_failed_send⟩

end

section

/-- A network that is lost after the first packet. -/
@[reducible] def networkLost : FrNet := ⟨0, fun _ _ _ => 0, fun _ sent _ => if sent.isEmpty then 0 else 1⟩

attribute [local instance] networkLost

/-- A first call that is sent, and a second one up to its send. -/
def callThenLost : List Event :=
  [.allocate asyncCall, .insert 0, .send 0, .schedule 0 0, .allocate asyncCall, .insert 1]

/-- A second call that is cancelled before its send fails. -/
theorem sends_leave_no_orphan_cancelled :
    ∃ s s' : ChannelThreads, exec step (started ⟨0, 1000⟩ 1) (callThenLost ++ [.cancel 2]) = some s ∧
      s.channel.requestCallback.contains 1 = true ∧ s.NoOrphan ∧
      step s (.send 1) = some s' ∧ 1 ∉ s'.channel.pending := by
  have hfirst : Reaches step SendStep (started ⟨0, 1000⟩ 1) _ :=
    (Reaches.refl _).snoc (show SendStep _ (.allocate asyncCall) from nofun) rfl
  have hinsert := hfirst.snoc (show SendStep _ (.insert 0) from trivial) rfl
  have hsend := hinsert.snoc (show SendStep _ (.send 0) from fun inv ptr hget _ hfailed => by
    obtain rfl := Option.some.inj (show some _ = some inv from hget)
    exact absurd hfailed (by decide)) rfl
  have hschedule := hsend.snoc (show SendStep _ (.schedule 0 0) from trivial) rfl
  have hsecond := hschedule.snoc (show SendStep _ (.allocate asyncCall) from fun inv hinv hunderway => by
    obtain rfl := List.mem_singleton.mp hinv
    exact hunderway.not_scheduled 0 0 rfl) rfl
  have hinsert' := hsecond.snoc (show SendStep _ (.insert 1) from trivial) rfl
  obtain ⟨s, hexec, hrun⟩ : ∃ s, exec step (started ⟨0, 1000⟩ 1) (callThenLost ++ [.cancel 2]) = some s ∧
      Reaches step SendStep (started ⟨0, 1000⟩ 1) s :=
    ⟨_, rfl, hinsert'.snoc (show SendStep _ (.cancel 2) from trivial) rfl⟩
  have hresult : (exec step (started ⟨0, 1000⟩ 1) (callThenLost ++ [.cancel 2])).bind (fun s =>
        (step s (.send 1)).map fun _ => (s.invocations[1]?, s.channel.requestCallback.contains 1,
          s.channel.pending, (s.channel.sendRequest asyncCall 2).2))
      = some (some ⟨asyncCall, 2, .inserted 1⟩, true, [0], false) := by decide
  rw [hexec, Option.bind_some] at hresult
  obtain ⟨s', hstep, hs⟩ := Option.map_eq_some_iff.mp hresult
  obtain ⟨hget, hrest⟩ := Prod.mk.inj hs
  obtain ⟨hfirst, hrest⟩ := Prod.mk.inj hrest
  obtain ⟨hpending, hfailed⟩ := Prod.mk.inj hrest
  refine ⟨s, s', hexec, hfirst, sends_leave_no_orphan.1 _ _ s hrun, hstep, ?_⟩
  refine (sends_leave_no_orphan.2 s s' 1 _ 1 hget rfl hfailed hstep).mpr fun inv ptr hget' hstage _ => ?_
  obtain rfl := Option.some.inj (hget.symm.trans hget')
  obtain rfl := Stage.inserted.inj hstage
  rw [hpending]
  decide

/-- **A failed send orphans its request**: the second call has returned, its entry is pending, the only event
    is that of the first call, and no sweep resolves it. -/
theorem failed_send_orphans :
    ∃ s s' : ChannelThreads, exec step (started ⟨0, 1000⟩ 1) callThenLost = some s ∧
      step s (.send 1) = some s' ∧ s'.invocations[1]? = some ⟨asyncCall, 2, .returned⟩ ∧
      (∃ callback, s'.channel.requestCallback[(2 : RpcRequestId)]? = some callback ∧
        ¬ s'.WillResolve 2 callback) ∧
      s'.channel.timeoutEvents = [⟨1000, 1⟩] ∧ ¬ s'.NoOrphan := by
  have hresult : (exec step (started ⟨0, 1000⟩ 1) callThenLost).bind (fun s =>
        (step s (.send 1)).map fun s' => (s'.invocations,
          s'.channel.requestCallback[(2 : RpcRequestId)]?, s'.channel.timeoutEvents))
      = some ([⟨asyncCall, 1, .scheduled 0 0⟩, ⟨asyncCall, 2, .returned⟩],
        some ⟨1, ⟨false, 2, ""⟩, none, some 0⟩, [⟨1000, 1⟩]) := by decide
  obtain ⟨s, hexec, hs⟩ := Option.bind_eq_some_iff.mp hresult
  obtain ⟨s', hstep, hs'⟩ := Option.map_eq_some_iff.mp hs
  obtain ⟨hinvocations, hrest⟩ := Prod.mk.inj hs'
  obtain ⟨hentry, hevents⟩ := Prod.mk.inj hrest
  have hnever : ¬ s'.WillResolve 2 ⟨1, ⟨false, 2, ""⟩, none, some 0⟩ := by
    rintro ⟨deadline, hresolves⟩
    obtain ⟨hgone, _⟩ := hresolves s' (.refl s') hentry deadline (Int.le_refl _)
    rw [Channel.clearTimeoutRequest, Channel.clearTimeoutLoop_eq, hevents] at hgone
    replace hgone : (s'.channel.expireAll _).requestCallback[(2 : RpcRequestId)]? = none := hgone
    rw [Channel.expireAll_getElem?, if_neg, hentry] at hgone
    · cases hgone
    · intro hswept
      obtain ⟨event, hevent, hid⟩ := List.mem_map.mp hswept
      obtain rfl := List.mem_singleton.mp (List.takeWhile_subset _ hevent)
      exact absurd hid (by decide)
  refine ⟨s, s', hexec, hstep, by rw [hinvocations]; rfl, ⟨_, hentry, hnever⟩, hevents, fun hnone => ?_⟩
  rcases hnone 2 _ hentry with ⟨inv, hinv, hid, hstage⟩ | hresolves
  · rw [hinvocations] at hinv
    simp only [List.mem_cons, List.not_mem_nil, or_false] at hinv
    rcases hinv with rfl | rfl
    · exact absurd hid (by decide)
    · exact absurd hstage (by simp)
  · exact hnever hresolves

end

end ChannelThreads

end Frrpc
