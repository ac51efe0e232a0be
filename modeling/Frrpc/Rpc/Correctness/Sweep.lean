import Frrpc.Lib.Sweep
import Frrpc.Rpc.Correctness.Objects
import Frrpc.Rpc.Correctness.Timeout

/-!
# `Rpc.Correctness.Sweep` — what one timeout sweep does

The sweep stops at the first event that is not due. Where the events stand in the order they fall due, and
what is pending belongs to the requests that have them (`Sweepable`), it fails all requests that are due and
no others (`Sweepable.sweepsAt`), although events outlive their requests.
-/

namespace Frrpc

open Lib Std

/-! ## Requests -/

/-- When an invocation's request times out, once its event is pushed. -/
def Invocation.deadline (option : ChannelOption) (invocation : Invocation) : Option Int :=
  match invocation.stage with
  | .scheduled _ localTimeMs => some (localTimeMs + option.requestTimeout.toInt)
  | _ => none

/-- The event that an invocation has pushed. -/
def Invocation.event (option : ChannelOption) (invocation : Invocation) : Option RequestTimeoutEvent :=
  (invocation.deadline option).map fun timeout => ⟨timeout, invocation.requestId⟩

/-- A stage between taking the id and pushing the event. -/
def Stage.Underway (stage : Stage) : Prop :=
  stage = .allocated ∨ ∃ ptr, stage = .inserted ptr ∨ stage = .sent ptr

theorem Stage.Underway.not_scheduled {stage : Stage} (h : stage.Underway) (ptr : Nat) (now : Int) :
    stage ≠ .scheduled ptr now := by
  rintro rfl
  rcases h with h | ⟨_, h | h⟩
  · cases h
  · cases h
  · cases h

namespace ChannelThreads

/-- The callback of an invocation, while it waits for its response. -/
def pendingOf (s : ChannelThreads) (invocation : Invocation) : Option ChannelCallback :=
  (s.channel.requestCallback[invocation.requestId]?).filter
    fun callback => invocation.stage.ptr? = some callback.ptr

/-- The request is due at this time. -/
def dueAt (s : ChannelThreads) (curTime : Int) (invocation : Invocation) : Bool :=
  (invocation.deadline s.channel.option).any (· ≤ curTime)

/-- A sweep that is complete and not early: no event is left that is due, and the others are; the requests
    that are due fail, in the order they were issued; those that are not due, or were completed or cancelled
    before, are left as they are, and so is everything else. -/
structure SweepsAt (curTime : Int) (s s' : ChannelThreads) : Prop where
  events : s'.channel.timeoutEvents = s.channel.timeoutEvents.filter fun event => curTime < event.timeout
  queue : ∃ swept, s'.channel.alreadyCallbackQueue = s.channel.alreadyCallbackQueue ++ swept ∧
    swept = ((s.invocations.filter (s.dueAt curTime)).filterMap s.pendingOf).map ChannelCallback.timedOut ∧
    ∀ callback ∈ swept, callback.cntl.failed = true
  pending : ∀ invocation ∈ s.invocations,
    s'.pendingOf invocation = if s.dueAt curTime invocation then none else s.pendingOf invocation
  entries : ∀ (requestId : RpcRequestId) callback, s'.channel.requestCallback[requestId]? = some callback →
    ∃ invocation ∈ s.invocations, invocation.requestId = requestId ∧ s'.pendingOf invocation = some callback
  invocations : s'.invocations = s.invocations
  batches : s'.batches = s.batches
  called : s'.called = s.called

/-! ## One thread that calls -/

/-- The invocations are in three parts: those whose event was swept, those that have one, in the same order,
    and the one that is underway. Whatever is pending belongs to the last two, which have different ids. -/
structure Sweepable (s : ChannelThreads) (swept live : List Invocation) (current : Option Invocation) :
    Prop where
  invocations : s.invocations = swept ++ live ++ current.toList
  scheduled : ∀ inv ∈ swept ++ live, ∃ now, Scheduled inv now
  underway : ∀ inv ∈ current, inv.requestId = s.channel.requestId ∧ inv.stage.Underway
  events : s.channel.timeoutEvents = live.filterMap (Invocation.event s.channel.option)
  ordered : s.channel.timeoutEvents.Pairwise fun event event' => event.timeout ≤ event'.timeout
  ids : ((live ++ current.toList).map Invocation.requestId).Nodup
  entries : ∀ (requestId : RpcRequestId) callback, s.channel.requestCallback[requestId]? = some callback →
    ∃ inv ∈ live ++ current.toList, inv.requestId = requestId ∧ inv.stage.ptr? = some callback.ptr

theorem sweepable_started (option : ChannelOption) (workThreadNum : Nat) :
    (started option workThreadNum).Sweepable [] [] none where
  invocations := rfl
  scheduled := nofun
  underway := nofun
  events := rfl
  ordered := .nil
  ids := .nil
  entries requestId callback h := by
    have hnone : (started option workThreadNum).channel.requestCallback[requestId]? = none :=
      ExtTreeMap.getElem?_empty
    rw [hnone] at h
    cases h

section

variable {s : ChannelThreads} {swept live : List Invocation} {current : Option Invocation}
  {inv inv' : Invocation}

theorem Sweepable.unique (h : s.Sweepable swept live current) (hinv : inv ∈ live ++ current.toList)
    (hinv' : inv' ∈ live ++ current.toList) (hid : inv.requestId = inv'.requestId) : inv = inv' :=
  List.inj_on_of_nodup_map h.ids hinv hinv' hid

/-- The invocation that moves on is the current one. -/
theorem Sweepable.at_current (h : s.Sweepable swept live current) {index : Nat}
    (hget : s.invocations[index]? = some inv) (hstage : inv.stage.Underway) :
    current = some inv ∧ ∀ inv', s.invocations.set index inv' = swept ++ live ++ [inv'] := by
  rw [h.invocations] at hget ⊢
  have hge : (swept ++ live).length ≤ index := by
    by_contra hlt
    rw [List.getElem?_append_left (Nat.lt_of_not_le hlt)] at hget
    obtain ⟨now, ptr, hnow⟩ := h.scheduled inv (List.mem_of_getElem? hget)
    exact hstage.not_scheduled ptr now hnow
  rw [List.getElem?_append_right hge] at hget
  cases current with
  | none => cases hget
  | some last =>
    rw [Option.toList_some, List.getElem?_singleton] at hget
    split at hget
    · next hindex =>
      refine ⟨hget, fun inv' => ?_⟩
      rw [List.set_append_right _ _ hge, hindex]
      rfl
    · cases hget

/-- Completions let entries go. -/
theorem Sweepable.completes (h : s.Sweepable swept live current) {s' : ChannelThreads}
    (hcompletes : s.channel.Completes s'.channel) (hinvocations : s'.invocations = s.invocations) :
    s'.Sweepable swept live current where
  invocations := hinvocations.trans h.invocations
  scheduled := h.scheduled
  underway inv hinv := by rw [hcompletes.requestId]; exact h.underway inv hinv
  events := by rw [hcompletes.events, hcompletes.option]; exact h.events
  ordered := by rw [hcompletes.events]; exact h.ordered
  ids := h.ids
  entries key callback hentry := h.entries key callback (hcompletes.entries key callback hentry)

/-! ## The sweep of such a state -/

theorem Sweepable.pendingOf_eq (h : s.Sweepable swept live current) (hinv : inv ∈ live ++ current.toList) :
    s.pendingOf inv = s.channel.requestCallback[inv.requestId]? := by
  rw [pendingOf]
  cases hentry : s.channel.requestCallback[inv.requestId]? with
  | none => rfl
  | some callback =>
    obtain ⟨inv', hinv', hid, hptr⟩ := h.entries _ callback hentry
    obtain rfl := h.unique hinv' hinv hid
    rw [Option.filter_some, if_pos (decide_eq_true hptr)]

/-- A request whose event was swept is not pending. -/
theorem Sweepable.pendingOf_swept (h : s.Sweepable swept live current) (hassigned : s.Assigned)
    (hinv : inv ∈ swept) : s.pendingOf inv = none := by
  by_contra hne
  obtain ⟨callback, hpending⟩ := Option.ne_none_iff_exists'.mp hne
  obtain ⟨hentry, hptr⟩ := Option.filter_eq_some_iff.mp hpending
  obtain ⟨inv', hinv', -, hptr'⟩ := h.entries _ callback hentry
  -- two invocations at different places have different callbacks
  obtain ⟨i, hi⟩ := List.mem_iff_getElem?.mp hinv
  obtain ⟨j, hj⟩ := List.mem_iff_getElem?.mp hinv'
  have hlt : i < swept.length := (List.getElem?_eq_some_iff.mp hi).1
  have hi' : s.invocations[i]? = some inv := by
    rw [h.invocations, List.append_assoc, List.getElem?_append_left hlt, hi]
  have hj' : s.invocations[swept.length + j]? = some inv' := by
    rw [h.invocations, List.append_assoc, List.getElem?_append_right (by omega), Nat.add_sub_cancel_left, hj]
  have hindex := hassigned.distinct i (swept.length + j) inv inv' callback.ptr hi' hj'
    (of_decide_eq_true hptr) hptr'
  omega

omit inv' current in
/-- An event is due when its request is. -/
theorem event_filter (curTime : Int) (inv : Invocation) :
    (inv.event s.channel.option).filter (RequestTimeoutEvent.due curTime)
        = (if s.dueAt curTime inv then inv.event s.channel.option else none) ∧
    (inv.event s.channel.option).filter (fun event => !event.due curTime)
        = if !s.dueAt curTime inv then inv.event s.channel.option else none := by
  rw [Invocation.event, dueAt]
  cases inv.deadline s.channel.option with
  | none => exact ⟨rfl, rfl⟩
  | some timeout => exact ⟨rfl, rfl⟩

theorem Sweepable.event_eq (h : s.Sweepable swept live current) (hinv : inv ∈ live) :
    ∃ timeout, inv.event s.channel.option = some ⟨timeout, inv.requestId⟩ := by
  obtain ⟨now, ptr, hstage⟩ := h.scheduled inv (List.mem_append_right _ hinv)
  rw [Invocation.event, Invocation.deadline, hstage]
  exact ⟨_, rfl⟩

theorem Sweepable.map_requestId (h : s.Sweepable swept live current) {xs : List Invocation}
    (hxs : ∀ inv ∈ xs, inv ∈ live) :
    (xs.filterMap (Invocation.event s.channel.option)).map RequestTimeoutEvent.requestId
      = xs.map Invocation.requestId := by
  rw [List.map_filterMap, ← List.filterMap_eq_map]
  refine List.filterMap_congr fun inv hinv => ?_
  obtain ⟨timeout, hevent⟩ := h.event_eq (hxs inv hinv)
  rw [hevent]
  rfl

theorem Sweepable.events_dueInOrder (h : s.Sweepable swept live current) (curTime : Int) :
    DueInOrder (RequestTimeoutEvent.due curTime) s.channel.timeoutEvents := by
  refine .of_pairwise h.ordered fun event event' hle hdue => ?_
  rw [RequestTimeoutEvent.due, decide_eq_true_eq] at hdue ⊢
  exact Int.le_trans hle hdue

theorem Sweepable.live_dueInOrder (h : s.Sweepable swept live current) (curTime : Int) :
    DueInOrder (s.dueAt curTime) live := by
  have hevents := h.events_dueInOrder curTime
  rw [h.events, DueInOrder, List.pairwise_filterMap] at hevents
  refine hevents.imp_of_mem fun {inv inv'} hinv hinv' himp hdue => ?_
  obtain ⟨timeout, hevent⟩ := h.event_eq hinv
  obtain ⟨timeout', hevent'⟩ := h.event_eq hinv'
  have hfilter := (event_filter (s := s) curTime inv').1
  rw [hevent', hdue, if_pos rfl, Option.filter_eq_some_iff] at hfilter
  have hdue₀ := himp _ hevent _ hevent' hfilter.2
  by_contra hnot
  have hfilter₀ := (event_filter (s := s) curTime inv).1
  rw [hevent, if_neg hnot, Option.filter_some, if_pos hdue₀] at hfilter₀
  cases hfilter₀

/-- The request that is underway has no deadline yet. -/
theorem Sweepable.not_due (h : s.Sweepable swept live current) (hinv : inv ∈ current) (curTime : Int) :
    s.dueAt curTime inv = false := by
  obtain ⟨-, hstage⟩ := h.underway inv hinv
  rw [dueAt, Invocation.deadline]
  split
  · next hscheduled => exact absurd hscheduled (hstage.not_scheduled _ _)
  · rfl

/-- The live part, cut by the sweep. -/
theorem Sweepable.live_eq (h : s.Sweepable swept live current) (curTime : Int) :
    live = live.filter (s.dueAt curTime) ++ live.filter fun inv => !s.dueAt curTime inv := by
  have hlive := h.live_dueInOrder curTime
  rw [← hlive.takeWhile_eq_filter, ← hlive.dropWhile_eq_filter, List.takeWhile_append_dropWhile]

/-- **What the sweep does to the channel.** -/
theorem Sweepable.clearTimeoutRequest_spec (h : s.Sweepable swept live current) (curTime : Int) :
    (s.channel.clearTimeoutRequest curTime).option = s.channel.option ∧
    (s.channel.clearTimeoutRequest curTime).requestId = s.channel.requestId ∧
    (s.channel.clearTimeoutRequest curTime).timeoutEvents
      = s.channel.timeoutEvents.filter (fun event => !event.due curTime) ∧
    (s.channel.clearTimeoutRequest curTime).alreadyCallbackQueue = s.channel.alreadyCallbackQueue
      ++ ((live.filter (s.dueAt curTime)).filterMap s.pendingOf).map ChannelCallback.timedOut ∧
    ∀ key : RpcRequestId, (s.channel.clearTimeoutRequest curTime).requestCallback[key]?
      = if key ∈ (live.filter (s.dueAt curTime)).map Invocation.requestId then none
        else s.channel.requestCallback[key]? := by
  have hevents := h.events_dueInOrder curTime
  -- the events that go are those of the due part
  have hdue : s.channel.timeoutEvents.filter (RequestTimeoutEvent.due curTime)
      = (live.filter (s.dueAt curTime)).filterMap (Invocation.event s.channel.option) := by
    rw [h.events, List.filter_filterMap, List.filterMap_filter]
    exact List.filterMap_congr fun inv _ => (event_filter curTime inv).1
  have hlive : ∀ inv ∈ live.filter (s.dueAt curTime), inv ∈ live := fun inv hinv => (List.mem_filter.mp hinv).1
  have hids := h.map_requestId hlive
  rw [← hdue] at hids
  have hnodup : ((s.channel.timeoutEvents.filter (RequestTimeoutEvent.due curTime)).map
      RequestTimeoutEvent.requestId).Nodup := by
    rw [hids]
    refine h.ids.sublist (List.Sublist.map _ ?_)
    exact List.filter_sublist.trans (List.sublist_append_left _ _)
  have hqueue : (s.channel.timeoutEvents.filter (RequestTimeoutEvent.due curTime)).filterMap
        (fun event => s.channel.requestCallback[event.requestId]?)
      = (live.filter (s.dueAt curTime)).filterMap s.pendingOf := by
    rw [hdue, List.filterMap_filterMap]
    refine List.filterMap_congr fun inv hinv => ?_
    obtain ⟨timeout, hevent⟩ := h.event_eq (hlive inv hinv)
    rw [hevent, Option.bind_some, h.pendingOf_eq (List.mem_append_left _ (hlive inv hinv))]
  have hdone := s.channel.expireAll_queue _ hnodup
  obtain ⟨hoption, hid, -⟩ := s.channel.expireAll_same
    (s.channel.timeoutEvents.filter (RequestTimeoutEvent.due curTime))
  rw [Channel.clearTimeoutRequest, Channel.clearTimeoutLoop_eq, hevents.takeWhile_eq_filter,
    hevents.dropWhile_eq_filter]
  refine ⟨hoption, hid, rfl, ?_, fun key => ?_⟩
  · rw [← hqueue]
    exact hdone
  · rw [← hids]
    exact s.channel.expireAll_getElem? _ key

/-- The state after the sweep is of the same form. -/
theorem Sweepable.clearTimeout (h : s.Sweepable swept live current) (curTime : Int) :
    Sweepable { s with channel := s.channel.clearTimeoutRequest curTime }
      (swept ++ live.filter (s.dueAt curTime)) (live.filter fun inv => !s.dueAt curTime inv) current := by
  obtain ⟨hoption, hid, hevents, -, hmap⟩ := h.clearTimeoutRequest_spec curTime
  have hlive := h.live_eq curTime
  have hsublist : (live.filter fun inv => !s.dueAt curTime inv).Sublist live := List.filter_sublist
  refine ⟨?_, fun inv hinv => h.scheduled inv ?_, fun inv hinv => ?_, ?_, ?_, ?_, fun key callback hentry => ?_⟩
  · show s.invocations = _
    rw [List.append_assoc swept, ← hlive, h.invocations]
  · rwa [List.append_assoc, ← hlive] at hinv
  · show inv.requestId = (s.channel.clearTimeoutRequest curTime).requestId ∧ _
    rw [hid]
    exact h.underway inv hinv
  · show (s.channel.clearTimeoutRequest curTime).timeoutEvents
      = List.filterMap (Invocation.event (s.channel.clearTimeoutRequest curTime).option) _
    rw [hevents, hoption, h.events, List.filter_filterMap, List.filterMap_filter]
    exact List.filterMap_congr fun inv _ => (event_filter curTime inv).2
  · show (s.channel.clearTimeoutRequest curTime).timeoutEvents.Pairwise _
    rw [hevents]
    exact h.ordered.sublist List.filter_sublist
  · exact h.ids.sublist ((hsublist.append_right _).map _)
  · replace hentry : (s.channel.clearTimeoutRequest curTime).requestCallback[key]? = some callback := hentry
    rw [hmap] at hentry
    split at hentry
    · cases hentry
    · next hnot =>
      obtain ⟨inv, hinv, hkey, hptr⟩ := h.entries key callback hentry
      refine ⟨inv, ?_, hkey, hptr⟩
      rcases List.mem_append.mp hinv with hinv | hinv
      · rw [hlive] at hinv
        rcases List.mem_append.mp hinv with hdue | hlater
        · exact absurd (hkey ▸ List.mem_map_of_mem hdue) hnot
        · exact List.mem_append_left _ hlater
      · exact List.mem_append_right _ hinv

/-- What is due and pending is due and pending in the live part. -/
theorem Sweepable.due_pending (h : s.Sweepable swept live current) (hassigned : s.Assigned) (curTime : Int) :
    (s.invocations.filter (s.dueAt curTime)).filterMap s.pendingOf
      = (live.filter (s.dueAt curTime)).filterMap s.pendingOf := by
  have hswept : (swept.filter (s.dueAt curTime)).filterMap s.pendingOf = [] :=
    List.filterMap_eq_nil_iff.mpr fun inv hinv => h.pendingOf_swept hassigned (List.mem_filter.mp hinv).1
  have hcurrent : current.toList.filter (s.dueAt curTime) = [] := by
    refine List.filter_eq_nil_iff.mpr fun inv hinv => ?_
    rw [h.not_due (Option.mem_toList.mp hinv)]
    exact Bool.false_ne_true
  rw [h.invocations, List.filter_append, List.filter_append, hcurrent, List.append_nil, List.filterMap_append,
    hswept, List.nil_append]

/-- Of the requests that may be pending, the sweep expires those that are due. -/
theorem Sweepable.mem_due_iff (h : s.Sweepable swept live current) (hinv : inv ∈ live ++ current.toList)
    (curTime : Int) : inv.requestId ∈ (live.filter (s.dueAt curTime)).map Invocation.requestId
      ↔ s.dueAt curTime inv = true := by
  constructor
  · intro hmem
    obtain ⟨inv', hinv', heq⟩ := List.mem_map.mp hmem
    obtain ⟨hlive, hdue⟩ := List.mem_filter.mp hinv'
    obtain rfl := h.unique (List.mem_append_left _ hlive) hinv heq
    exact hdue
  · intro hdue
    refine List.mem_map_of_mem (List.mem_filter.mpr ⟨?_, hdue⟩)
    rcases List.mem_append.mp hinv with hlive | hcurrent
    · exact hlive
    · rw [h.not_due (Option.mem_toList.mp hcurrent)] at hdue
      cases hdue

/-- **What waits after the sweep** is what waited before and is not due. -/
theorem Sweepable.pendingOf_clearTimeout (h : s.Sweepable swept live current) (hassigned : s.Assigned)
    (hinv : inv ∈ s.invocations) (curTime : Int) :
    pendingOf { s with channel := s.channel.clearTimeoutRequest curTime } inv
      = if s.dueAt curTime inv then none else s.pendingOf inv := by
  obtain ⟨-, -, -, -, hmap⟩ := h.clearTimeoutRequest_spec curTime
  show ((s.channel.clearTimeoutRequest curTime).requestCallback[inv.requestId]?).filter _ = _
  rw [hmap]
  rw [h.invocations, List.append_assoc] at hinv
  rcases List.mem_append.mp hinv with hinv | hinv
  · -- its event was swept before
    have hnone := h.pendingOf_swept hassigned hinv
    rw [hnone, ite_self]
    split
    · rfl
    · exact hnone
  · by_cases hdue : s.dueAt curTime inv = true
    · rw [if_pos ((h.mem_due_iff hinv curTime).mpr hdue), if_pos hdue]
      rfl
    · rw [if_neg (fun hmem => hdue ((h.mem_due_iff hinv curTime).mp hmem)), if_neg hdue]
      rfl

/-- **One sweep is complete and not early.** -/
theorem Sweepable.sweepsAt (h : s.Sweepable swept live current) (hassigned : s.Assigned) (curTime : Int) :
    SweepsAt curTime s { s with channel := s.channel.clearTimeoutRequest curTime } := by
  obtain ⟨-, -, hevents, hqueue, -⟩ := h.clearTimeoutRequest_spec curTime
  have hentries := (h.clearTimeout curTime).entries
  refine ⟨?_, ⟨_, hqueue, ?_, ?_⟩, fun inv hinv => h.pendingOf_clearTimeout hassigned hinv curTime,
    fun key callback hentry => ?_, rfl, rfl, rfl⟩
  · show (s.channel.clearTimeoutRequest curTime).timeoutEvents = _
    rw [hevents]
    refine List.filter_congr fun event _ => ?_
    rw [RequestTimeoutEvent.due, ← decide_not, decide_eq_decide]
    exact Int.not_le
  · rw [h.due_pending hassigned]
  · intro callback hmem
    obtain ⟨callback', -, rfl⟩ := List.mem_map.mp hmem
    rfl
  · obtain ⟨inv, hinv, rfl, hptr⟩ := hentries key callback hentry
    refine ⟨inv, ?_, rfl, ?_⟩
    · rw [h.invocations, List.append_assoc]
      refine List.mem_append_right _ ?_
      rcases List.mem_append.mp hinv with hlive | hcurrent
      · exact List.mem_append_left _ (List.mem_filter.mp hlive).1
      · exact List.mem_append_right _ hcurrent
    · rw [(h.clearTimeout curTime).pendingOf_eq hinv]
      exact hentry

end

end ChannelThreads

end Frrpc
