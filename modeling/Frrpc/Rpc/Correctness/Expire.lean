import Frrpc.Rpc.Correctness.Request

/-!
# `Rpc.Correctness.Expire` — what a timeout sweep does to a channel

The sweep expires the events from the front for as long as they are due (`clearTimeoutLoop_eq`), and each
expiry fails the entry of its id. What holds of a sweep is proved of such a list of expiries.
-/

namespace Frrpc

open Lib Std

/-- The sweep at `curTime` does not stop at this event. -/
def RequestTimeoutEvent.due (curTime : Int) (event : RequestTimeoutEvent) : Bool := event.timeout ≤ curTime

/-- What the sweep makes of a callback. -/
abbrev ChannelCallback.timedOut (callback : ChannelCallback) : ChannelCallback :=
  callback.setFailed "request timeout"

namespace Channel

/-! ## One sweep -/

/-- Expiring events one after the other. -/
def expireAll (c : Channel) (events : List RequestTimeoutEvent) : Channel :=
  events.foldl (fun c event => c.expire event.requestId) c

/-- **The sweep expires what is due from the front.** -/
theorem clearTimeoutLoop_eq (curTime : Int) (events : List RequestTimeoutEvent) (c : Channel) :
    clearTimeoutLoop curTime events c
      = { c.expireAll (events.takeWhile (RequestTimeoutEvent.due curTime)) with
        timeoutEvents := events.dropWhile (RequestTimeoutEvent.due curTime) } := by
  induction events generalizing c with
  | nil => rfl
  | cons event events ih =>
    unfold clearTimeoutLoop
    split
    · next hlater =>
      have hdue : ¬ event.due curTime = true := by
        rw [RequestTimeoutEvent.due, decide_eq_true_eq]
        omega
      rw [List.takeWhile_cons_of_neg hdue, List.dropWhile_cons_of_neg hdue]
      rfl
    · next hnow =>
      have hdue : event.due curTime = true := by
        rw [RequestTimeoutEvent.due, decide_eq_true_eq]
        omega
      rw [List.takeWhile_cons_of_pos hdue, List.dropWhile_cons_of_pos hdue, ih]
      rfl

/-- **The sweep rule**: a relation that composes holds across a sweep if it holds across each expiry, and
    whatever becomes of the events. -/
theorem clearTimeoutRequest_rel {R : Channel → Channel → Prop}
    (hevents : ∀ c timeoutEvents, R c { c with timeoutEvents })
    (hexpire : ∀ c requestId, R c (c.expire requestId))
    (htrans : ∀ c c' c'', R c c' → R c' c'' → R c c'') (c : Channel) (curTime : Int) :
    R c (c.clearTimeoutRequest curTime) := by
  have hloop : ∀ events c, R c (clearTimeoutLoop curTime events c) := by
    intro events
    induction events with
    | nil => exact fun c => hevents c []
    | cons event events ih =>
      intro c
      unfold clearTimeoutLoop
      split
      · exact hevents c (event :: events)
      · exact htrans _ _ _ (hexpire c event.requestId) (ih _)
  exact hloop c.timeoutEvents c

/-- An expiry fails the entry of its id, if it is there. -/
theorem expire_eq (c : Channel) (requestId : RpcRequestId) :
    (c.expire requestId).option = c.option ∧ (c.expire requestId).requestId = c.requestId ∧
    (c.expire requestId).nextPtr = c.nextPtr ∧
    (c.expire requestId).alreadyCallbackQueue = c.alreadyCallbackQueue
      ++ c.requestCallback[requestId]?.toList.map ChannelCallback.timedOut ∧
    ∀ key : RpcRequestId, (c.expire requestId).requestCallback[key]?
      = if requestId = key then none else c.requestCallback[key]? := by
  cases h : c.requestCallback[requestId]? with
  | none =>
    have hexpire : c.expire requestId = c := by rw [expire, h]
    rw [hexpire]
    refine ⟨rfl, rfl, rfl, (List.append_nil _).symm, fun key => ?_⟩
    split
    · next hkey => rw [← hkey, h]
    · rfl
  | some callback =>
    have hexpire : c.expire requestId = c.finish requestId callback.timedOut := by rw [expire, h]
    rw [hexpire]
    refine ⟨rfl, rfl, rfl, rfl, fun key => ?_⟩
    split
    · next hkey => rw [← hkey]; exact erase_self c requestId
    · next hne => exact erase_of_ne hne

/-- Expiring events takes the entries of their ids out. -/
theorem expireAll_getElem? (c : Channel) (events : List RequestTimeoutEvent) (key : RpcRequestId) :
    (c.expireAll events).requestCallback[key]?
      = if key ∈ events.map RequestTimeoutEvent.requestId then none else c.requestCallback[key]? := by
  induction events generalizing c with
  | nil => simp [expireAll]
  | cons event events ih =>
    obtain ⟨-, -, -, -, hmap⟩ := c.expire_eq event.requestId
    rw [expireAll, List.foldl_cons, ← expireAll, ih, hmap, List.map_cons]
    by_cases hkey : event.requestId = key
    · simp [hkey]
    · simp [hkey, Ne.symm hkey]

/-- Expiring events leaves everything else alone. -/
theorem expireAll_same (c : Channel) (events : List RequestTimeoutEvent) :
    (c.expireAll events).option = c.option ∧ (c.expireAll events).requestId = c.requestId ∧
    (c.expireAll events).nextPtr = c.nextPtr := by
  induction events generalizing c with
  | nil => exact ⟨rfl, rfl, rfl⟩
  | cons event events ih =>
    obtain ⟨hoption, hid, hptr, -, -⟩ := c.expire_eq event.requestId
    obtain ⟨hoption', hid', hptr'⟩ := ih (c.expire event.requestId)
    exact ⟨hoption'.trans hoption, hid'.trans hid, hptr'.trans hptr⟩

/-- **Expiring events with different ids** queues their entries, in the order of the events. -/
theorem expireAll_queue (c : Channel) (events : List RequestTimeoutEvent)
    (hids : (events.map RequestTimeoutEvent.requestId).Nodup) :
    (c.expireAll events).alreadyCallbackQueue = c.alreadyCallbackQueue
      ++ (events.filterMap fun event => c.requestCallback[event.requestId]?).map ChannelCallback.timedOut := by
  induction events generalizing c with
  | nil => exact (List.append_nil _).symm
  | cons event events ih =>
    obtain ⟨hfresh, hids⟩ := List.nodup_cons.mp hids
    obtain ⟨-, -, -, hqueue, hmap⟩ := c.expire_eq event.requestId
    -- the later events have other ids, so their entries are still what they were
    have hothers : events.filterMap (fun e => (c.expire event.requestId).requestCallback[e.requestId]?)
        = events.filterMap fun e => c.requestCallback[e.requestId]? := by
      refine List.filterMap_congr fun e he => ?_
      rw [hmap, if_neg]
      intro heq
      exact hfresh (heq ▸ List.mem_map_of_mem he)
    rw [expireAll, List.foldl_cons, ← expireAll, ih (c.expire event.requestId) hids, hqueue, hothers,
      List.filterMap_cons]
    cases c.requestCallback[event.requestId]? with
    | none => simp
    | some callback => simp

/-- What was queued stays queued. -/
theorem queue_subset_expireAll (c : Channel) (events : List RequestTimeoutEvent) :
    c.alreadyCallbackQueue ⊆ (c.expireAll events).alreadyCallbackQueue := by
  induction events generalizing c with
  | nil => exact fun _ h => h
  | cons event events ih =>
    obtain ⟨-, -, -, hqueue, -⟩ := c.expire_eq event.requestId
    intro callback h
    apply ih (c.expire event.requestId)
    rw [hqueue]
    exact List.mem_append_left _ h

/-- An expired entry is queued as failed. -/
theorem timedOut_mem_expireAll {c : Channel} {events : List RequestTimeoutEvent} {key : RpcRequestId}
    {callback : ChannelCallback} (hkey : key ∈ events.map RequestTimeoutEvent.requestId)
    (hentry : c.requestCallback[key]? = some callback) :
    callback.timedOut ∈ (c.expireAll events).alreadyCallbackQueue := by
  induction events generalizing c with
  | nil => cases hkey
  | cons event events ih =>
    obtain ⟨-, -, -, hqueue, hmap⟩ := c.expire_eq event.requestId
    by_cases hfirst : event.requestId = key
    · apply queue_subset_expireAll (c.expire event.requestId) events
      rw [hqueue, hfirst, hentry]
      exact List.mem_append_right _ (List.mem_singleton.mpr rfl)
    · have hrest := (List.mem_cons.mp hkey).resolve_left (Ne.symm hfirst)
      exact ih hrest (by rw [hmap, if_neg hfirst, hentry])

/-- **What a sweep leaves in the map.** -/
theorem clearTimeoutRequest_getElem? (c : Channel) (curTime : Int) (key : RpcRequestId) :
    (c.clearTimeoutRequest curTime).requestCallback[key]?
      = if key ∈ (c.timeoutEvents.takeWhile (RequestTimeoutEvent.due curTime)).map
          RequestTimeoutEvent.requestId then none
        else c.requestCallback[key]? := by
  rw [clearTimeoutRequest, clearTimeoutLoop_eq]
  exact c.expireAll_getElem? _ key

end Channel

end Frrpc
