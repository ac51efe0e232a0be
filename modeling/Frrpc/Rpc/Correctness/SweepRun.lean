import Frrpc.Rpc.Correctness.Sweep

/-!
# `Rpc.Correctness.SweepRun` — the timeout sweep over whole runs

With one thread that calls, sends that succeed and a clock that does not go back, the events stand in the
order they fall due in every state, so every sweep is complete and never early (`sweep_complete`), as long as
no id comes round again while an event still carries it. Where one does, the old event fails the new request
(`sweep_early`).
-/

namespace Frrpc

open Lib Std

namespace ChannelThreads

section

variable {s : ChannelThreads} {swept live : List Invocation} {current : Option Invocation} {inv : Invocation}

/-! ## Steps -/

/-- The next call takes its id. -/
theorem Sweepable.allocate (h : s.Sweepable swept live current)
    (hall : ∀ inv ∈ s.invocations, ∃ now, Scheduled inv now) {method : MethodCall}
    (hfresh : ∀ event ∈ s.channel.timeoutEvents, event.requestId ≠ s.channel.requestId + 1) :
    Sweepable { s with
      channel := s.channel.allocate
      invocations := s.invocations ++ [⟨method, s.channel.requestId + 1, .allocated⟩] }
      swept live (some ⟨method, s.channel.requestId + 1, .allocated⟩) := by
  have hnone : current = none := by
    refine Option.eq_none_iff_forall_ne_some.mpr fun inv hinv => ?_
    obtain ⟨-, hstage⟩ := h.underway inv hinv
    have hmem : inv ∈ s.invocations := by
      rw [h.invocations, hinv]
      exact List.mem_append_right _ (List.mem_singleton.mpr rfl)
    obtain ⟨now, ptr, hnow⟩ := hall inv hmem
    exact hstage.not_scheduled ptr now hnow
  subst hnone
  obtain ⟨hinvocations, hscheduled, -, hevents, hordered, hids, hentries⟩ := h
  rw [Option.toList_none, List.append_nil] at hinvocations hids
  refine ⟨?_, hscheduled, ?_, hevents, hordered, ?_, fun key callback hentry => ?_⟩
  · show s.invocations ++ _ = _
    rw [hinvocations]
    rfl
  · rintro inv ⟨⟩
    exact ⟨rfl, Or.inl rfl⟩
  · rw [Option.toList_some, List.map_append, List.map_singleton]
    refine List.nodup_append.mpr ⟨hids, List.nodup_singleton _, fun id hid id' hid' heq => ?_⟩
    obtain ⟨inv, hinv, rfl⟩ := List.mem_map.mp hid
    obtain rfl := List.mem_singleton.mp hid'
    obtain ⟨now, ptr, hstage⟩ := hscheduled inv (List.mem_append_right _ hinv)
    -- a live invocation has an event with its id
    refine hfresh ⟨now + s.channel.option.requestTimeout.toInt, inv.requestId⟩ ?_ heq
    rw [hevents, List.mem_filterMap]
    refine ⟨inv, hinv, ?_⟩
    rw [Invocation.event, Invocation.deadline, hstage]
    rfl
  · obtain ⟨inv, hinv, hrest⟩ := hentries key callback hentry
    exact ⟨inv, List.mem_append_left _ (by rwa [Option.toList_none, List.append_nil] at hinv), hrest⟩

/-- The call that is underway moves on, with its callback. -/
theorem Sweepable.advance (h : s.Sweepable swept live (some inv)) {index : Nat}
    (hset : ∀ inv', s.invocations.set index inv' = swept ++ live ++ [inv']) {stage : Stage}
    (hstage : stage.Underway) {channel : Channel} (hoption : channel.option = s.channel.option)
    (hid : channel.requestId = s.channel.requestId)
    (hevents : channel.timeoutEvents = s.channel.timeoutEvents)
    (hentries : ∀ (key : RpcRequestId) callback, channel.requestCallback[key]? = some callback →
      (s.channel.requestCallback[key]? = some callback ∧
        (inv.stage.ptr? = some callback.ptr → stage.ptr? = some callback.ptr)) ∨
      (key = inv.requestId ∧ stage.ptr? = some callback.ptr)) :
    Sweepable ({ s with channel }.setStage index inv stage) swept live (some { inv with stage }) := by
  refine ⟨hset _, h.scheduled, ?_, ?_, ?_, ?_, fun key callback hentry => ?_⟩
  · rintro _ ⟨⟩
    exact ⟨(h.underway inv rfl).1.trans hid.symm, hstage⟩
  · show channel.timeoutEvents = List.filterMap (Invocation.event channel.option) live
    rw [hevents, hoption]
    exact h.events
  · show channel.timeoutEvents.Pairwise _
    rw [hevents]
    exact h.ordered
  · have hids := h.ids
    rw [Option.toList_some, List.map_append] at hids ⊢
    exact hids
  · rcases hentries key callback hentry with ⟨hold, hkeeps⟩ | ⟨rfl, hptr⟩
    · obtain ⟨inv', hinv', hkey, hptr⟩ := h.entries key callback hold
      rcases List.mem_append.mp hinv' with hlive | hcurrent
      · exact ⟨inv', List.mem_append_left _ hlive, hkey, hptr⟩
      · obtain rfl := List.mem_singleton.mp hcurrent
        exact ⟨_, List.mem_append_right _ (List.mem_singleton.mpr rfl), hkey, hkeeps hptr⟩
    · exact ⟨_, List.mem_append_right _ (List.mem_singleton.mpr rfl), rfl, hptr⟩

/-- The call that is underway pushes its event, behind all others. -/
theorem Sweepable.push (h : s.Sweepable swept live (some inv)) {index ptr : Nat}
    (hset : ∀ inv', s.invocations.set index inv' = swept ++ live ++ [inv']) (hstage : inv.stage = .sent ptr)
    {localTimeMs : Int} (hclock : ∀ inv ∈ s.invocations, ∀ now, Scheduled inv now → now ≤ localTimeMs) :
    Sweepable ({ s with channel := s.channel.pushTimeout localTimeMs }.setStage index inv
      (.scheduled ptr localTimeMs)) swept (live ++ [{ inv with stage := .scheduled ptr localTimeMs }]) none := by
  obtain ⟨hid, -⟩ := h.underway inv rfl
  refine ⟨?_, fun inv' hinv' => ?_, nofun, ?_, ?_, ?_, fun key callback hentry => ?_⟩
  · refine (hset _).trans ?_
    simp
  · rw [← List.append_assoc] at hinv'
    rcases List.mem_append.mp hinv' with hold | hnew
    · exact h.scheduled inv' hold
    · obtain rfl := List.mem_singleton.mp hnew
      exact ⟨localTimeMs, ptr, rfl⟩
  · show s.channel.timeoutEvents ++ [_] = _
    rw [h.events, List.filterMap_append, ← hid]
    rfl
  · show (s.channel.timeoutEvents ++ [_]).Pairwise _
    refine List.pairwise_append.mpr ⟨h.ordered, List.pairwise_singleton _ _, ?_⟩
    intro event hevent event' hevent'
    obtain rfl := List.mem_singleton.mp hevent'
    rw [h.events] at hevent
    obtain ⟨inv', hinv', heq⟩ := List.mem_filterMap.mp hevent
    obtain ⟨now, ptr', hnow⟩ := h.scheduled inv' (List.mem_append_right _ hinv')
    have hmem : inv' ∈ s.invocations := by
      rw [h.invocations]
      exact List.mem_append_left _ (List.mem_append_right _ hinv')
    rw [Invocation.event, Invocation.deadline, hnow] at heq
    obtain rfl := Option.some.inj heq
    exact Int.add_le_add_right (hclock inv' hmem now ⟨ptr', hnow⟩) _
  · have hids := h.ids
    rw [Option.toList_none, List.append_nil, List.map_append]
    rw [Option.toList_some, List.map_append] at hids
    exact hids
  · obtain ⟨inv', hinv', hkey, hptr⟩ := h.entries key callback hentry
    rw [Option.toList_none, List.append_nil]
    rcases List.mem_append.mp hinv' with hlive | hcurrent
    · exact ⟨inv', List.mem_append_left _ hlive, hkey, hptr⟩
    · obtain rfl := List.mem_singleton.mp hcurrent
      refine ⟨_, List.mem_append_right _ (List.mem_singleton.mpr rfl), hkey, ?_⟩
      rw [hstage] at hptr
      exact hptr

/-- The insertion is not refused: no other request of the live part has the id. -/
theorem sweepable_insert (h : s.Sweepable swept live current) {s' : ChannelThreads} {index : Nat}
    (hstep : s.insert index = some s') : ∃ current', s'.Sweepable swept live current' := by
  obtain ⟨inv, hget, hstage, hcases⟩ := insert_cases hstep
  obtain ⟨rfl, hset⟩ := h.at_current hget (Or.inl hstage)
  have hmem : inv ∈ live ++ (some inv).toList := List.mem_append_right _ (List.mem_singleton.mpr rfl)
  rcases hcases with ⟨hpending, rfl⟩ | ⟨hnone, rfl⟩
  · obtain ⟨callback, hentry⟩ := Option.ne_none_iff_exists'.mp hpending
    obtain ⟨inv', hinv', hid, hptr⟩ := h.entries _ callback hentry
    obtain rfl := h.unique hinv' hmem hid
    rw [hstage] at hptr
    cases hptr
  · refine ⟨_, h.advance hset (Or.inr ⟨_, Or.inl rfl⟩) rfl rfl rfl fun key callback hentry => ?_⟩
    rw [getElem?_insertIfNew_eq] at hentry
    split at hentry
    · next hnew =>
      obtain rfl := Option.some.inj hentry
      exact Or.inr ⟨hnew.1.symm, rfl⟩
    · refine Or.inl ⟨hentry, fun hptr => ?_⟩
      rw [hstage] at hptr
      cases hptr

end

/-- One thread calls, one call after the other, every call's packet is accepted, and the clock does not go
    back. -/
def IssueStep [Protobuf] [FrNet] (s : ChannelThreads) : Event → Prop
  | .allocate _ => ∀ inv ∈ s.invocations, ∃ now, Scheduled inv now
  | .send index => ∀ inv, s.invocations[index]? = some inv →
      (s.channel.sendRequest inv.method inv.requestId).2 = true
  | .schedule _ localTimeMs => ∀ inv ∈ s.invocations, ∀ now, Scheduled inv now → now ≤ localTimeMs
  | _ => True

/-- No call takes an id that an event still carries. -/
def FreshStep (s : ChannelThreads) : Event → Prop
  | .allocate _ => ∀ event ∈ s.channel.timeoutEvents, event.requestId ≠ s.channel.requestId + 1
  | _ => True

section

variable [Protobuf] [FrNet] {s s' : ChannelThreads} {swept live : List Invocation} {current : Option Invocation}

theorem sweepable_send (h : s.Sweepable swept live current) {index : Nat} (hissue : IssueStep s (.send index))
    (hstep : s.send index = some s') : ∃ current', s'.Sweepable swept live current' := by
  obtain ⟨inv, ptr, rpcNet, hget, hstage, rfl⟩ := send_result hstep
  obtain ⟨rfl, hset⟩ := h.at_current hget (Or.inr ⟨ptr, Or.inl hstage⟩)
  rw [hissue inv hget, if_pos rfl]
  refine ⟨_, h.advance hset (Or.inr ⟨ptr, Or.inr rfl⟩) rfl rfl rfl fun key callback hentry => ?_⟩
  refine Or.inl ⟨hentry, fun hptr => ?_⟩
  rw [hstage] at hptr
  exact hptr

/-- **A step of such a run keeps the order.** -/
theorem sweepable_step {e : Event} (h : s.Sweepable swept live current) (hissue : IssueStep s e)
    (hfresh : FreshStep s e) (hstep : step s e = some s') :
    ∃ swept' live' current', s'.Sweepable swept' live' current' := by
  cases e with
  | allocate method =>
    obtain rfl := Option.some.inj hstep
    rw [ChannelThreads.allocate]
    split
    · exact ⟨swept, live, _, h.allocate hissue hfresh⟩
    · exact ⟨swept, live, current, h⟩
  | insert index => exact ⟨swept, live, sweepable_insert h hstep⟩
  | send index => exact ⟨swept, live, sweepable_send h hissue hstep⟩
  | schedule index localTimeMs =>
    obtain ⟨inv, ptr, hget, hstage, rfl⟩ := pushTimeout_cases hstep
    obtain ⟨rfl, hset⟩ := h.at_current hget (Or.inr ⟨ptr, Or.inr hstage⟩)
    exact ⟨swept, _, none, h.push hset hstage hissue⟩
  | clearTimeout curTime =>
    obtain rfl := Option.some.inj hstep
    exact ⟨_, _, current, h.clearTimeout curTime⟩
  | _ =>
    obtain ⟨hcompletes, hinvocations⟩ := step_completes hstep trivial
    exact ⟨swept, live, current, h.completes hcompletes hinvocations⟩

/-- Every state of such a run has its events in order. -/
theorem sweepable_reachable {option : ChannelOption} {workThreadNum : Nat}
    (hrun : Reaches step (fun s e => IssueStep s e ∧ FreshStep s e) (started option workThreadNum) s) :
    s.Assigned ∧ ∃ swept live current, s.Sweepable swept live current := by
  have hinit : (started option workThreadNum).Assigned ∧ ∃ swept live current,
      (started option workThreadNum).Sweepable swept live current :=
    ⟨assigned_started option workThreadNum, [], [], none, sweepable_started option workThreadNum⟩
  apply hrun.invariant hinit
  rintro s e s' ⟨hissue, hfresh⟩ ⟨hassigned, swept, live, current, h⟩ hstep
  exact ⟨assigned_step hstep hassigned, sweepable_step h hissue hfresh hstep⟩

/-- **The sweep is complete and never early**: in every run with one thread that calls, sends that succeed
    and a clock that does not go back, in which no call takes an id that an event still carries. -/
theorem sweep_complete {option : ChannelOption} {workThreadNum : Nat}
    (hrun : Reaches step (fun s e => IssueStep s e ∧ FreshStep s e) (started option workThreadNum) s)
    {curTime : Int} (hstep : step s (.clearTimeout curTime) = some s') : SweepsAt curTime s s' := by
  obtain ⟨hassigned, swept, live, current, h⟩ := sweepable_reachable hrun
  obtain rfl := Option.some.inj hstep
  exact h.sweepsAt hassigned curTime

end

section

attribute [local instance] networkUp

/-- One call, swept when it is due. -/
theorem sweep_complete_oneCall :
    ∃ s s' : ChannelThreads, step s (.clearTimeout 1005) = some s' ∧
      s'.channel.alreadyCallbackQueue = [⟨0, ⟨false, 1, "request timeout"⟩, none, some 0⟩] ∧
      SweepsAt 1005 s s' := by
  have hallocate : Reaches step (fun s e => IssueStep s e ∧ FreshStep s e) (started ⟨0, 1000⟩ 1) _ :=
    (Reaches.refl _).snoc (show IssueStep _ (.allocate asyncCall) ∧ FreshStep _ (.allocate asyncCall) from
      ⟨nofun, nofun⟩) rfl
  have hinsert := hallocate.snoc (show IssueStep _ (.insert 0) ∧ FreshStep _ (.insert 0) from
    ⟨trivial, trivial⟩) rfl
  have hsend := hinsert.snoc (show IssueStep _ (.send 0) ∧ FreshStep _ (.send 0) from
    ⟨fun inv _ => rfl, trivial⟩) rfl
  have hrun := hsend.snoc (show IssueStep _ (.schedule 0 5) ∧ FreshStep _ (.schedule 0 5) from by
    refine ⟨fun inv hinv now hscheduled => ?_, trivial⟩
    obtain rfl := List.mem_singleton.mp hinv
    obtain ⟨ptr, hstage⟩ := hscheduled
    cases hstage) rfl
  exact ⟨_, _, rfl, by decide, sweep_complete hrun rfl⟩

/-! ## An id that comes round again -/

/-- One more invocation, at this stage, over this channel. -/
def withCall (s : ChannelThreads) (channel : Channel) (stage : Stage) : ChannelThreads :=
  { s with
    channel
    invocations := s.invocations ++ [⟨asyncCall, s.channel.requestId + 1, stage⟩] }

theorem withCall_channel (s : ChannelThreads) (channel : Channel) (stage : Stage) :
    (s.withCall channel stage).channel = channel := rfl

theorem withCall_getElem? (s : ChannelThreads) (channel : Channel) (stage : Stage) :
    (s.withCall channel stage).invocations[s.invocations.length]?
      = some ⟨asyncCall, s.channel.requestId + 1, stage⟩ := List.getElem?_concat_length

theorem withCall_setStage (s : ChannelThreads) (channel channel' : Channel) (stage stage' : Stage) :
    { s.withCall channel stage with channel := channel' }.setStage s.invocations.length
      ⟨asyncCall, s.channel.requestId + 1, stage⟩ stage' = s.withCall channel' stage' := by
  unfold setStage withCall
  dsimp only
  rw [List.set_append_right _ _ (Nat.le_refl _), Nat.sub_self]
  rfl

/-- The channel after one more call, made at `now`. -/
def afterCall (c : Channel) (rpcNet : RpcChannelRoute) (callback : ChannelCallback) (now : Int) : Channel :=
  { c with
    rpcNet
    requestId := c.requestId + 1
    requestCallback := c.requestCallback.insertIfNew (c.requestId + 1) callback
    nextPtr := c.nextPtr + 1
    timeoutEvents := c.timeoutEvents ++ [⟨now + c.option.requestTimeout.toInt, c.requestId + 1⟩] }

/-- One more call, made at `now`, up to its event. -/
theorem exists_call {s : ChannelThreads} (hinit : s.channel.initSuccess = true)
    (hfree : s.channel.requestCallback[s.channel.requestId + 1]? = none) (now : Int)
    (hall : ∀ inv ∈ s.invocations, ∃ before ≤ now, Scheduled inv before) :
    ∃ rpcNet callback, callback.ptr = s.channel.nextPtr ∧ Reaches step IssueStep s
      (s.withCall (afterCall s.channel rpcNet callback now) (.scheduled s.channel.nextPtr now)) := by
  have hadmits : s.channel.admits asyncCall = true := by
    rw [Channel.admits, hinit]
    rfl
  have hallocate : step s (.allocate asyncCall) = some (s.withCall s.channel.allocate .allocated) := by
    rw [step, ChannelThreads.allocate, if_pos hadmits]
    rfl
  have hinsert : ∃ callback, callback.ptr = s.channel.nextPtr ∧
      step (s.withCall s.channel.allocate .allocated) (.insert s.invocations.length)
        = some (s.withCall { s.channel.allocate with
            requestCallback := s.channel.requestCallback.insertIfNew (s.channel.requestId + 1) callback
            nextPtr := s.channel.nextPtr + 1 } (.inserted s.channel.nextPtr)) := by
    rcases s.channel.allocate.insertCallback_cases asyncCall (s.channel.requestId + 1) with ⟨hne, _⟩ | ⟨_, heq⟩
    · exact absurd hfree hne
    · refine ⟨s.channel.allocate.newCallback asyncCall (s.channel.requestId + 1), rfl, ?_⟩
      simp only [step, insert, withCall_getElem?, withCall_channel, heq, withCall_setStage]
      rfl
  obtain ⟨callback, hptr, hinsert⟩ := hinsert
  have hsend : ∃ rpcNet, step (s.withCall { s.channel.allocate with
        requestCallback := s.channel.requestCallback.insertIfNew (s.channel.requestId + 1) callback
        nextPtr := s.channel.nextPtr + 1 } (.inserted s.channel.nextPtr)) (.send s.invocations.length)
      = some (s.withCall { s.channel.allocate with
          rpcNet
          requestCallback := s.channel.requestCallback.insertIfNew (s.channel.requestId + 1) callback
          nextPtr := s.channel.nextPtr + 1 } (.sent s.channel.nextPtr)) := by
    simp only [step, send, withCall_getElem?, withCall_channel, withCall_setStage]
    exact ⟨_, rfl⟩
  obtain ⟨rpcNet, hsend⟩ := hsend
  refine ⟨rpcNet, callback, hptr, ?_⟩
  -- the earlier calls are all scheduled, and not later than `now`
  have hearlier : IssueStep s (.allocate asyncCall) := by
    intro inv hinv
    obtain ⟨before, -, hscheduled⟩ := hall inv hinv
    exact ⟨before, hscheduled⟩
  have hclock : ∀ channel, IssueStep (s.withCall channel (.sent s.channel.nextPtr))
      (.schedule s.invocations.length now) := by
    rintro channel inv hinv now' ⟨ptr, hstage⟩
    rcases List.mem_append.mp hinv with hold | hnew
    · obtain ⟨before, hle, ptr', hbefore⟩ := hall inv hold
      rw [hbefore] at hstage
      cases hstage
      exact hle
    · obtain rfl := List.mem_singleton.mp hnew
      cases hstage
  have hinserted := ((Reaches.refl s).snoc hearlier hallocate).snoc
    (show IssueStep _ (.insert s.invocations.length) from trivial) hinsert
  have hsent := hinserted.snoc (show IssueStep _ (.send s.invocations.length) from fun inv _ => rfl) hsend
  refine hsent.snoc (hclock _) ?_
  simp only [step, pushTimeout, withCall_getElem?, withCall_channel, withCall_setStage]
  rfl

/-- After `n` calls at time 0, each cancelled at once: nothing is pending, and the first event is that of
    the first call. -/
structure Rounds (n : Nat) (s : ChannelThreads) : Prop where
  initSuccess : s.channel.initSuccess = true
  option : s.channel.option = ⟨0, 1000⟩
  requestId : s.channel.requestId = UInt64.ofNat n
  pending : ∀ key : RpcRequestId, s.channel.requestCallback[key]? = none
  scheduled : ∀ inv ∈ s.invocations, Scheduled inv 0
  head : s.channel.timeoutEvents.head? = if n = 0 then none else some ⟨1000, 1⟩

theorem Rounds.started : Rounds 0 (started ⟨0, 1000⟩ 1) :=
  ⟨rfl, rfl, rfl, fun _ => ExtTreeMap.getElem?_empty, nofun, rfl⟩

/-- One more round: a call, and its cancel. -/
theorem Rounds.succ {n : Nat} {s : ChannelThreads} (h : Rounds n s) :
    ∃ s', Reaches step IssueStep s s' ∧ Rounds (n + 1) s' := by
  obtain ⟨rpcNet, callback, -, hrun⟩ := exists_call h.initSuccess (h.pending _) 0
    fun inv hinv => ⟨0, Int.le_refl 0, h.scheduled inv hinv⟩
  have hid : s.channel.requestId + 1 = UInt64.ofNat (n + 1) := by rw [h.requestId, UInt64.ofNat_add]; rfl
  refine ⟨_, hrun.snoc (show IssueStep _ (.cancel (s.channel.requestId + 1)) from trivial) rfl, ?_⟩
  have hmap : ∀ key : RpcRequestId, (afterCall s.channel rpcNet callback 0).requestCallback[key]?
      = if s.channel.requestId + 1 = key then some callback else none := by
    intro key
    show (s.channel.requestCallback.insertIfNew _ _)[key]? = _
    rw [getElem?_insertIfNew_eq, h.pending key]
    simp
  rw [withCall_channel]
  rcases (afterCall s.channel rpcNet callback 0).cancelRequest_cases (s.channel.requestId + 1) with
    ⟨hnone, -⟩ | ⟨_, _, heq⟩
  · rw [hmap, if_pos rfl] at hnone
    cases hnone
  · rw [heq]
    refine ⟨h.initSuccess, h.option, hid, fun key => ?_, fun inv hinv => ?_, ?_⟩
    · by_cases hsame : s.channel.requestId + 1 = key
      · rw [← hsame]
        exact Channel.erase_self _ _
      · exact (Channel.erase_of_ne hsame).trans ((hmap key).trans (if_neg hsame))
    · rcases List.mem_append.mp hinv with hold | hnew
      · exact h.scheduled inv hold
      · obtain rfl := List.mem_singleton.mp hnew
        exact ⟨s.channel.nextPtr, rfl⟩
    · show (s.channel.timeoutEvents ++ [_]).head? = some ⟨1000, 1⟩
      rw [List.head?_append, h.head, h.option, hid]
      split
      · next hzero =>
        subst hzero
        rfl
      · rfl

theorem exists_rounds (n : Nat) : ∃ s, Reaches step IssueStep (started ⟨0, 1000⟩ 1) s ∧ Rounds n s := by
  induction n with
  | zero => exact ⟨_, .refl _, .started⟩
  | succ n ih =>
    obtain ⟨s, hrun, h⟩ := ih
    obtain ⟨s', hrun', h'⟩ := h.succ
    exact ⟨s', hrun.trans hrun', h'⟩

/-- **An old event fails a new request**: after `2 ^ 64` calls at time 0, each cancelled at once, the next
    call has the id of the first one. It is made at time 500 with a timeout of 1000, and the sweep at time 1000
    takes it out. -/
theorem sweep_early : ∃ s s', Reaches step IssueStep (started ⟨0, 1000⟩ 1) s ∧
    step s (.clearTimeout 1000) = some s' ∧
    (∃ inv ∈ s.invocations, Scheduled inv 500 ∧ s.dueAt 1000 inv = false ∧ s.pendingOf inv ≠ none ∧
      s'.pendingOf inv = none) ∧
    ¬ SweepsAt 1000 s s' := by
  obtain ⟨s, hrun, h⟩ := exists_rounds (2 ^ 64)
  have hid : s.channel.requestId + 1 = 1 := by
    rw [h.requestId]
    decide
  obtain ⟨rpcNet, callback, hptr, hcall⟩ := exists_call h.initSuccess (h.pending _) 500
    fun inv hinv => ⟨0, by decide, h.scheduled inv hinv⟩
  obtain ⟨channel, hchannel⟩ : ∃ channel, afterCall s.channel rpcNet callback 500 = channel := ⟨_, rfl⟩
  rw [hchannel] at hcall
  let inv : Invocation := ⟨asyncCall, 1, .scheduled s.channel.nextPtr 500⟩
  have hinv : inv ∈ (s.withCall channel (.scheduled s.channel.nextPtr 500)).invocations := by
    refine List.mem_append_right _ (List.mem_singleton.mpr ?_)
    rw [hid]
  have hentry : channel.requestCallback[(1 : RpcRequestId)]? = some callback := by
    rw [← hchannel]
    show (s.channel.requestCallback.insertIfNew _ _)[_]? = _
    rw [getElem?_insertIfNew_eq, h.pending, if_pos ⟨hid, rfl⟩]
  have hdue : (s.withCall channel (.scheduled s.channel.nextPtr 500)).dueAt 1000 inv = false := by
    show ((inv.deadline channel.option).any (· ≤ (1000 : Int))) = false
    rw [← hchannel]
    show ((inv.deadline s.channel.option).any (· ≤ (1000 : Int))) = false
    rw [h.option]
    rfl
  have hpending : (s.withCall channel (.scheduled s.channel.nextPtr 500)).pendingOf inv = some callback := by
    rw [pendingOf]
    show (channel.requestCallback[(1 : RpcRequestId)]?).filter _ = _
    rw [hentry, Option.filter_some, if_pos]
    rw [decide_eq_true_eq, hptr]
    rfl
  -- the first event is due, and has the id of the new request
  have hgone : (channel.clearTimeoutRequest 1000).requestCallback[(1 : RpcRequestId)]? = none := by
    obtain ⟨events, hevents⟩ : ∃ events, channel.timeoutEvents = ⟨1000, 1⟩ :: events := by
      have hhead := h.head
      rw [if_neg (by decide)] at hhead
      obtain ⟨events, heq⟩ := List.head?_eq_some_iff.mp hhead
      rw [← hchannel]
      exact ⟨events ++ _, by show s.channel.timeoutEvents ++ _ = _; rw [heq]; rfl⟩
    have hdue : RequestTimeoutEvent.due 1000 ⟨1000, 1⟩ = true := by decide
    rw [Channel.clearTimeoutRequest_getElem?, hevents, List.takeWhile_cons_of_pos hdue, if_pos]
    exact List.mem_cons_self
  have hlost : pendingOf { s.withCall channel (.scheduled s.channel.nextPtr 500) with
      channel := channel.clearTimeoutRequest 1000 } inv = none := by
    rw [pendingOf]
    show ((channel.clearTimeoutRequest 1000).requestCallback[(1 : RpcRequestId)]?).filter _ = none
    rw [hgone]
    rfl
  refine ⟨_, _, hrun.trans hcall, rfl, ⟨inv, hinv, ⟨_, rfl⟩, hdue, ?_, hlost⟩, fun hsweeps => ?_⟩
  · rw [hpending]
    exact Option.some_ne_none _
  · have hkept := hsweeps.pending inv hinv
    rw [hdue, hpending] at hkept
    exact Option.some_ne_none _ (hkept.symm.trans hlost)

end

end ChannelThreads

end Frrpc
