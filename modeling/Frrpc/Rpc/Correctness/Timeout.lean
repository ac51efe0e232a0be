import Frrpc.Rpc.Correctness.Expire
import Frrpc.Rpc.Correctness.Threads

/-!
# `Rpc.Correctness.Timeout` — every pending request has its timeout event

`CallMethod` pushes an event with the member `request_id_`, read at that moment. As long as no other
invocation takes an id between an invocation's own id and its push, every event carries the id of the
invocation that pushed it (`Timed`), so a scheduled request keeps its event until its entry is gone, and no
event of another request shortens its timeout (`timeouts_cover`). With another invocation in between, both
fail (`timeouts_not_cover`). Of the threads that do not call, all that matters is that they let entries go and
leave the events alone (`step_completes`).
-/

namespace Frrpc

open Lib Std

namespace Channel

/-- What completions and sweeps may do: entries go, and an event goes only with its entry. -/
structure Settles (c c' : Channel) : Prop where
  option : c'.option = c.option
  requestId : c'.requestId = c.requestId
  entries : ∀ key : RpcRequestId, c'.requestCallback[key]? ≠ none → c.requestCallback[key]? ≠ none
  events : ∀ e ∈ c'.timeoutEvents, e ∈ c.timeoutEvents
  dropped : ∀ e ∈ c.timeoutEvents, c'.requestCallback[e.requestId]? ≠ none → e ∈ c'.timeoutEvents

/-- **The sweep drops an event only together with its entry.** -/
theorem settles_clearTimeoutRequest (c : Channel) (curTime : Int) :
    Settles c (c.clearTimeoutRequest curTime) := by
  have hsame := c.expireAll_same (c.timeoutEvents.takeWhile (RequestTimeoutEvent.due curTime))
  have hevents : (c.clearTimeoutRequest curTime).timeoutEvents
      = c.timeoutEvents.dropWhile (RequestTimeoutEvent.due curTime) := by
    rw [clearTimeoutRequest, clearTimeoutLoop_eq]
  refine ⟨?_, ?_, fun key hkey => ?_, fun e he => ?_, fun e he hkey => ?_⟩
  · rw [clearTimeoutRequest, clearTimeoutLoop_eq]
    exact hsame.1
  · rw [clearTimeoutRequest, clearTimeoutLoop_eq]
    exact hsame.2.1
  · rw [clearTimeoutRequest_getElem?] at hkey
    split at hkey
    · exact absurd rfl hkey
    · exact hkey
  · rw [hevents] at he
    exact List.dropWhile_subset _ he
  · rw [hevents]
    rw [← List.takeWhile_append_dropWhile (p := RequestTimeoutEvent.due curTime) (l := c.timeoutEvents)] at he
    rcases List.mem_append.mp he with hswept | hleft
    · -- the event is dropped, and so is its entry
      rw [clearTimeoutRequest_getElem?, if_pos (List.mem_map_of_mem hswept)] at hkey
      exact absurd rfl hkey
    · exact hleft

/-- What packets, cancels and registrations may do: entries go, and the events stay. -/
structure Completes (c c' : Channel) : Prop where
  option : c'.option = c.option
  requestId : c'.requestId = c.requestId
  nextPtr : c.nextPtr ≤ c'.nextPtr
  entries : ∀ (key : RpcRequestId) callback, c'.requestCallback[key]? = some callback →
    c.requestCallback[key]? = some callback
  events : c'.timeoutEvents = c.timeoutEvents

theorem Completes.of_eq {c c' : Channel} (hoption : c'.option = c.option) (hid : c'.requestId = c.requestId)
    (hnext : c.nextPtr ≤ c'.nextPtr) (hmap : c'.requestCallback = c.requestCallback)
    (hevents : c'.timeoutEvents = c.timeoutEvents) : Completes c c' :=
  ⟨hoption, hid, hnext, fun key callback h => by rwa [hmap] at h, hevents⟩

theorem Completes.refl (c : Channel) : Completes c c := .of_eq rfl rfl (Nat.le_refl _) rfl rfl

theorem completes_doRequestPacket {c c' : Channel} {package : RpcPacket}
    (h : c.doRequestPacket package = some c') : Completes c c' := by
  rcases doRequestPacket_cases h with ⟨_, rfl⟩ | ⟨_, _, _, _, _, rfl⟩
  · exact .refl _
  · exact ⟨rfl, rfl, Nat.le_refl _, fun _ _ => getElem?_of_erase, rfl⟩

theorem completes_doRegisterPacket {c c' : Channel} {package : RpcPacket}
    (h : c.doRegisterPacket package = some c') : Completes c c' := by
  rcases doRegisterPacket_cases h with rfl | ⟨_, _, _, rfl⟩
  · exact .refl _
  · exact .of_eq rfl rfl (Nat.le_succ _) rfl rfl

theorem completes_cancelRequest (c : Channel) (requestId : RpcRequestId) :
    Completes c (c.cancelRequest requestId).1 := by
  rcases c.cancelRequest_cases requestId with ⟨_, heq⟩ | ⟨_, _, heq⟩
  · rw [heq]
    exact .refl _
  · rw [heq]
    exact ⟨rfl, rfl, Nat.le_refl _, fun _ _ => getElem?_of_erase, rfl⟩

theorem Completes.settles {c c' : Channel} (h : Completes c c') : Settles c c' := by
  refine ⟨h.option, h.requestId, fun key hkey => ?_, fun e he => ?_, fun e he _ => ?_⟩
  · obtain ⟨callback, hentry⟩ := Option.ne_none_iff_exists'.mp hkey
    rw [h.entries key callback hentry]
    exact Option.some_ne_none _
  · rwa [h.events] at he
  · rwa [h.events]

end Channel

namespace ChannelThreads

/-- An invocation that has pushed its event. -/
def Scheduled (invocation : Invocation) (localTimeMs : Int) : Prop :=
  ∃ ptr, invocation.stage = .scheduled ptr localTimeMs

/-- Every scheduled request that is pending has its event, and every event was pushed for its own id. -/
structure Timed (s : ChannelThreads) (option : ChannelOption) : Prop where
  option_eq : s.channel.option = option
  requestId : s.channel.requestId.toNat = s.invocations.length
  ids : ∀ i inv, s.invocations[i]? = some inv → inv.requestId.toNat = i + 1
  covered : ∀ inv ∈ s.invocations, ∀ now, Scheduled inv now →
    s.channel.requestCallback[inv.requestId]? ≠ none →
      ∃ e ∈ s.channel.timeoutEvents, e.requestId = inv.requestId
  pushed : ∀ e ∈ s.channel.timeoutEvents, ∃ inv ∈ s.invocations, ∃ now, Scheduled inv now ∧
    inv.requestId = e.requestId ∧ e.timeout = now + option.requestTimeout.toInt

theorem timed_started (option : ChannelOption) (workThreadNum : Nat) :
    (started option workThreadNum).Timed option where
  option_eq := rfl
  requestId := rfl
  ids i inv h := by cases h
  covered inv h := by cases h
  pushed e h := by cases h

/-- Ids are not given twice. -/
theorem Timed.unique {s : ChannelThreads} {option : ChannelOption} (h : s.Timed option)
    {inv inv' : Invocation} (hinv : inv ∈ s.invocations) (hinv' : inv' ∈ s.invocations)
    (hid : inv.requestId = inv'.requestId) : inv = inv' := by
  obtain ⟨i, hi⟩ := List.mem_iff_getElem?.mp hinv
  obtain ⟨j, hj⟩ := List.mem_iff_getElem?.mp hinv'
  have hindex : i = j := by
    have hi' := h.ids i inv hi
    have hj' := h.ids j inv' hj
    rw [hid] at hi'
    omega
  rw [hindex, hj] at hi
  exact (Option.some.inj hi).symm

/-- A change of the channel that keeps the events of pending requests. -/
theorem Timed.of_channel {s : ChannelThreads} {option : ChannelOption} (h : s.Timed option)
    {channel : Channel} (hoption : channel.option = s.channel.option)
    (hid : channel.requestId = s.channel.requestId)
    (hentries : ∀ inv ∈ s.invocations, ∀ now, Scheduled inv now →
      channel.requestCallback[inv.requestId]? ≠ none → s.channel.requestCallback[inv.requestId]? ≠ none)
    (hevents : ∀ e ∈ channel.timeoutEvents, e ∈ s.channel.timeoutEvents)
    (hdropped : ∀ e ∈ s.channel.timeoutEvents, channel.requestCallback[e.requestId]? ≠ none →
      e ∈ channel.timeoutEvents) : Timed { s with channel } option where
  option_eq := hoption.trans h.option_eq
  requestId := (congrArg UInt64.toNat hid).trans h.requestId
  ids := h.ids
  covered inv hinv now hscheduled hkey := by
    obtain ⟨e, he, heid⟩ := h.covered inv hinv now hscheduled (hentries inv hinv now hscheduled hkey)
    exact ⟨e, hdropped e he (by rw [heid]; exact hkey), heid⟩
  pushed e he := h.pushed e (hevents e he)

theorem Timed.settles {s s' : ChannelThreads} {option : ChannelOption} (h : s.Timed option)
    (hsettles : s.channel.Settles s'.channel) (hinvocations : s'.invocations = s.invocations) :
    s'.Timed option := by
  obtain ⟨hoption, hid, hids, hcovered, hpushed⟩ := h.of_channel hsettles.option hsettles.requestId
    (fun inv _ _ _ => hsettles.entries inv.requestId) hsettles.events hsettles.dropped
  constructor
  · exact hoption
  · rw [hinvocations]
    exact hid
  · rw [hinvocations]
    exact hids
  · rw [hinvocations]
    exact hcovered
  · rw [hinvocations]
    exact hpushed

/-! ## Moving an invocation on -/

theorem Timed.ids_setStage {s : ChannelThreads} {option : ChannelOption} (h : s.Timed option) {index : Nat}
    {invocation : Invocation} (hget : s.invocations[index]? = some invocation) (stage : Stage) :
    ∀ i inv, (s.setStage index invocation stage).invocations[i]? = some inv → inv.requestId.toNat = i + 1 := by
  intro i inv hi
  rw [getElem?_setStage hget] at hi
  split at hi
  · next hindex =>
    obtain rfl := Option.some.inj hi
    exact h.ids i invocation (hindex ▸ hget)
  · exact h.ids i inv hi

theorem self_mem_setStage {s : ChannelThreads} {index : Nat} {invocation : Invocation}
    (hget : s.invocations[index]? = some invocation) (stage : Stage) :
    { invocation with stage } ∈ (s.setStage index invocation stage).invocations := by
  apply List.mem_set
  exact (List.getElem?_eq_some_iff.mp hget).1

/-- The other invocations stay as they are. -/
theorem mem_setStage {s : ChannelThreads} {index : Nat} {invocation inv : Invocation}
    (hget : s.invocations[index]? = some invocation) (stage : Stage) (hinv : inv ∈ s.invocations)
    (hne : inv ≠ invocation) : inv ∈ (s.setStage index invocation stage).invocations := by
  obtain ⟨i, hi⟩ := List.mem_iff_getElem?.mp hinv
  have hindex : index ≠ i := by
    rintro rfl
    exact hne (Option.some.inj (hi.symm.trans hget))
  refine List.mem_iff_getElem?.mpr ⟨i, ?_⟩
  rw [getElem?_setStage hget, if_neg hindex]
  exact hi

theorem eq_or_mem_of_mem_setStage {s : ChannelThreads} {index : Nat} {invocation inv : Invocation}
    {stage : Stage} (h : inv ∈ (s.setStage index invocation stage).invocations) :
    inv = { invocation with stage } ∨ inv ∈ s.invocations :=
  (List.mem_or_eq_of_mem_set h).symm

/-- Moving an invocation to a stage before its push, or out, changes nothing for the timeouts. -/
theorem Timed.setStage {s : ChannelThreads} {option : ChannelOption} (h : s.Timed option) {index : Nat}
    {invocation : Invocation} (hget : s.invocations[index]? = some invocation)
    (hbefore : ∀ now, ¬ Scheduled invocation now) {stage : Stage}
    (hafter : ∀ ptr now, stage ≠ .scheduled ptr now) : (s.setStage index invocation stage).Timed option := by
  refine ⟨h.option_eq, ?_, h.ids_setStage hget stage, fun inv hinv now hscheduled hkey => ?_, fun e he => ?_⟩
  · show s.channel.requestId.toNat = (s.invocations.set index _).length
    rw [List.length_set]
    exact h.requestId
  · rcases eq_or_mem_of_mem_setStage hinv with rfl | hold
    · obtain ⟨ptr, hstage⟩ := hscheduled
      exact absurd hstage (hafter ptr now)
    · exact h.covered inv hold now hscheduled hkey
  · obtain ⟨inv, hinv, now, hscheduled, hrest⟩ := h.pushed e he
    -- what has pushed is not what moves
    have hne : inv ≠ invocation := by
      rintro rfl
      exact hbefore now hscheduled
    exact ⟨inv, mem_setStage hget stage hinv hne, now, hscheduled, hrest⟩

/-- **A push covers its own request**, if no other invocation has taken an id since. -/
theorem Timed.push {s : ChannelThreads} {option : ChannelOption} (h : s.Timed option) {index ptr : Nat}
    {invocation : Invocation} (hget : s.invocations[index]? = some invocation)
    (hstage : invocation.stage = .sent ptr) (hlast : invocation.requestId = s.channel.requestId)
    (localTimeMs : Int) :
    Timed ({ s with channel := s.channel.pushTimeout localTimeMs }.setStage index invocation
      (.scheduled ptr localTimeMs)) option := by
  let event : RequestTimeoutEvent := ⟨localTimeMs + option.requestTimeout.toInt, invocation.requestId⟩
  have hevents : (s.channel.pushTimeout localTimeMs).timeoutEvents = s.channel.timeoutEvents ++ [event] := by
    show s.channel.timeoutEvents ++ [⟨localTimeMs + s.channel.option.requestTimeout.toInt, _⟩] = _
    rw [h.option_eq, ← hlast]
  refine ⟨h.option_eq, ?_, h.ids_setStage hget _, fun inv hinv now hscheduled hkey => ?_, fun e he => ?_⟩
  · show s.channel.requestId.toNat = (s.invocations.set index _).length
    rw [List.length_set]
    exact h.requestId
  · show ∃ e ∈ (s.channel.pushTimeout localTimeMs).timeoutEvents, _
    rw [hevents]
    rcases eq_or_mem_of_mem_setStage hinv with rfl | hold
    · exact ⟨event, List.mem_append_right _ (List.mem_singleton.mpr rfl), rfl⟩
    · obtain ⟨e, he, hid⟩ := h.covered inv hold now hscheduled hkey
      exact ⟨e, List.mem_append_left _ he, hid⟩
  · replace he : e ∈ s.channel.timeoutEvents ++ [event] := hevents ▸ he
    rcases List.mem_append.mp he with hold | hnew
    · obtain ⟨inv, hinv, now, hscheduled, hrest⟩ := h.pushed e hold
      have hne : inv ≠ invocation := by
        rintro rfl
        obtain ⟨_, hscheduled⟩ := hscheduled
        rw [hstage] at hscheduled
        cases hscheduled
      exact ⟨inv, mem_setStage hget _ hinv hne, now, hscheduled, hrest⟩
    · obtain rfl := List.mem_singleton.mp hnew
      exact ⟨_, self_mem_setStage hget (.scheduled ptr localTimeMs), localTimeMs, ⟨ptr, rfl⟩, rfl, rfl⟩

/-! ## Steps -/

/-- The condition: an invocation pushes its event before another one takes an id, and ids do not run
    out. -/
def ScheduleStep (s : ChannelThreads) : Event → Prop
  | .allocate _ => s.invocations.length + 1 < 2 ^ 64
  | .schedule index _ => ∀ invocation, s.invocations[index]? = some invocation →
      invocation.requestId = s.channel.requestId
  | _ => True

theorem timed_allocate {s : ChannelThreads} {option : ChannelOption} (h : s.Timed option)
    (method : MethodCall) (hroom : s.invocations.length + 1 < 2 ^ 64) :
    (s.allocate method).Timed option := by
  rw [allocate]
  split
  · have hnext : (s.channel.requestId + 1).toNat = s.invocations.length + 1 := by
      rw [UInt64.toNat_add, h.requestId]
      exact Nat.mod_eq_of_lt hroom
    refine ⟨h.option_eq, ?_, fun i inv hi => ?_, fun inv hinv now hscheduled hkey => ?_, fun e he => ?_⟩
    · show (s.channel.requestId + 1).toNat = (s.invocations ++ [_]).length
      rw [List.length_append, hnext]
      rfl
    · rcases Nat.lt_or_ge i s.invocations.length with hlt | hge
      · rw [List.getElem?_append_left hlt] at hi
        exact h.ids i inv hi
      · rw [List.getElem?_append_right hge, List.getElem?_singleton] at hi
        split at hi
        · next hlast =>
          obtain rfl := Option.some.inj hi
          show (s.channel.requestId + 1).toNat = i + 1
          omega
        · cases hi
    · rcases List.mem_append.mp hinv with hold | hnew
      · exact h.covered inv hold now hscheduled hkey
      · obtain rfl := List.mem_singleton.mp hnew
        obtain ⟨_, hstage⟩ := hscheduled
        cases hstage
    · obtain ⟨inv, hinv, hrest⟩ := h.pushed e he
      exact ⟨inv, List.mem_append_left _ hinv, hrest⟩
  · exact h

/-- An insertion is under an id that no pushed event has. -/
theorem timed_insert {s s' : ChannelThreads} {option : ChannelOption} {index : Nat} (h : s.Timed option)
    (hstep : s.insert index = some s') : s'.Timed option := by
  obtain ⟨invocation, hget, hstage, hcases⟩ := insert_cases hstep
  have hbefore : ∀ now, ¬ Scheduled invocation now := by
    rintro now ⟨ptr, hscheduled⟩
    rw [hstage] at hscheduled
    cases hscheduled
  rcases hcases with ⟨_, rfl⟩ | ⟨_, rfl⟩
  · exact h.setStage hget hbefore (by rintro _ _ ⟨⟩)
  · have hinserted : Timed { s with channel := { s.channel with
        requestCallback := s.channel.requestCallback.insertIfNew invocation.requestId
          (s.channel.newCallback invocation.method invocation.requestId)
        nextPtr := s.channel.nextPtr + 1 } } option := by
      refine h.of_channel rfl rfl (fun inv hinv now hscheduled hkey => ?_) (fun _ he => he) (fun _ he _ => he)
      -- ids are unique, so the new entry is not that of a scheduled invocation
      have hne : invocation.requestId ≠ inv.requestId := by
        intro hid
        obtain rfl := h.unique (List.mem_of_getElem? hget) hinv hid
        exact hbefore now hscheduled
      rw [getElem?_insertIfNew_eq, if_neg (fun hc => hne hc.1)] at hkey
      exact hkey
    exact hinserted.setStage hget hbefore (by rintro _ _ ⟨⟩)

section

variable [Protobuf] [FrNet]

/-- A step of a thread that does not call, but for a sweep. -/
def Completing : Event → Prop
  | .allocate _ | .insert _ | .send _ | .schedule _ _ | .clearTimeout _ => False
  | _ => True

/-- **Such a step completes entries at most.** -/
theorem step_completes {s s' : ChannelThreads} {e : Event} (h : step s e = some s') (he : Completing e) :
    s.channel.Completes s'.channel ∧ s'.invocations = s.invocations := by
  cases e with
  | allocate | insert | send | schedule | clearTimeout => cases he
  | requestPacket package =>
    obtain ⟨channel, hpacket, rfl⟩ := Option.map_eq_some_iff.mp h
    exact ⟨Channel.completes_doRequestPacket hpacket, rfl⟩
  | registerPacket package =>
    obtain ⟨channel, hpacket, rfl⟩ := Option.map_eq_some_iff.mp h
    exact ⟨Channel.completes_doRegisterPacket hpacket, rfl⟩
  | cancel requestId =>
    obtain rfl := Option.some.inj h
    exact ⟨s.channel.completes_cancelRequest requestId, rfl⟩
  | registerCallback callbackKey info =>
    obtain ⟨channel, hregister, rfl⟩ := Option.map_eq_some_iff.mp h
    obtain ⟨_, rfl⟩ := Channel.registerCallbackInfo_cases hregister
    exact ⟨.of_eq rfl rfl (Nat.le_refl _) rfl rfl, rfl⟩
  | pop thread dealMsgNumOnce =>
    obtain ⟨_, _, _, _, rfl⟩ := pop_cases h
    exact ⟨.of_eq rfl rfl (Nat.le_refl _) rfl rfl, rfl⟩
  | call thread =>
    obtain ⟨_, _, _, rfl⟩ := call_cases h
    exact ⟨.refl _, rfl⟩

/-- **A step that meets the condition keeps every timeout.** -/
theorem timed_step {s s' : ChannelThreads} {option : ChannelOption} {e : Event} (h : s.Timed option)
    (hok : ScheduleStep s e) (hstep : step s e = some s') : s'.Timed option := by
  cases e with
  | allocate method =>
    obtain rfl := Option.some.inj hstep
    exact timed_allocate h method hok
  | insert index => exact timed_insert h hstep
  | send index =>
    obtain ⟨invocation, ptr, rpcNet, stage, hget, hstage, hnext, rfl⟩ := send_cases hstep
    have hcompletes : s.channel.Completes { s.channel with rpcNet } :=
      .of_eq rfl rfl (Nat.le_refl _) rfl rfl
    have htimed : Timed { s with channel := { s.channel with rpcNet } } option :=
      h.settles hcompletes.settles rfl
    apply htimed.setStage hget
    · rintro now ⟨ptr, hscheduled⟩
      rw [hstage] at hscheduled
      cases hscheduled
    · rintro ptr now rfl
      rcases hnext with hc | hc
      · cases hc
      · cases hc
  | schedule index localTimeMs =>
    obtain ⟨invocation, ptr, hget, hstage, rfl⟩ := pushTimeout_cases hstep
    exact h.push hget hstage (hok invocation hget) localTimeMs
  | clearTimeout curTime =>
    obtain rfl := Option.some.inj hstep
    exact h.settles (s.channel.settles_clearTimeoutRequest curTime) rfl
  | _ =>
    obtain ⟨hcompletes, hinvocations⟩ := step_completes hstep trivial
    exact h.settles hcompletes.settles hinvocations

/-! ## Runs -/

theorem timed_reachable {option : ChannelOption} {workThreadNum : Nat} {s : ChannelThreads}
    (hrun : Reaches step ScheduleStep (started option workThreadNum) s) : s.Timed option := by
  apply hrun.invariant (timed_started option workThreadNum)
  intro s e s' hok htimed hstep
  exact timed_step htimed hok hstep

/-- **Every pending request is covered by its own timeout** in a run in which each invocation pushes its
    event before another one takes an id: while the entry of a scheduled request is pending there is an event
    with its id, and no event with its id is due before the time of its push plus the request timeout. -/
theorem timeouts_cover {option : ChannelOption} {workThreadNum : Nat} {s : ChannelThreads}
    (hrun : Reaches step ScheduleStep (started option workThreadNum) s) :
    ∀ invocation ∈ s.invocations, ∀ localTimeMs, Scheduled invocation localTimeMs →
      (s.channel.requestCallback[invocation.requestId]? ≠ none →
        ∃ e ∈ s.channel.timeoutEvents, e.requestId = invocation.requestId) ∧
      ∀ e ∈ s.channel.timeoutEvents, e.requestId = invocation.requestId →
        localTimeMs + option.requestTimeout.toInt ≤ e.timeout := by
  have htimed := timed_reachable hrun
  intro invocation hinv localTimeMs hscheduled
  refine ⟨htimed.covered invocation hinv localTimeMs hscheduled, fun e he hid => ?_⟩
  obtain ⟨inv, hinv', now, ⟨ptr, hnow⟩, hpushed, hdue⟩ := htimed.pushed e he
  -- the event was pushed by the same invocation, at the same time
  obtain rfl := htimed.unique hinv hinv' (hid.symm.trans hpushed.symm)
  obtain ⟨ptr', hlocal⟩ := hscheduled
  rw [hnow] at hlocal
  cases hlocal
  exact Int.le_of_eq hdue.symm

end

section

attribute [local instance] networkUp

/-- A single call is covered. -/
theorem timeouts_cover_oneCall :
    ∃ s : ChannelThreads, s.invocations = [⟨asyncCall, 1, .scheduled 0 5⟩] ∧
      s.channel.requestCallback[(1 : RpcRequestId)]? ≠ none ∧
      (∃ e ∈ s.channel.timeoutEvents, e.requestId = 1) ∧
      ∀ e ∈ s.channel.timeoutEvents, e.requestId = 1 → 5 + (1000 : Int32).toInt ≤ e.timeout := by
  have hallocate : Reaches step ScheduleStep (started ⟨0, 1000⟩ 1) _ :=
    (Reaches.refl _).snoc (show ScheduleStep _ (.allocate asyncCall) from Nat.one_lt_two_pow (by decide)) rfl
  have hinsert := hallocate.snoc (show ScheduleStep _ (.insert 0) from trivial) rfl
  have hsend := hinsert.snoc (show ScheduleStep _ (.send 0) from trivial) rfl
  have hrun := hsend.snoc (show ScheduleStep _ (.schedule 0 5) from fun invocation hget => by
    obtain rfl := Option.some.inj (show some _ = some invocation from hget)
    rfl) rfl
  have hpending : (ExtTreeMap.insertIfNew (∅ : ExtTreeMap RpcRequestId ChannelCallback) 1
      ⟨0, ⟨false, 1, ""⟩, none, some 0⟩)[(1 : RpcRequestId)]? ≠ none := by
    decide
  obtain ⟨hcovered, hdue⟩ := timeouts_cover hrun _ (List.mem_singleton.mpr rfl) 5 ⟨0, rfl⟩
  exact ⟨_, rfl, hpending, hcovered hpending, hdue⟩

/-- Two calls at once: both take their ids before the first one pushes its event. -/
def concurrentCalls : List Event :=
  [.allocate asyncCall, .allocate asyncCall, .insert 0, .insert 1, .send 0, .send 1, .schedule 0 0,
    .schedule 1 5]

/-- **The first request of two has no event, the second one an event that is due too early.** -/
theorem timeouts_not_cover :
    ∃ s, exec step (started ⟨0, 1000⟩ 1) concurrentCalls = some s ∧
      s.invocations = [⟨asyncCall, 1, .scheduled 0 0⟩, ⟨asyncCall, 2, .scheduled 1 5⟩] ∧
      (s.channel.requestCallback[(1 : RpcRequestId)]? ≠ none ∧
        ¬ ∃ e ∈ s.channel.timeoutEvents, e.requestId = 1) ∧
      ∃ e ∈ s.channel.timeoutEvents, e.requestId = 2 ∧ ¬ 5 + (1000 : Int32).toInt ≤ e.timeout := by
  have hresult : (exec step (started ⟨0, 1000⟩ 1) concurrentCalls).map (fun s =>
        (s.invocations, s.channel.requestCallback.contains 1, s.channel.timeoutEvents))
      = some ([⟨asyncCall, 1, .scheduled 0 0⟩, ⟨asyncCall, 2, .scheduled 1 5⟩], true,
        [⟨1000, 2⟩, ⟨1005, 2⟩]) := by decide
  obtain ⟨s, hexec, hs⟩ := Option.map_eq_some_iff.mp hresult
  obtain ⟨hinvocations, hrest⟩ := Prod.mk.inj hs
  obtain ⟨hpending, hevents⟩ := Prod.mk.inj hrest
  refine ⟨s, hexec, hinvocations, ⟨(s.channel.contains_iff 1).mp hpending, ?_⟩, ?_⟩
  · rw [hevents]
    decide
  · rw [hevents]
    decide

end

end ChannelThreads

end Frrpc
