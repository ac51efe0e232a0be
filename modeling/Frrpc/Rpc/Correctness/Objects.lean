import Frrpc.Rpc.Correctness.Custody

/-!
# `Rpc.Correctness.Objects` — which callback belongs to which invocation

A callback object keeps its address, its kind and its closure from the moment it is made; a completion only
changes what it reports. `Progress` says what a step other than a call does to the objects and to the
invocations that made them: at most one invocation makes a callback, under the next address.
-/

namespace Frrpc

open Lib Std

/-- The callback of an invocation that has made one and may still use it. -/
def Stage.ptr? : Stage → Option Nat
  | .inserted ptr => some ptr
  | .sent ptr => some ptr
  | .scheduled ptr _ => some ptr
  | .allocated => none
  | .returned => none

namespace Channel

/-- A callback that waits for its response, or was queued. -/
def Holds (c : Channel) (callback : ChannelCallback) : Prop :=
  (∃ requestId : RpcRequestId, c.requestCallback[requestId]? = some callback) ∨
    callback ∈ c.alreadyCallbackQueue

/-- The two hold the same objects. -/
structure Carries (c c' : Channel) : Prop where
  back : ∀ callback', c'.Holds callback' → ∃ callback, c.Holds callback ∧ callback.SameObject callback'
  forth : ∀ callback, c.Holds callback → ∃ callback', c'.Holds callback' ∧ callback.SameObject callback'

theorem Carries.refl (c : Channel) : Carries c c :=
  ⟨fun callback h => ⟨callback, h, .refl callback⟩, fun callback h => ⟨callback, h, .refl callback⟩⟩

theorem Carries.trans {c c' c'' : Channel} (h : Carries c c') (h' : Carries c' c'') : Carries c c'' := by
  constructor
  · intro callback'' hholds
    obtain ⟨callback', hholds', hsame'⟩ := h'.back callback'' hholds
    obtain ⟨callback, hholds, hsame⟩ := h.back callback' hholds'
    exact ⟨callback, hholds, hsame.trans hsame'⟩
  · intro callback hholds
    obtain ⟨callback', hholds', hsame⟩ := h.forth callback hholds
    obtain ⟨callback'', hholds'', hsame'⟩ := h'.forth callback' hholds'
    exact ⟨callback'', hholds'', hsame.trans hsame'⟩

/-- A change of anything else. -/
theorem Carries.of_eq {c c' : Channel} (hmap : c'.requestCallback = c.requestCallback)
    (hqueue : c'.alreadyCallbackQueue = c.alreadyCallbackQueue) : Carries c c' := by
  have hiff : ∀ callback, c'.Holds callback ↔ c.Holds callback := by
    intro callback
    rw [Holds, Holds, hmap, hqueue]
  exact ⟨fun callback h => ⟨callback, (hiff callback).mp h, .refl callback⟩,
    fun callback h => ⟨callback, (hiff callback).mpr h, .refl callback⟩⟩

/-- **A completion moves the object from the map to the queue.** -/
theorem carries_finish {c : Channel} {requestId : RpcRequestId} {callback callback' : ChannelCallback}
    (h : c.requestCallback[requestId]? = some callback) (hsame : callback.SameObject callback') :
    Carries c (c.finish requestId callback') := by
  constructor
  · rintro other (⟨key, hkey⟩ | hqueue)
    · exact ⟨other, Or.inl ⟨key, getElem?_of_erase hkey⟩, .refl other⟩
    · rcases List.mem_append.mp hqueue with hold | hnew
      · exact ⟨other, Or.inr hold, .refl other⟩
      · obtain rfl := List.mem_singleton.mp hnew
        exact ⟨callback, Or.inl ⟨requestId, h⟩, hsame⟩
  · rintro other (⟨key, hkey⟩ | hqueue)
    · by_cases heq : requestId = key
      · subst heq
        obtain rfl := Option.some.inj (h.symm.trans hkey)
        exact ⟨callback', Or.inr (List.mem_append_right _ (List.mem_singleton.mpr rfl)), hsame⟩
      · exact ⟨other, Or.inl ⟨key, (erase_of_ne heq).trans hkey⟩, .refl other⟩
    · exact ⟨other, Or.inr (List.mem_append_left _ hqueue), .refl other⟩

theorem carries_doRequestPacket {c c' : Channel} {package : RpcPacket}
    (h : c.doRequestPacket package = some c') : Carries c c' := by
  rcases doRequestPacket_cases h with ⟨_, rfl⟩ | ⟨callback, callback', hentry, _, hsame, rfl⟩
  · exact .refl _
  · exact carries_finish hentry hsame

theorem carries_expire (c : Channel) (requestId : RpcRequestId) : Carries c (c.expire requestId) := by
  cases h : c.requestCallback[requestId]? with
  | none =>
    rw [expire, h]
    exact .refl c
  | some callback =>
    rw [expire, h]
    exact carries_finish h (callback.sameObject_setFailed _)

theorem carries_clearTimeoutRequest (c : Channel) (curTime : Int) :
    Carries c (c.clearTimeoutRequest curTime) :=
  clearTimeoutRequest_rel (fun _ _ => .of_eq rfl rfl) carries_expire (fun _ _ _ => .trans) c curTime

/-- A cancel drops one object at most. -/
theorem holds_cancel (c : Channel) (requestId : RpcRequestId) (callback : ChannelCallback) :
    ((c.cancelRequest requestId).1.Holds callback → c.Holds callback) ∧
    (c.Holds callback → callback.ptr ∉ c.droppedBy requestId →
      (c.cancelRequest requestId).1.Holds callback) := by
  rcases c.cancelRequest_cases requestId with ⟨_, heq⟩ | ⟨dropped, hentry, heq⟩
  · rw [heq]
    exact ⟨id, fun h _ => h⟩
  · rw [heq]
    constructor
    · rintro (⟨key, hkey⟩ | hqueue)
      · exact Or.inl ⟨key, getElem?_of_erase hkey⟩
      · exact Or.inr hqueue
    · rintro (⟨key, hkey⟩ | hqueue) hkept
      · have hne : requestId ≠ key := by
          rintro rfl
          apply hkept
          rw [droppedBy, hkey]
          exact List.mem_singleton.mpr rfl
        exact Or.inl ⟨key, (erase_of_ne hne).trans hkey⟩
      · exact Or.inr hqueue

/-- **An insertion adds one object.** -/
theorem holds_insert {c : Channel} {requestId : RpcRequestId} (hnone : c.requestCallback[requestId]? = none)
    (new callback : ChannelCallback) :
    ({ c with requestCallback := c.requestCallback.insertIfNew requestId new, nextPtr := c.nextPtr + 1 } :
        Channel).Holds callback ↔ callback = new ∨ c.Holds callback := by
  have hentry : ∀ key : RpcRequestId, (c.requestCallback.insertIfNew requestId new)[key]?
      = if requestId = key ∧ c.requestCallback[key]? = none then some new else c.requestCallback[key]? :=
    getElem?_insertIfNew_eq _ _ _
  constructor
  · rintro (⟨key, hkey⟩ | hqueue)
    · have hkey : (c.requestCallback.insertIfNew requestId new)[key]? = some callback := hkey
      rw [hentry] at hkey
      split at hkey
      · exact Or.inl (Option.some.inj hkey).symm
      · exact Or.inr (Or.inl ⟨key, hkey⟩)
    · exact Or.inr (Or.inr hqueue)
  · rintro (rfl | ⟨key, hkey⟩ | hqueue)
    · exact Or.inl ⟨requestId, (hentry requestId).trans (if_pos ⟨rfl, hnone⟩)⟩
    · have hother : ¬ (requestId = key ∧ c.requestCallback[key]? = none) := by
        rintro ⟨_, hkeyNone⟩
        rw [hkey] at hkeyNone
        cases hkeyNone
      exact Or.inl ⟨key, ((hentry key).trans (if_neg hother)).trans hkey⟩
    · exact Or.inr hqueue

end Channel

namespace ChannelThreads

/-- A callback that is still to be called, or was cancelled or never completes. -/
def Holds (s : ChannelThreads) (callback : ChannelCallback) : Prop :=
  s.channel.Holds callback ∨ ∃ batch ∈ s.batches, callback ∈ batch

/-- **What a step other than a call does** to the invocations and the callbacks: an invocation keeps its
    callback, the one that makes a new one is the only invocation that changes, and no object gets lost
    but the `lost` ones. -/
structure Progress (lost : List Nat) (s s' : ChannelThreads) : Prop where
  called : s'.called = s.called
  scheduled : ∀ (i : Nat) (inv : Invocation) ptr now, s.invocations[i]? = some inv →
    inv.stage = .scheduled ptr now → s'.invocations[i]? = some inv
  ptrs : ∀ (i : Nat) (inv' : Invocation) ptr, s'.invocations[i]? = some inv' → inv'.stage.ptr? = some ptr →
    (∃ inv : Invocation, s.invocations[i]? = some inv ∧ inv.method = inv'.method ∧
      inv.stage.ptr? = some ptr) ∨
    (ptr = s.channel.nextPtr ∧ (∃ inv : Invocation, s.invocations[i]? = some inv ∧ inv.stage = .allocated) ∧
      ∀ j : Nat, j ≠ i → s'.invocations[j]? = s.invocations[j]?)
  objects : ∀ callback', s'.Holds callback' →
    (∃ callback, s.Holds callback ∧ callback.SameObject callback') ∨
    (callback'.ptr = s.channel.nextPtr ∧ ∀ (i : Nat) (inv' : Invocation), s'.invocations[i]? = some inv' →
      inv'.stage.ptr? = some callback'.ptr →
        (∃ inv : Invocation, s.invocations[i]? = some inv ∧ inv.stage.ptr? = some callback'.ptr) ∨
        callback'.cntl.isSync = inv'.method.isSync.getD false)
  retained : ∀ callback, s.Holds callback → callback.ptr ∉ lost →
    ∃ callback', s'.Holds callback' ∧ callback.SameObject callback'
  made : ∀ (i : Nat) (inv' : Invocation) ptr, s'.invocations[i]? = some inv' → inv'.stage.ptr? = some ptr →
    (∃ inv : Invocation, s.invocations[i]? = some inv ∧ inv.stage.ptr? = some ptr) ∨
    ∃ callback', s'.Holds callback' ∧ callback'.ptr = ptr

/-- The objects of the channel and those in the batches. -/
theorem holds_channel {s : ChannelThreads} {channel : Channel} (h : s.channel.Carries channel) :
    (∀ callback', ChannelThreads.Holds { s with channel } callback' →
      ∃ callback, s.Holds callback ∧ callback.SameObject callback') ∧
    ∀ callback, s.Holds callback →
      ∃ callback', ChannelThreads.Holds { s with channel } callback' ∧ callback.SameObject callback' := by
  constructor
  · rintro callback' (hchannel | hbatch)
    · obtain ⟨callback, hholds, hsame⟩ := h.back callback' hchannel
      exact ⟨callback, Or.inl hholds, hsame⟩
    · exact ⟨callback', Or.inr hbatch, .refl callback'⟩
  · rintro callback (hchannel | hbatch)
    · obtain ⟨callback', hholds, hsame⟩ := h.forth callback hchannel
      exact ⟨callback', Or.inl hholds, hsame⟩
    · exact ⟨callback, Or.inr hbatch, .refl callback⟩

/-- A step that leaves the invocations alone. -/
theorem Progress.of_objects {lost : List Nat} {s s' : ChannelThreads} (hcalled : s'.called = s.called)
    (hinvocations : s'.invocations = s.invocations)
    (hback : ∀ callback', s'.Holds callback' → ∃ callback, s.Holds callback ∧ callback.SameObject callback')
    (hforth : ∀ callback, s.Holds callback → callback.ptr ∉ lost →
      ∃ callback', s'.Holds callback' ∧ callback.SameObject callback') : Progress lost s s' where
  called := hcalled
  scheduled i inv ptr now hget _ := by rw [hinvocations]; exact hget
  ptrs i inv' ptr hget hptr := Or.inl ⟨inv', by rw [← hinvocations]; exact hget, rfl, hptr⟩
  objects callback' hholds := Or.inl (hback callback' hholds)
  retained := hforth
  made i inv' ptr hget hptr := Or.inl ⟨inv', by rw [← hinvocations]; exact hget, hptr⟩

/-- A step of the channel alone. -/
theorem Progress.of_carries {s : ChannelThreads} {channel : Channel} (h : s.channel.Carries channel) :
    Progress [] s { s with channel } :=
  .of_objects rfl rfl (holds_channel h).1 fun callback hholds _ => (holds_channel h).2 callback hholds

/-- An invocation that moves on without making a callback. -/
theorem Progress.of_setStage {s : ChannelThreads} {index : Nat} {invocation : Invocation} {stage : Stage}
    (hget : s.invocations[index]? = some invocation)
    (hbefore : ∀ ptr now, invocation.stage ≠ .scheduled ptr now)
    (hkeeps : ∀ ptr, stage.ptr? = some ptr → invocation.stage.ptr? = some ptr) {channel : Channel}
    (hcarries : s.channel.Carries channel) :
    Progress [] s ({ s with channel }.setStage index invocation stage) := by
  have hold : ∀ (i : Nat) (inv' : Invocation) (ptr : Nat),
      (({ s with channel } : ChannelThreads).setStage index invocation stage).invocations[i]? = some inv' →
      inv'.stage.ptr? = some ptr →
      ∃ inv : Invocation, s.invocations[i]? = some inv ∧ inv.method = inv'.method ∧
        inv.stage.ptr? = some ptr := by
    intro i inv' ptr hi hptr
    rw [getElem?_setStage (s := { s with channel }) hget] at hi
    split at hi
    · next heq =>
      obtain rfl := Option.some.inj hi
      exact ⟨invocation, heq ▸ hget, rfl, hkeeps ptr hptr⟩
    · exact ⟨inv', hi, rfl, hptr⟩
  refine ⟨rfl, ?_, ?_, ?_, ?_, ?_⟩
  · intro i inv ptr now hi hstage
    have hne : index ≠ i := by
      rintro rfl
      rw [hget] at hi
      obtain rfl := Option.some.inj hi
      exact hbefore ptr now hstage
    rw [getElem?_setStage (s := { s with channel }) hget, if_neg hne]
    exact hi
  · intro i inv' ptr hi hptr
    exact Or.inl (hold i inv' ptr hi hptr)
  · intro callback' hholds
    exact Or.inl ((holds_channel hcarries).1 callback' hholds)
  · intro callback hholds _
    exact (holds_channel hcarries).2 callback hholds
  · intro i inv' ptr hi hptr
    obtain ⟨inv, hinv, _, hptr'⟩ := hold i inv' ptr hi hptr
    exact Or.inl ⟨inv, hinv, hptr'⟩

theorem progress_insert {s s' : ChannelThreads} {index : Nat} (h : s.insert index = some s') :
    Progress [] s s' := by
  obtain ⟨invocation, hget, hstage, ⟨_, rfl⟩ | ⟨hnone, rfl⟩⟩ := insert_cases h
  · have hbefore : ∀ ptr now, invocation.stage ≠ .scheduled ptr now := by
      intro ptr now
      rw [hstage]
      rintro ⟨⟩
    exact Progress.of_setStage hget hbefore (fun ptr hptr => by cases hptr) (.refl _)
  · let channel : Channel := { s.channel with
      requestCallback := s.channel.requestCallback.insertIfNew invocation.requestId
        (s.channel.newCallback invocation.method invocation.requestId)
      nextPtr := s.channel.nextPtr + 1 }
    have hinvocations := getElem?_setStage (s := { s with channel }) hget (.inserted s.channel.nextPtr)
    have hholds := Channel.holds_insert hnone (s.channel.newCallback invocation.method invocation.requestId)
    refine ⟨rfl, ?_, ?_, ?_, ?_, ?_⟩
    · intro i inv ptr now hi hscheduled
      have hne : index ≠ i := by
        rintro rfl
        rw [hget] at hi
        obtain rfl := Option.some.inj hi
        rw [hstage] at hscheduled
        cases hscheduled
      rw [hinvocations, if_neg hne]
      exact hi
    · intro i inv' ptr hi hptr
      rw [hinvocations] at hi
      split at hi
      · next heq =>
        subst heq
        obtain rfl := Option.some.inj hi
        refine Or.inr ⟨(Option.some.inj hptr).symm, ⟨invocation, hget, hstage⟩, ?_⟩
        intro j hj
        rw [hinvocations, if_neg (Ne.symm hj)]
      · exact Or.inl ⟨inv', hi, rfl, hptr⟩
    · rintro callback' (hchannel | hbatch)
      · rcases (hholds callback').mp hchannel with rfl | hold
        · refine Or.inr ⟨rfl, ?_⟩
          intro i inv' hi hptr
          rw [hinvocations] at hi
          split at hi
          · obtain rfl := Option.some.inj hi
            exact Or.inr rfl
          · exact Or.inl ⟨inv', hi, hptr⟩
        · exact Or.inl ⟨callback', Or.inl hold, .refl _⟩
      · exact Or.inl ⟨callback', Or.inr hbatch, .refl _⟩
    · rintro callback (hchannel | hbatch) _
      · exact ⟨callback, Or.inl ((hholds callback).mpr (Or.inr hchannel)), .refl _⟩
      · exact ⟨callback, Or.inr hbatch, .refl _⟩
    · intro i inv' ptr hi hptr
      rw [hinvocations] at hi
      split at hi
      · obtain rfl := Option.some.inj hi
        exact Or.inr ⟨_, Or.inl ((hholds _).mpr (Or.inl rfl)), Option.some.inj hptr⟩
      · exact Or.inl ⟨inv', hi, hptr⟩

/-- A push makes a callback that belongs to no invocation. -/
theorem progress_registerPacket {s : ChannelThreads} {channel : Channel} {package : RpcPacket}
    (h : s.channel.doRegisterPacket package = some channel) : Progress [] s { s with channel } := by
  rcases Channel.doRegisterPacket_cases h with rfl | ⟨callback, hptr, _, rfl⟩
  · exact .of_carries (.refl _)
  · refine ⟨rfl, fun _ _ _ _ hget _ => hget, fun i inv' ptr hget hptr => Or.inl ⟨inv', hget, rfl, hptr⟩,
      ?_, ?_, fun i inv' ptr hget hptr => Or.inl ⟨inv', hget, hptr⟩⟩
    · rintro callback' ((hmap | hqueue) | hbatch)
      · exact Or.inl ⟨callback', Or.inl (Or.inl hmap), .refl _⟩
      · rcases List.mem_append.mp hqueue with hold | hnew
        · exact Or.inl ⟨callback', Or.inl (Or.inr hold), .refl _⟩
        · obtain rfl := List.mem_singleton.mp hnew
          exact Or.inr ⟨hptr, fun i inv' hi hptr' => Or.inl ⟨inv', hi, hptr'⟩⟩
      · exact Or.inl ⟨callback', Or.inr hbatch, .refl _⟩
    · rintro callback' ((hmap | hqueue) | hbatch) _
      · exact ⟨callback', Or.inl (Or.inl hmap), .refl _⟩
      · exact ⟨callback', Or.inl (Or.inr (List.mem_append_left _ hqueue)), .refl _⟩
      · exact ⟨callback', Or.inr hbatch, .refl _⟩

/-- The objects in the batches, when one batch is replaced. -/
theorem mem_batches_set_iff {batches : List (List ChannelCallback)} {thread : Nat}
    {old batch : List ChannelCallback} (h : batches[thread]? = some old) (callback : ChannelCallback)
    (hnew : callback ∈ batch ∨ callback ∉ old) :
    (∃ b ∈ batches, callback ∈ b) → ∃ b ∈ batches.set thread batch, callback ∈ b := by
  rintro ⟨b, hb, hmem⟩
  obtain ⟨i, hi⟩ := List.mem_iff_getElem?.mp hb
  have hlt := (List.getElem?_eq_some_iff.mp h).1
  by_cases heq : thread = i
  · subst heq
    obtain rfl := Option.some.inj (h.symm.trans hi)
    exact ⟨batch, List.mem_set hlt batch, hnew.resolve_right (fun hnot => hnot hmem)⟩
  · refine ⟨b, List.mem_iff_getElem?.mpr ⟨i, ?_⟩, hmem⟩
    rw [List.getElem?_set_ne heq]
    exact hi

theorem mem_batches_set {batches : List (List ChannelCallback)} {thread : Nat} {batch : List ChannelCallback}
    {callback : ChannelCallback} (h : ∃ b ∈ batches.set thread batch, callback ∈ b) :
    callback ∈ batch ∨ ∃ b ∈ batches, callback ∈ b := by
  obtain ⟨b, hb, hmem⟩ := h
  rcases List.mem_or_eq_of_mem_set hb with hold | rfl
  · exact Or.inr ⟨b, hold, hmem⟩
  · exact Or.inl hmem

theorem progress_pop {s s' : ChannelThreads} {thread dealMsgNumOnce : Nat}
    (h : s.pop thread dealMsgNumOnce = some s') : Progress [] s s' := by
  obtain ⟨hempty, batch, queue, hqueue, rfl⟩ := pop_cases h
  refine Progress.of_objects ?_ ?_ ?_ ?_
  · rfl
  · rfl
  · rintro callback' ((hmap | hrest) | hbatch)
    · exact ⟨callback', Or.inl (Or.inl hmap), .refl _⟩
    · refine ⟨callback', Or.inl (Or.inr ?_), .refl _⟩
      rw [hqueue]
      exact List.mem_append_right _ hrest
    · rcases mem_batches_set hbatch with hnew | hold
      · refine ⟨callback', Or.inl (Or.inr ?_), .refl _⟩
        rw [hqueue]
        exact List.mem_append_left _ hnew
      · exact ⟨callback', Or.inr hold, .refl _⟩
  · rintro callback ((hmap | hrest) | hbatch) _
    · exact ⟨callback, Or.inl (Or.inl hmap), .refl _⟩
    · rw [hqueue] at hrest
      rcases List.mem_append.mp hrest with hfront | hback
      · have hlt := (List.getElem?_eq_some_iff.mp hempty).1
        exact ⟨callback, Or.inr ⟨batch, List.mem_set hlt batch, hfront⟩, .refl _⟩
      · exact ⟨callback, Or.inl (Or.inr hback), .refl _⟩
    · exact ⟨callback, Or.inr (mem_batches_set_iff hempty callback (Or.inr List.not_mem_nil) hbatch), .refl _⟩

theorem getElem?_concat_cases {α : Type} {xs : List α} {x y : α} {i : Nat} (h : (xs ++ [x])[i]? = some y) :
    xs[i]? = some y ∨ y = x := by
  rcases Nat.lt_or_ge i xs.length with hlt | hge
  · rw [List.getElem?_append_left hlt] at h
    exact Or.inl h
  · rw [List.getElem?_append_right hge] at h
    exact Or.inr (List.mem_singleton.mp (List.mem_of_getElem? h))

theorem progress_allocate (s : ChannelThreads) (method : MethodCall) : Progress [] s (s.allocate method) := by
  have hall : ∀ callback, s.Holds callback → callback.ptr ∉ ([] : List Nat) →
      ∃ callback', s.Holds callback' ∧ callback.SameObject callback' :=
    fun callback hholds _ => ⟨callback, hholds, .refl _⟩
  unfold allocate
  split
  · have hold : ∀ (i : Nat) (inv' : Invocation) (ptr : Nat),
        (s.invocations ++ [⟨method, s.channel.allocate.requestId, .allocated⟩])[i]? = some inv' →
        inv'.stage.ptr? = some ptr → s.invocations[i]? = some inv' := by
      intro i inv' ptr hget hptr
      rcases getElem?_concat_cases hget with hold | rfl
      · exact hold
      · cases hptr
    refine ⟨rfl, ?_, ?_, fun callback' hholds => Or.inl ⟨callback', hholds, .refl _⟩, hall, ?_⟩
    · intro i inv ptr now hget _
      show (s.invocations ++ _)[i]? = some inv
      rw [List.getElem?_append_left (List.getElem?_eq_some_iff.mp hget).1]
      exact hget
    · intro i inv' ptr hget hptr
      exact Or.inl ⟨inv', hold i inv' ptr hget hptr, rfl, hptr⟩
    · intro i inv' ptr hget hptr
      exact Or.inl ⟨inv', hold i inv' ptr hget hptr, hptr⟩
  · exact .of_objects rfl rfl (fun callback' hholds => ⟨callback', hholds, .refl _⟩) hall

/-- **A call takes its callback out of its batch**, and every other object stays. -/
theorem holds_call {s s' : ChannelThreads} {thread : Nat} {called : ChannelCallback}
    {batch : List ChannelCallback} (hget : s.batches[thread]? = some (called :: batch))
    (h : s.call thread = some s') (callback : ChannelCallback) :
    (s'.Holds callback → s.Holds callback) ∧ (s.Holds callback → callback = called ∨ s'.Holds callback) := by
  obtain ⟨called', batch', hget', rfl⟩ := call_cases h
  obtain ⟨rfl, rfl⟩ := List.cons.inj (Option.some.inj (hget.symm.trans hget'))
  constructor
  · rintro (hchannel | hbatch)
    · exact Or.inl hchannel
    · rcases mem_batches_set hbatch with hnew | hold
      · exact Or.inr ⟨_, List.mem_of_getElem? hget, List.mem_cons_of_mem called hnew⟩
      · exact Or.inr hold
  · rintro (hchannel | hbatch)
    · exact Or.inr (Or.inl hchannel)
    · by_cases heq : callback = called
      · exact Or.inl heq
      · refine Or.inr (Or.inr (mem_batches_set_iff hget callback ?_ hbatch))
        by_cases hmem : callback ∈ batch
        · exact Or.inl hmem
        · exact Or.inr (fun hcons => (List.mem_cons.mp hcons).elim heq hmem)

/-- What a step other than a call may lose. -/
def lostBy (s : ChannelThreads) : Event → List Nat
  | .cancel requestId => s.channel.droppedBy requestId
  | _ => []

/-- **A step is a call or makes progress.** -/
theorem step_progress [Protobuf] [FrNet] {s s' : ChannelThreads} {e : Event} (h : step s e = some s')
    (hcall : ∀ thread, e ≠ .call thread) : Progress (s.lostBy e) s s' := by
  cases e with
  | allocate method =>
    obtain rfl := Option.some.inj h
    exact progress_allocate s method
  | insert index => exact progress_insert h
  | send index =>
    obtain ⟨invocation, ptr, rpcNet, stage, hget, hstage, hnext, rfl⟩ := send_cases h
    apply Progress.of_setStage hget
    · intro ptr now
      rw [hstage]
      rintro ⟨⟩
    · rintro ptr' hptr'
      rcases hnext with rfl | rfl
      · rw [hstage]
        exact hptr'
      · cases hptr'
    · exact .of_eq rfl rfl
  | schedule index localTimeMs =>
    obtain ⟨invocation, ptr, hget, hstage, rfl⟩ := pushTimeout_cases h
    apply Progress.of_setStage hget
    · intro ptr now
      rw [hstage]
      rintro ⟨⟩
    · rintro ptr' hptr'
      rw [hstage]
      exact hptr'
    · exact .of_eq rfl rfl
  | requestPacket package =>
    obtain ⟨channel, hpacket, rfl⟩ := Option.map_eq_some_iff.mp h
    exact .of_carries (Channel.carries_doRequestPacket hpacket)
  | registerPacket package =>
    obtain ⟨channel, hpacket, rfl⟩ := Option.map_eq_some_iff.mp h
    exact progress_registerPacket hpacket
  | clearTimeout curTime =>
    obtain rfl := Option.some.inj h
    exact .of_carries (s.channel.carries_clearTimeoutRequest curTime)
  | cancel requestId =>
    obtain rfl := Option.some.inj h
    refine Progress.of_objects ?_ ?_ ?_ ?_
    · rfl
    · rfl
    · rintro callback' (hchannel | hbatch)
      · exact ⟨callback', Or.inl ((s.channel.holds_cancel requestId callback').1 hchannel), .refl _⟩
      · exact ⟨callback', Or.inr hbatch, .refl _⟩
    · rintro callback (hchannel | hbatch) hkept
      · exact ⟨callback, Or.inl ((s.channel.holds_cancel requestId callback).2 hchannel hkept), .refl _⟩
      · exact ⟨callback, Or.inr hbatch, .refl _⟩
  | registerCallback callbackKey info =>
    obtain ⟨channel, hregister, rfl⟩ := Option.map_eq_some_iff.mp h
    obtain ⟨_, rfl⟩ := Channel.registerCallbackInfo_cases hregister
    exact .of_carries (.of_eq rfl rfl)
  | pop thread dealMsgNumOnce => exact progress_pop h
  | call thread => exact absurd rfl (hcall thread)

/-! ## Whose callback it is -/

/-- Every callback is at one place and belongs to one invocation at most, which is of its kind. -/
structure Assigned (s : ChannelThreads) : Prop where
  owned : s.Owned
  drawn : ∀ (i : Nat) (inv : Invocation) ptr, s.invocations[i]? = some inv → inv.stage.ptr? = some ptr →
    ptr < s.channel.nextPtr
  distinct : ∀ (i j : Nat) (inv inv' : Invocation) ptr, s.invocations[i]? = some inv →
    s.invocations[j]? = some inv' → inv.stage.ptr? = some ptr → inv'.stage.ptr? = some ptr → i = j
  kind : ∀ callback, s.Holds callback → ∀ (i : Nat) (inv : Invocation), s.invocations[i]? = some inv →
    inv.stage.ptr? = some callback.ptr → callback.cntl.isSync = inv.method.isSync.getD false

theorem Holds.mem_tokens {s : ChannelThreads} {callback : ChannelCallback} (h : s.Holds callback) :
    callback.ptr ∈ s.tokens := by
  rw [tokens]
  rcases h with (⟨requestId, hentry⟩ | hqueue) | ⟨batch, hbatch, hmem⟩
  · apply List.mem_append_left
    apply List.mem_append_left
    exact List.mem_map_of_mem (mem_vals.mpr ⟨requestId, hentry⟩)
  · apply List.mem_append_left
    apply List.mem_append_right
    exact List.mem_map_of_mem hqueue
  · apply List.mem_append_right
    apply List.mem_map_of_mem
    exact List.mem_append_left _ (List.mem_flatten.mpr ⟨batch, hbatch, hmem⟩)

theorem mem_tokens_of_called {s : ChannelThreads} {callback : ChannelCallback} (h : callback ∈ s.called) :
    callback.ptr ∈ s.tokens := by
  rw [tokens]
  apply List.mem_append_right
  apply List.mem_map_of_mem
  exact List.mem_append_right _ h

/-- The address of an object has been drawn. -/
theorem Holds.drawn {s : ChannelThreads} (howned : s.Owned) {callback : ChannelCallback}
    (h : s.Holds callback) : callback.ptr < s.channel.nextPtr := howned.drawn _ h.mem_tokens

/-- A new callback draws its address. -/
theorem Progress.drawn {lost : List Nat} {s s' : ChannelThreads} (h : Progress lost s s')
    (hassigned : s.Assigned) (howned : s'.Owned) (hnext : s.channel.nextPtr ≤ s'.channel.nextPtr)
    {i : Nat} {inv' : Invocation} {ptr : Nat} (hget : s'.invocations[i]? = some inv')
    (hptr : inv'.stage.ptr? = some ptr) : ptr < s'.channel.nextPtr := by
  rcases h.made i inv' ptr hget hptr with ⟨inv, hinv, hold⟩ | ⟨callback', hholds, rfl⟩
  · exact Nat.lt_of_lt_of_le (hassigned.drawn i inv ptr hinv hold) hnext
  · exact hholds.drawn howned

theorem Progress.distinct {lost : List Nat} {s s' : ChannelThreads} (h : Progress lost s s')
    (hassigned : s.Assigned) {i j : Nat} {inv inv' : Invocation} {ptr : Nat}
    (hi : s'.invocations[i]? = some inv) (hj : s'.invocations[j]? = some inv')
    (hptr : inv.stage.ptr? = some ptr) (hptr' : inv'.stage.ptr? = some ptr) : i = j := by
  rcases h.ptrs i inv ptr hi hptr with ⟨old, hold, _, hinv⟩ | ⟨rfl, _, hothers⟩
  · rcases h.ptrs j inv' ptr hj hptr' with ⟨old', hold', _, hinv'⟩ | ⟨rfl, _, _⟩
    · exact hassigned.distinct i j old old' ptr hold hold' hinv hinv'
    · -- the next address belongs to nobody yet
      exact absurd (hassigned.drawn i old _ hold hinv) (Nat.lt_irrefl _)
  · by_contra hne
    rw [hothers j (Ne.symm hne)] at hj
    exact Nat.lt_irrefl _ (hassigned.drawn j inv' _ hj hptr')

theorem Progress.kind {lost : List Nat} {s s' : ChannelThreads} (h : Progress lost s s')
    (hassigned : s.Assigned) {callback' : ChannelCallback} (hholds : s'.Holds callback') {i : Nat}
    {inv' : Invocation} (hget : s'.invocations[i]? = some inv')
    (hptr : inv'.stage.ptr? = some callback'.ptr) :
    callback'.cntl.isSync = inv'.method.isSync.getD false := by
  rcases h.objects callback' hholds with ⟨callback, hold, hsame⟩ | ⟨hnext, hnew⟩
  · rw [hsame.ptr] at hptr
    rcases h.ptrs i inv' callback.ptr hget hptr with ⟨inv, hinv, hmethod, hptr⟩ | ⟨hnext, _, _⟩
    · rw [hsame.isSync, ← hmethod]
      exact hassigned.kind callback hold i inv hinv hptr
    · exact absurd (hold.drawn hassigned.owned) (hnext ▸ Nat.lt_irrefl _)
  · rcases hnew i inv' hget hptr with ⟨inv, hinv, hptr'⟩ | hkind
    · exact absurd (hassigned.drawn i inv _ hinv hptr') (hnext ▸ Nat.lt_irrefl _)
    · exact hkind

/-- **Every step keeps it.** -/
theorem assigned_step [Protobuf] [FrNet] {s s' : ChannelThreads} {e : Event} (h : step s e = some s')
    (hassigned : s.Assigned) : s'.Assigned := by
  have htokens := (step_tokens h).tokens
  have howned : s'.Owned := htokens.linear hassigned.owned
  by_cases hcall : ∃ thread, e = .call thread
  · obtain ⟨thread, rfl⟩ := hcall
    obtain ⟨callback, batch, hget, rfl⟩ := call_cases h
    refine ⟨howned, hassigned.drawn, hassigned.distinct, ?_⟩
    intro other hholds
    exact hassigned.kind other ((holds_call hget h other).1 hholds)
  · have hprogress := step_progress h (fun thread heq => hcall ⟨thread, heq⟩)
    refine ⟨howned, ?_, ?_, ?_⟩
    · intro i inv' ptr hget hptr
      exact hprogress.drawn hassigned howned htokens.next_le hget hptr
    · intro i j inv inv' ptr hi hj hptr hptr'
      exact hprogress.distinct hassigned hi hj hptr hptr'
    · intro callback' hholds i inv' hget hptr
      exact hprogress.kind hassigned hholds hget hptr

theorem assigned_started (option : ChannelOption) (workThreadNum : Nat) :
    (started option workThreadNum).Assigned := by
  have hnone : ∀ (i : Nat) (inv : Invocation),
      (started option workThreadNum).invocations[i]? ≠ some inv := by
    intro i inv hget
    cases hget
  refine ⟨owned_started option workThreadNum, ?_, ?_, ?_⟩
  · intro i inv ptr hget
    exact absurd hget (hnone i inv)
  · intro i j inv inv' ptr hget
    exact absurd hget (hnone i inv)
  · intro callback _ i inv hget
    exact absurd hget (hnone i inv)

end ChannelThreads

end Frrpc
