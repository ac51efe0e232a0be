import Frrpc.Lib.TreeMap
import Frrpc.Rpc.Machine

/-!
# `Rpc.Correctness.Threads` — what each step of a channel's threads does

One lemma a step, guards included. The invariants of the threads are proved from these.
-/

namespace Frrpc

open Lib Std

namespace ChannelCallback

/-- The same object: a completion only changes what it reports. -/
structure SameObject (callback callback' : ChannelCallback) : Prop where
  ptr : callback'.ptr = callback.ptr
  isSync : callback'.cntl.isSync = callback.cntl.isSync
  callback : callback'.callback = callback.callback

theorem SameObject.refl (callback : ChannelCallback) : callback.SameObject callback := ⟨rfl, rfl, rfl⟩

theorem SameObject.trans {callback callback' callback'' : ChannelCallback}
    (h : callback.SameObject callback') (h' : callback'.SameObject callback'') :
    callback.SameObject callback'' :=
  ⟨h'.ptr.trans h.ptr, h'.isSync.trans h.isSync, h'.callback.trans h.callback⟩

theorem sameObject_setFailed (callback : ChannelCallback) (reason : String) :
    callback.SameObject (callback.setFailed reason) := ⟨rfl, rfl, rfl⟩

end ChannelCallback

namespace Channel

theorem contains_iff (c : Channel) (requestId : RpcRequestId) :
    c.requestCallback.contains requestId = true ↔ c.requestCallback[requestId]? ≠ none := by
  rw [← ExtTreeMap.isSome_getElem?_eq_contains, Option.isSome_iff_ne_none]

/-- The callback that an invocation makes. -/
def newCallback (c : Channel) (method : MethodCall) (requestId : RpcRequestId) : ChannelCallback :=
  ⟨c.nextPtr, ⟨method.isSync.getD false, requestId, ""⟩, none, method.done⟩

/-- An insertion draws the next address, under an id that is not pending. -/
theorem insertCallback_cases (c : Channel) (method : MethodCall) (requestId : RpcRequestId) :
    (c.requestCallback[requestId]? ≠ none ∧ c.insertCallback method requestId = none) ∨
    (c.requestCallback[requestId]? = none ∧
      c.insertCallback method requestId = some { c with
        requestCallback := c.requestCallback.insertIfNew requestId (c.newCallback method requestId)
        nextPtr := c.nextPtr + 1 }) := by
  by_cases h : c.requestCallback.contains requestId = true
  · exact Or.inl ⟨(c.contains_iff requestId).mp h, if_pos h⟩
  · exact Or.inr ⟨not_not.mp fun hne => h ((c.contains_iff requestId).mpr hne), if_neg h⟩

/-- **A cancel drops the entry**, if there is one. -/
theorem cancelRequest_cases (c : Channel) (requestId : RpcRequestId) :
    (c.requestCallback[requestId]? = none ∧ c.cancelRequest requestId = (c, false)) ∨
    ∃ callback, c.requestCallback[requestId]? = some callback ∧ c.cancelRequest requestId
      = ({ c with requestCallback := c.requestCallback.erase requestId }, true) := by
  by_cases h : c.requestCallback.contains requestId = true
  · obtain ⟨callback, hentry⟩ := Option.ne_none_iff_exists'.mp ((c.contains_iff requestId).mp h)
    exact Or.inr ⟨callback, hentry, if_pos h⟩
  · exact Or.inl ⟨not_not.mp fun hne => h ((c.contains_iff requestId).mpr hne), if_neg h⟩

/-- A push draws the next address too, and goes to the queue. -/
theorem doRegisterPacket_cases {c c' : Channel} {package : RpcPacket}
    (h : c.doRegisterPacket package = some c') :
    c' = c ∨ ∃ callback : ChannelCallback, callback.ptr = c.nextPtr ∧ callback.cntl.isSync = false ∧
      c' = { c with
        alreadyCallbackQueue := c.alreadyCallbackQueue ++ [callback]
        nextPtr := c.nextPtr + 1 } := by
  unfold doRegisterPacket at h
  split at h
  · exact Or.inl (Option.some.inj h).symm
  · obtain ⟨binary, _, heq⟩ := Option.bind_eq_some_iff.mp h
    exact Or.inr ⟨_, rfl, rfl, (Option.some.inj heq).symm⟩

/-- Registering a callback changes nothing but the registered callbacks. -/
theorem registerCallbackInfo_cases {c c' : Channel} {callbackKey : String} {info : CallbackInfo}
    (h : c.registerCallbackInfo callbackKey info = some c') :
    ∃ registerCallback, c' = { c with registerCallback } := by
  unfold registerCallbackInfo at h
  split at h
  · exact ⟨c.registerCallback, (Option.some.inj h).symm⟩
  · split at h
    · cases h
    · exact ⟨_, (Option.some.inj h).symm⟩

end Channel

namespace ChannelThreads

/-- Only one invocation moves on. -/
theorem getElem?_setStage {s : ChannelThreads} {index : Nat} {invocation : Invocation}
    (h : s.invocations[index]? = some invocation) (stage : Stage) (i : Nat) :
    (s.setStage index invocation stage).invocations[i]?
      = if index = i then some { invocation with stage } else s.invocations[i]? := by
  show (s.invocations.set index { invocation with stage })[i]? = _
  rw [List.getElem?_set]
  split
  · next heq =>
    rw [if_pos]
    exact (List.getElem?_eq_some_iff.mp h).1
  · rfl

theorem insert_cases {s s' : ChannelThreads} {index : Nat} (h : s.insert index = some s') :
    ∃ invocation, s.invocations[index]? = some invocation ∧ invocation.stage = .allocated ∧
      ((s.channel.requestCallback[invocation.requestId]? ≠ none ∧
        s' = s.setStage index invocation .returned) ∨
      (s.channel.requestCallback[invocation.requestId]? = none ∧
        s' = { s with channel := { s.channel with
            requestCallback := s.channel.requestCallback.insertIfNew invocation.requestId
              (s.channel.newCallback invocation.method invocation.requestId)
            nextPtr := s.channel.nextPtr + 1 } }.setStage index invocation
          (.inserted s.channel.nextPtr))) := by
  unfold insert at h
  split at h
  · next method requestId hget =>
    refine ⟨_, hget, rfl, ?_⟩
    rcases s.channel.insertCallback_cases method requestId with ⟨hne, heq⟩ | ⟨hnone, heq⟩
    · rw [heq] at h
      exact Or.inl ⟨hne, (Option.some.inj h).symm⟩
    · rw [heq] at h
      exact Or.inr ⟨hnone, (Option.some.inj h).symm⟩
  · cases h

theorem pushTimeout_cases {s s' : ChannelThreads} {index : Nat} {localTimeMs : Int}
    (h : s.pushTimeout index localTimeMs = some s') :
    ∃ invocation ptr, s.invocations[index]? = some invocation ∧ invocation.stage = .sent ptr ∧
      s' = { s with channel := s.channel.pushTimeout localTimeMs }.setStage index invocation
        (.scheduled ptr localTimeMs) := by
  unfold pushTimeout at h
  split at h
  · next hget => exact ⟨_, _, hget, rfl, (Option.some.inj h).symm⟩
  · cases h

/-- A batch is the front of the queue. -/
theorem pop_cases {s s' : ChannelThreads} {thread dealMsgNumOnce : Nat}
    (h : s.pop thread dealMsgNumOnce = some s') :
    s.batches[thread]? = some [] ∧ ∃ batch queue, s.channel.alreadyCallbackQueue = batch ++ queue ∧
      s' = { s with
        channel := { s.channel with alreadyCallbackQueue := queue }
        batches := s.batches.set thread batch } := by
  unfold pop at h
  split at h
  · next hget =>
    exact ⟨hget, _, _, (List.take_append_drop dealMsgNumOnce _).symm, (Option.some.inj h).symm⟩
  · cases h

theorem call_cases {s s' : ChannelThreads} {thread : Nat} (h : s.call thread = some s') :
    ∃ callback batch, s.batches[thread]? = some (callback :: batch) ∧
      s' = { s with batches := s.batches.set thread batch, called := s.called ++ [callback] } := by
  unfold call at h
  split at h
  · next callback batch hget => exact ⟨callback, batch, hget, (Option.some.inj h).symm⟩
  · cases h

/-- A send changes the network client, and its result decides whether the invocation goes on. -/
theorem send_result [Protobuf] [FrNet] {s s' : ChannelThreads} {index : Nat}
    (h : s.send index = some s') :
    ∃ invocation ptr rpcNet, s.invocations[index]? = some invocation ∧ invocation.stage = .inserted ptr ∧
      s' = { s with channel := { s.channel with rpcNet } }.setStage index invocation
        (if (s.channel.sendRequest invocation.method invocation.requestId).2 then .sent ptr
          else .returned) := by
  unfold send at h
  split at h
  · next hget => exact ⟨_, _, _, hget, rfl, (Option.some.inj h).symm⟩
  · cases h

/-- A send changes the network client only. -/
theorem send_cases [Protobuf] [FrNet] {s s' : ChannelThreads} {index : Nat}
    (h : s.send index = some s') :
    ∃ invocation ptr rpcNet stage, s.invocations[index]? = some invocation ∧
      invocation.stage = .inserted ptr ∧ (stage = .sent ptr ∨ stage = .returned) ∧
      s' = { s with channel := { s.channel with rpcNet } }.setStage index invocation stage := by
  obtain ⟨invocation, ptr, rpcNet, hget, hstage, heq⟩ := send_result h
  refine ⟨invocation, ptr, rpcNet, _, hget, hstage, ?_, heq⟩
  split
  · exact Or.inl rfl
  · exact Or.inr rfl

end ChannelThreads

end Frrpc
