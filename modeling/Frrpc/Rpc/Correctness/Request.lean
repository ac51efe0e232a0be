import Frrpc.Lib.TreeMap
import Frrpc.Pb.Wire
import Frrpc.Rpc.Correctness.Threads

/-!
# `Rpc.Correctness.Request` — which request a response completes

`DoRequestPacket` looks its id up through an `int`. What it does is said once (`doRequestPacket_cases`);
that it matches a response to its own request depends on the two keys that the id and the `int` stand for
(`request_matched_iff`). Ids from `2 ^ 31` on lose their replies, and a channel reaches them
(`pending_reachable`, `request_lost`).
-/

namespace Frrpc

open Lib Std

namespace Channel

/-! ## The key -/

theorem toNat_requestKey (requestId : RpcRequestId) :
    (requestKey requestId).toNat = requestId.toNat % 2 ^ 32
      + if 2 ^ 31 ≤ requestId.toNat % 2 ^ 32 then 2 ^ 64 - 2 ^ 32 else 0 := by
  have hbits : (requestKey requestId).toBitVec = (requestId.toBitVec.setWidth 32).signExtend 64 := rfl
  have hmsb : (requestId.toBitVec.setWidth 32).msb = decide (2 ^ 31 ≤ requestId.toNat % 2 ^ 32) := by
    rw [BitVec.msb_eq_decide, BitVec.toNat_setWidth]
    rfl
  rw [← UInt64.toNat_toBitVec, hbits, BitVec.toNat_signExtend, hmsb]
  simp only [BitVec.toNat_setWidth, UInt64.toNat_toBitVec, decide_eq_true_eq]
  split <;> omega

/-- An id that an `int` holds, as a negative number if it is that large. -/
def FitsInt (requestId : RpcRequestId) : Prop :=
  requestId.toNat < 2 ^ 31 ∨ 2 ^ 64 - 2 ^ 31 ≤ requestId.toNat

/-- The key is the id itself if an `int` holds it. -/
theorem requestKey_eq_iff (requestId : RpcRequestId) :
    requestKey requestId = requestId ↔ FitsInt requestId := by
  have hlt := requestId.toNat_lt
  rw [FitsInt, ← UInt64.toNat_inj, toNat_requestKey]
  split <;> omega

/-- The key is the id with the same low half that an `int` holds. -/
theorem eq_requestKey_iff (requestId key : RpcRequestId) :
    key = requestKey requestId ↔ FitsInt key ∧ key.toNat % 2 ^ 32 = requestId.toNat % 2 ^ 32 := by
  have hlt := key.toNat_lt
  rw [FitsInt, ← UInt64.toNat_inj, toNat_requestKey]
  split <;> omega

/-! ## What `DoRequestPacket` does -/

/-- The id a response carries. -/
def responseId (package : RpcPacket) : RpcRequestId := package.rpcMeta.rpcRequestMeta.requestId

/-- A response that reports an error or has a binary to parse. -/
def Answers (package : RpcPacket) : Prop :=
  package.rpcMeta.rpcResponseMeta.error ≠ "" ∨ package.binary ≠ none

theorem doRequestPacket_absent {c : Channel} {package : RpcPacket}
    (h : c.requestCallback[requestKey (responseId package)]? = none) :
    c.doRequestPacket package = some c := by
  rw [responseId] at h
  rw [doRequestPacket, h]

/-- The entry at the key is queued, with whatever the response makes of it. -/
theorem doRequestPacket_present {c : Channel} {package : RpcPacket} {callback : ChannelCallback}
    (h : c.requestCallback[requestKey (responseId package)]? = some callback) (hanswers : Answers package) :
    ∃ callback', callback.SameObject callback' ∧
      c.doRequestPacket package = some (c.finish (requestKey (responseId package)) callback') := by
  rw [responseId] at h
  rw [doRequestPacket, h]
  dsimp only
  by_cases herror : package.rpcMeta.rpcResponseMeta.error = ""
  · obtain ⟨binary, hbinary⟩ := Option.ne_none_iff_exists'.mp (hanswers.resolve_left (absurd herror))
    have hfailed : (callback.setFailed package.rpcMeta.rpcResponseMeta.error).cntl.failed ≠ true :=
      fun hc => (ChannelController.failed_iff _).mp hc herror
    rw [if_neg hfailed, hbinary]
    exact ⟨{ callback.setFailed package.rpcMeta.rpcResponseMeta.error with response := some binary },
      ⟨rfl, rfl, rfl⟩, rfl⟩
  · have hfailed : (callback.setFailed package.rpcMeta.rpcResponseMeta.error).cntl.failed = true :=
      (ChannelController.failed_iff _).mpr herror
    rw [if_pos hfailed]
    exact ⟨callback.setFailed package.rpcMeta.rpcResponseMeta.error, callback.sameObject_setFailed _, rfl⟩

/-- Without an error or a binary the response is parsed through a null pointer. -/
theorem doRequestPacket_undefined {c : Channel} {package : RpcPacket} {callback : ChannelCallback}
    (h : c.requestCallback[requestKey (responseId package)]? = some callback) (hanswers : ¬ Answers package) :
    c.doRequestPacket package = none := by
  obtain ⟨herror, hbinary⟩ := not_or.mp hanswers
  rw [responseId] at h
  rw [doRequestPacket, h, not_not.mp herror, not_not.mp hbinary]
  rfl

/-- **What `DoRequestPacket` can do**: nothing, or finish the entry at its key. -/
theorem doRequestPacket_cases {c c' : Channel} {package : RpcPacket}
    (h : c.doRequestPacket package = some c') :
    (c.requestCallback[requestKey (responseId package)]? = none ∧ c' = c) ∨
    ∃ callback callback', c.requestCallback[requestKey (responseId package)]? = some callback ∧
      Answers package ∧ callback.SameObject callback' ∧
      c' = c.finish (requestKey (responseId package)) callback' := by
  cases hentry : c.requestCallback[requestKey (responseId package)]? with
  | none =>
    rw [doRequestPacket_absent hentry] at h
    exact Or.inl ⟨rfl, (Option.some.inj h).symm⟩
  | some callback =>
    by_cases hanswers : Answers package
    · obtain ⟨callback', hsame, hfinish⟩ := doRequestPacket_present hentry hanswers
      rw [hfinish] at h
      exact Or.inr ⟨callback, callback', rfl, hanswers, hsame, (Option.some.inj h).symm⟩
    · rw [doRequestPacket_undefined hentry hanswers] at h
      cases h

/-! ## Matching -/

/-- The response completes the request with its id, if that is pending, and no other. -/
def Matched (c : Channel) (package : RpcPacket) : Prop :=
  ∃ c', c.doRequestPacket package = some c' ∧
    (∀ callback, c.requestCallback[responseId package]? = some callback →
      (∃ callback', callback'.ptr = callback.ptr ∧
        c'.alreadyCallbackQueue = c.alreadyCallbackQueue ++ [callback']) ∧
      c'.requestCallback = c.requestCallback.erase (responseId package)) ∧
    (c.requestCallback[responseId package]? = none →
      c'.alreadyCallbackQueue = c.alreadyCallbackQueue ∧ c'.requestCallback = c.requestCallback) ∧
    ∀ key, key ≠ responseId package → c'.requestCallback[key]? = c.requestCallback[key]?

/-- The condition for it: an `int` holds the id, and the response can be parsed if its request is pending;
    or neither the id is pending, nor the one with the same low half that an `int` holds. -/
def KeyMatches (c : Channel) (package : RpcPacket) : Prop :=
  (FitsInt (responseId package) ∧ (c.requestCallback[responseId package]? ≠ none → Answers package)) ∨
  (¬ FitsInt (responseId package) ∧ c.requestCallback[responseId package]? = none ∧
    ∀ key, FitsInt key → key.toNat % 2 ^ 32 = (responseId package).toNat % 2 ^ 32 →
      c.requestCallback[key]? = none)

theorem erase_self (c : Channel) (key : RpcRequestId) : (c.requestCallback.erase key)[key]? = none :=
  ExtTreeMap.getElem?_erase_self

theorem erase_of_ne {c : Channel} {key key' : RpcRequestId} (h : key ≠ key') :
    (c.requestCallback.erase key)[key']? = c.requestCallback[key']? := by
  rw [ExtTreeMap.getElem?_erase, if_neg (fun heq => h (LawfulEqCmp.compare_eq_iff_eq.mp heq))]

theorem getElem?_of_erase {c : Channel} {key requestId : RpcRequestId} {callback : ChannelCallback}
    (h : (c.requestCallback.erase key)[requestId]? = some callback) :
    c.requestCallback[requestId]? = some callback := by
  rw [ExtTreeMap.getElem?_erase] at h
  split at h
  · cases h
  · exact h

theorem matched_of_absent {c : Channel} {package : RpcPacket}
    (hid : c.requestCallback[responseId package]? = none)
    (hkey : c.requestCallback[requestKey (responseId package)]? = none) : c.Matched package := by
  refine ⟨c, doRequestPacket_absent hkey, fun callback h => ?_, fun _ => ⟨rfl, rfl⟩, fun _ _ => rfl⟩
  rw [hid] at h
  cases h

theorem matched_of_key {c : Channel} {package : RpcPacket}
    (hkey : requestKey (responseId package) = responseId package)
    (hanswers : c.requestCallback[responseId package]? ≠ none → Answers package) : c.Matched package := by
  cases hid : c.requestCallback[responseId package]? with
  | none => exact matched_of_absent hid (by rw [hkey, hid])
  | some callback =>
    obtain ⟨callback', hsame, hfinish⟩ := doRequestPacket_present (by rw [hkey, hid])
      (hanswers (by rw [hid]; exact Option.some_ne_none callback))
    rw [hkey] at hfinish
    refine ⟨_, hfinish, fun other h => ?_, fun h => ?_, fun key hne => erase_of_ne hne.symm⟩
    · rw [hid] at h
      cases h
      exact ⟨⟨callback', hsame.ptr, rfl⟩, rfl⟩
    · rw [hid] at h
      cases h

theorem keyMatches_of_matched {c : Channel} {package : RpcPacket} (h : c.Matched package) :
    c.KeyMatches package := by
  obtain ⟨c', hresult, hpending, habsent, hothers⟩ := h
  by_cases hfits : FitsInt (responseId package)
  · have hkey := (requestKey_eq_iff _).mpr hfits
    refine Or.inl ⟨hfits, fun hid => ?_⟩
    obtain ⟨callback, hid⟩ := Option.ne_none_iff_exists'.mp hid
    by_contra hanswers
    rw [doRequestPacket_undefined (by rw [hkey, hid]) hanswers] at hresult
    cases hresult
  · -- the lookup goes to another key, which has to be absent, and so does the id
    have hkey : requestKey (responseId package) ≠ responseId package :=
      fun hc => hfits ((requestKey_eq_iff _).mp hc)
    have hother : c.requestCallback[requestKey (responseId package)]? = none := by
      rcases doRequestPacket_cases hresult with ⟨hnone, _⟩ | ⟨callback, callback', hsome, _, _, rfl⟩
      · exact hnone
      · have hsame := hothers _ hkey
        rw [hsome] at hsame
        rw [show (c.finish (requestKey (responseId package)) callback').requestCallback
          = c.requestCallback.erase (requestKey (responseId package)) from rfl, erase_self] at hsame
        cases hsame
    rw [doRequestPacket_absent hother] at hresult
    obtain rfl := Option.some.inj hresult
    -- nothing was done, so a pending request was not completed
    have hid : c.requestCallback[responseId package]? = none := by
      by_contra hpresent
      obtain ⟨callback, hid⟩ := Option.ne_none_iff_exists'.mp hpresent
      have herase := (hpending callback hid).2
      rw [herase, erase_self] at hid
      cases hid
    refine Or.inr ⟨hfits, hid, fun key hint hlow => ?_⟩
    rw [(eq_requestKey_iff _ key).mpr ⟨hint, hlow⟩]
    exact hother

/-- **A response is matched to its request exactly when an `int` holds its id** and the response can be
    parsed, or nothing is pending under either key. -/
theorem request_matched_iff (c : Channel) (package : RpcPacket) :
    c.Matched package ↔ c.KeyMatches package := by
  refine ⟨keyMatches_of_matched, fun h => ?_⟩
  rcases h with ⟨hfits, hanswers⟩ | ⟨_, hid, hkeys⟩
  · exact matched_of_key ((requestKey_eq_iff _).mpr hfits) hanswers
  · obtain ⟨hint, hlow⟩ := (eq_requestKey_iff (responseId package) _).mp rfl
    exact matched_of_absent hid (hkeys _ hint hlow)

end Channel

/-! ## A long-lived channel -/

namespace ChannelThreads

/-- An asynchronous call. -/
def asyncCall : MethodCall := ⟨"S", 0, some false, [], true, some 0⟩

/-- One more call takes the next id and is inserted. -/
theorem call_pending {s : ChannelThreads} (hinit : s.channel.initSuccess = true)
    (hfree : s.channel.requestCallback[s.channel.requestId + 1]? = none) [Protobuf] [FrNet] :
    ∃ s' callback, Reaches step anyStep s s' ∧ s'.channel.initSuccess = true ∧
      s'.channel.requestId = s.channel.requestId + 1 ∧
      s'.channel.requestCallback
        = s.channel.requestCallback.insertIfNew (s.channel.requestId + 1) callback := by
  have hadmits : s.channel.admits asyncCall = true := by
    rw [Channel.admits, hinit]
    rfl
  let s₁ : ChannelThreads := { s with
    channel := s.channel.allocate
    invocations := s.invocations ++ [⟨asyncCall, s.channel.requestId + 1, .allocated⟩] }
  have hallocate : step s (.allocate asyncCall) = some s₁ := by
    rw [step, allocate, if_pos hadmits]
    rfl
  have hindex : s₁.invocations[s.invocations.length]?
      = some ⟨asyncCall, s.channel.requestId + 1, .allocated⟩ := List.getElem?_concat_length
  have habsent : s₁.channel.requestCallback.contains (s.channel.requestId + 1) = false := by
    rw [← ExtTreeMap.isSome_getElem?_eq_contains]
    exact Option.isSome_eq_false_iff.mpr (Option.isNone_iff_eq_none.mpr hfree)
  have hinsert : ∃ s' callback, step s₁ (.insert s.invocations.length) = some s' ∧
      s'.channel.initSuccess = true ∧ s'.channel.requestId = s.channel.requestId + 1 ∧
      s'.channel.requestCallback
        = s.channel.requestCallback.insertIfNew (s.channel.requestId + 1) callback := by
    simp only [step, insert, hindex, Channel.insertCallback, habsent]
    exact ⟨_, _, rfl, hinit, rfl, rfl⟩
  obtain ⟨s', callback, hstep, hrest⟩ := hinsert
  have hrun : Reaches step anyStep s s₁ := (Reaches.refl s).snoc trivial hallocate
  exact ⟨s', callback, hrun.snoc trivial hstep, hrest⟩

/-- **Any number of requests below `2 ^ 64` can be pending at once**, under the ids from one on. -/
theorem pending_reachable [Protobuf] [FrNet] (option : ChannelOption) (workThreadNum : Nat) {n : Nat}
    (hn : n < 2 ^ 64) :
    ∃ s, Reaches step anyStep (started option workThreadNum) s ∧ s.channel.initSuccess = true ∧
      s.channel.requestId.toNat = n ∧
      ∀ key : RpcRequestId, s.channel.requestCallback[key]? ≠ none ↔ 0 < key.toNat ∧ key.toNat ≤ n := by
  induction n with
  | zero =>
    refine ⟨_, .refl _, rfl, rfl, fun key => ?_⟩
    have hempty : (started option workThreadNum).channel.requestCallback[key]? = none :=
      ExtTreeMap.getElem?_empty
    rw [hempty]
    exact ⟨fun hne => absurd rfl hne, fun hkey => by omega⟩
  | succ n ih =>
    obtain ⟨s, hrun, hinit, hid, hpending⟩ := ih (by omega)
    have hnext : (s.channel.requestId + 1).toNat = n + 1 := by
      rw [UInt64.toNat_add, hid]
      exact Nat.mod_eq_of_lt hn
    -- the pending ids are at most `n`
    have hfree : s.channel.requestCallback[s.channel.requestId + 1]? = none := by
      by_contra hne
      have hle := ((hpending _).mp hne).2
      omega
    obtain ⟨s', callback, hrun', hinit', hid', hmap⟩ := call_pending hinit hfree
    refine ⟨s', hrun.trans hrun', hinit', by rw [hid', hnext], fun key => ?_⟩
    rw [hmap, getElem?_insertIfNew_eq]
    by_cases hkey : s.channel.requestId + 1 = key
    · subst hkey
      rw [if_pos ⟨rfl, hfree⟩, hnext]
      simp
    · have hne : key.toNat ≠ n + 1 := fun hc => hkey (UInt64.toNat_inj.mp (hnext.trans hc.symm))
      rw [if_neg (fun hc => hkey hc.1), hpending]
      omega

end ChannelThreads

namespace Channel

section

attribute [local instance] networkUp

/-- The response to request `2 ^ 31`, with an empty body. -/
def lateReply : RpcPacket := ⟨0, .method, ⟨"S", 0, some ⟨2147483648⟩, none, 0⟩, some []⟩

/-- **The reply to the request with id `2 ^ 31` is lost**, and the request stays pending. -/
theorem request_lost :
    ∃ s : ChannelThreads, Reaches ChannelThreads.step anyStep (.started ⟨0, 1000⟩ 1) s ∧
      s.channel.requestCallback[responseId lateReply]? ≠ none ∧
      s.channel.doRequestPacket lateReply = some s.channel ∧ ¬ s.channel.Matched lateReply := by
  obtain ⟨s, hrun, _, _, hpending⟩ :=
    ChannelThreads.pending_reachable ⟨0, 1000⟩ 1 (show 2147483648 < 2 ^ 64 by decide)
  have hid : s.channel.requestCallback[responseId lateReply]? ≠ none := (hpending _).mpr (by decide)
  have hkey : s.channel.requestCallback[requestKey (responseId lateReply)]? = none := by
    by_contra hne
    exact absurd ((hpending _).mp hne) (by decide)
  refine ⟨s, hrun, hid, doRequestPacket_absent hkey, fun hmatched => ?_⟩
  rcases keyMatches_of_matched hmatched with ⟨hfits, _⟩ | ⟨_, habsent, _⟩
  · exact absurd ((requestKey_eq_iff _).mpr hfits) (by decide)
  · exact hid habsent

end

end Channel

end Frrpc
