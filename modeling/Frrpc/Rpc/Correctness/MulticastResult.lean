import Frrpc.Pb.Wire
import Frrpc.Rpc.Correctness.Multicast

/-!
# `Rpc.Correctness.MulticastResult` — what the result of a multicast says

`sendAll` compares the `bool` of a client's `Send` with the network's enumeration, skips indices without a
gateway, and a client whose frame was not built returns `true`. So what the result says depends on the
number that stands for success, and for no number is it always the truth (`result_truthful_iff`).
-/

namespace Frrpc

open Lib

/-- What each gateway's client meets: whether its frame is built, and what the network returns for it. -/
structure Outcomes where
  eNetSendResultOk : ENetSendResult
  built : Nat → Bool
  result : Nat → ENetSendResult

namespace Outcomes

@[reducible] def net (o : Outcomes) : FrNet :=
  ⟨o.eNetSendResultOk, fun _ _ _ => o.eNetSendResultOk, fun n _ _ => o.result n⟩

@[reducible] def serializer (o : Outcomes) : Serializer := ⟨fun n _ _ _ => o.built n⟩

/-- The network refuses the frame of client `i`. -/
def Refused (o : Outcomes) (i : Nat) : Prop := o.built i = true ∧ o.result i ≠ o.eNetSendResultOk

instance (o : Outcomes) (i : Nat) : Decidable (o.Refused i) := inferInstanceAs (Decidable (_ ∧ _))

end Outcomes

namespace RpcServerRoute

/-- The link id's gateway index has a gateway. -/
def InRange (s : RpcServerRoute) (linkId : LinkID) : Prop :=
  ∃ routeId, getRouteID s.routeLength linkId = some routeId ∧ routeId.toNat < s.routeClientList.length

/-- There is a gateway `i`, and one of the link ids is for it. -/
def Involved (s : RpcServerRoute) (linkIds : List LinkID) (i : Nat) : Prop :=
  i < s.routeClientList.length ∧ ∃ linkId ∈ linkIds, (getRouteID s.routeLength linkId).map UInt32.toNat = some i

/-- All is well: there are targets, all of them at some gateway, and every gateway's frame was built and
    accepted. -/
def AllSent (o : Outcomes) (s : RpcServerRoute) (linkIds : List LinkID) : Prop :=
  linkIds ≠ [] ∧ (∀ linkId ∈ linkIds, s.InRange linkId) ∧
    ∀ i, s.Involved linkIds i → o.built i = true ∧ o.result i = o.eNetSendResultOk

variable [Protobuf]

/-- The results of `Send` to a list and to one link id, where the clients meet `o`. -/
def multicastResult (o : Outcomes) (s : RpcServerRoute) (linkIds : List LinkID) (rpcMeta : RpcMeta)
    (body : Bytes) : Option Bool :=
  (@sendAll _ o.net o.serializer s linkIds rpcMeta body).map Prod.snd

def unicastResult (o : Outcomes) (s : RpcServerRoute) (linkId : LinkID) (rpcMeta : RpcMeta) (body : Bytes) :
    Option Bool :=
  (@send _ o.net o.serializer s linkId rpcMeta body).map Prod.snd

/-- The result of a multicast is the truth, and agrees with the results of unicasts. -/
def Truthful (o : Outcomes) (s : RpcServerRoute) (linkIds : List LinkID) (rpcMeta : RpcMeta) (body : Bytes) :
    Prop :=
  ∃ ret, multicastResult o s linkIds rpcMeta body = some ret ∧ (ret = true ↔ AllSent o s linkIds) ∧
    (ret = true ↔ linkIds ≠ [] ∧ ∀ linkId ∈ linkIds, unicastResult o s linkId rpcMeta body = some true)

/-- When it is: nothing to send; or success is 1 and some gateway refuses, or nothing goes wrong before the
    network; or success is another number and something does go wrong, with a gateway involved, and if
    success is 0, not every gateway involved refuses. -/
def TruthfulWhen (gateways : Nat) (o : Outcomes) (s : RpcServerRoute) (linkIds : List LinkID) : Prop :=
  linkIds = [] ∨ gateways < 10 ^ 9 ∧
    if o.eNetSendResultOk = 1 then
      (∃ i, s.Involved linkIds i ∧ o.Refused i) ∨
        (∀ linkId ∈ linkIds, s.InRange linkId) ∧ ∀ i, s.Involved linkIds i → o.built i = true
    else
      (∃ i, s.Involved linkIds i) ∧
        ((∃ linkId ∈ linkIds, ¬ s.InRange linkId) ∨ ∃ i, s.Involved linkIds i ∧ o.Refused i) ∧
        (o.eNetSendResultOk = 0 → ∃ i, s.Involved linkIds i ∧ ¬ o.Refused i)

section

variable {m gateways : Nat} {s : RpcServerRoute} {o : Outcomes} {linkIds : List LinkID} {rpcMeta : RpcMeta}
  {body : Bytes}

omit [Protobuf] in
theorem inRange_iff (hm : linkModulus s.routeLength = some m) (linkId : LinkID) :
    s.InRange linkId ↔ (gatewayOf m linkId).toNat < s.routeClientList.length := by
  rw [InRange, getRouteID_eq hm]
  simp

omit [Protobuf] in
theorem involved_iff (hm : linkModulus s.routeLength = some m) (i : Nat) :
    s.Involved linkIds i ↔
      i < s.routeClientList.length ∧ ∃ linkId ∈ linkIds, (gatewayOf m linkId).toNat = i := by
  refine and_congr_right fun _ => exists_congr fun linkId => and_congr_right fun _ => ?_
  rw [getRouteID_eq hm, Option.map_some, Option.some.injEq]

omit [Protobuf] in
/-- Link ids that all have a gateway involve one. -/
theorem exists_involved (hm : linkModulus s.routeLength = some m) (hne : linkIds ≠ [])
    (hrange : ∀ linkId ∈ linkIds, s.InRange linkId) : ∃ i, s.Involved linkIds i := by
  obtain ⟨linkId, hlink⟩ := List.exists_mem_of_ne_nil linkIds hne
  exact ⟨_, (involved_iff hm _).mpr ⟨(inRange_iff hm linkId).mp (hrange linkId hlink), linkId, hlink, rfl⟩⟩

variable (o rpcMeta body) in
/-- A client with targets reports everything but a refusal as success. -/
theorem sendPicked_result {i : Nat} {c : RpcServerRouteClient} (hid : c.routeId.toNat = i)
    (htargets : targetsAt m linkIds c.routeId ≠ []) :
    (@RpcServerRouteClient.sendPicked _ o.net o.serializer m c linkIds rpcMeta body).2 = true
      ↔ ¬ o.Refused i := by
  unfold RpcServerRouteClient.sendPicked RpcServerRouteClient.sendTo Outcomes.Refused
  rw [if_neg htargets]
  dsimp only
  rw [hid]
  split
  · next hserializes =>
    have hbuilt : o.built i = true := hserializes
    show (o.result c.routeId.toNat == o.eNetSendResultOk) = true ↔ _
    rw [hid, beq_iff_eq]
    simp [hbuilt]
  · next hserializes =>
    have hbuilt : o.built i ≠ true := hserializes
    simp [hbuilt]

omit [Protobuf] in
/-- A `bool` compared with the enumeration, by the number that stands for success. -/
theorem equalsOk_iff (o : Outcomes) (ret : Bool) :
    @equalsOk o.net ret = true ↔ if ret = true then o.eNetSendResultOk = 1 else o.eNetSendResultOk = 0 := by
  show ((if ret then 1 else 0 : ENetSendResult) == o.eNetSendResultOk) = true ↔ _
  rw [beq_iff_eq, eq_comm]
  split
  · rfl
  · rfl

/-- **The result of a multicast**, from what becomes of each gateway involved. -/
theorem multicastResult_spec (hm : linkModulus s.routeLength = some m) (hindexed : s.Indexed)
    (o : Outcomes) (linkIds : List LinkID) (rpcMeta : RpcMeta) (body : Bytes) :
    ∃ ret, multicastResult o s linkIds rpcMeta body = some ret ∧
      (ret = true ↔ linkIds ≠ [] ∧ ∀ i, s.Involved linkIds i →
        if o.Refused i then o.eNetSendResultOk = 0 else o.eNetSendResultOk = 1) := by
  obtain ⟨s', ret, hsend, -, -, hret⟩ :=
    @sendAll_spec _ o.net o.serializer m s hm hindexed linkIds rpcMeta body
  refine ⟨ret, by rw [multicastResult, hsend, Option.map_some], hret.trans (and_congr_right fun _ => ?_)⟩
  have heach : ∀ i c, s.routeClientList[i]? = some c →
      (∃ linkId ∈ linkIds, (gatewayOf m linkId).toNat = i) →
      (@equalsOk o.net (@RpcServerRouteClient.sendPicked _ o.net o.serializer m c linkIds rpcMeta body).2 = true
        ↔ if o.Refused i then o.eNetSendResultOk = 0 else o.eNetSendResultOk = 1) := by
    rintro i c hc ⟨linkId, hlink, hi⟩
    have hid : c.routeId.toNat = i := hindexed i c hc
    have htargets : targetsAt m linkIds c.routeId ≠ [] := by
      intro hnil
      refine targetsAt_eq_nil_iff.mp hnil linkId hlink (UInt32.toNat_inj.mp ?_)
      rw [hi, hid]
    have hsent := sendPicked_result o rpcMeta body hid htargets
    rw [equalsOk_iff]
    by_cases hrefused : o.Refused i
    · simp [hsent, hrefused]
    · simp [hsent, hrefused]
  constructor
  · intro hall i hi
    obtain ⟨hlt, linkId, hlink, rfl⟩ := (involved_iff hm i).mp hi
    have hc := List.getElem?_eq_getElem hlt
    exact (heach _ _ hc ⟨linkId, hlink, rfl⟩).mp (hall linkId hlink _ hc)
  · intro hall linkId hlink c hc
    refine (heach _ c hc ⟨linkId, hlink, rfl⟩).mpr (hall _ ?_)
    exact (involved_iff hm _).mpr ⟨(List.getElem?_eq_some_iff.mp hc).1, linkId, hlink, rfl⟩

/-- The result of a unicast is the truth, but for a frame that is not built. -/
theorem unicastResult_iff (hm : linkModulus s.routeLength = some m) (hindexed : s.Indexed) (linkId : LinkID) :
    unicastResult o s linkId rpcMeta body = some true
      ↔ s.InRange linkId ∧ ¬ o.Refused (gatewayOf m linkId).toNat := by
  obtain ⟨s', ret, hsend, -, hret⟩ := @send_spec _ o.net o.serializer m s hm hindexed linkId rpcMeta body
  have htargets : ∀ c, s.routeClientList[(gatewayOf m linkId).toNat]? = some c →
      targetsAt m [linkId] c.routeId ≠ [] := by
    intro c hc hnil
    refine targetsAt_eq_nil_iff.mp hnil linkId List.mem_cons_self (UInt32.toNat_inj.mp ?_)
    rw [hindexed _ c hc]
  rw [unicastResult, hsend, Option.map_some, Option.some.injEq, inRange_iff hm]
  refine hret.trans ⟨?_, ?_⟩
  · rintro ⟨c, hc, hsent⟩
    have htaken := (sendPicked_result _ _ _ (hindexed _ c hc) (htargets c hc)).mp hsent
    exact ⟨(List.getElem?_eq_some_iff.mp hc).1, htaken⟩
  · rintro ⟨hlt, hrefused⟩
    have hc := List.getElem?_eq_getElem hlt
    exact ⟨_, hc, (sendPicked_result _ _ _ (hindexed _ _ hc) (htargets _ hc)).mpr hrefused⟩

/-- All unicasts report success if all link ids have a gateway and no gateway involved refuses. -/
theorem unicasts_iff (hm : linkModulus s.routeLength = some m) (hindexed : s.Indexed) :
    (∀ linkId ∈ linkIds, unicastResult o s linkId rpcMeta body = some true)
      ↔ (∀ linkId ∈ linkIds, s.InRange linkId) ∧ ∀ i, s.Involved linkIds i → ¬ o.Refused i := by
  simp only [unicastResult_iff hm hindexed]
  constructor
  · intro hall
    refine ⟨fun linkId hlink => (hall linkId hlink).1, fun i hi => ?_⟩
    obtain ⟨-, linkId, hlink, rfl⟩ := (involved_iff hm i).mp hi
    exact (hall linkId hlink).2
  · rintro ⟨hrange, hnone⟩ linkId hlink
    refine ⟨hrange linkId hlink, hnone _ ((involved_iff hm _).mpr ?_)⟩
    exact ⟨(inRange_iff hm linkId).mp (hrange linkId hlink), linkId, hlink, rfl⟩

omit [Protobuf] in
/-- A frame is built and accepted if it is built and not refused. -/
theorem allSent_iff : AllSent o s linkIds ↔ linkIds ≠ [] ∧ (∀ linkId ∈ linkIds, s.InRange linkId) ∧
    (∀ i, s.Involved linkIds i → o.built i = true) ∧ ∀ i, s.Involved linkIds i → ¬ o.Refused i := by
  refine and_congr_right fun _ => and_congr_right fun _ => ?_
  constructor
  · intro hall
    exact ⟨fun i hi => (hall i hi).1, fun i hi hrefused => hrefused.2 (hall i hi).2⟩
  · rintro ⟨hbuilt, hnone⟩ i hi
    refine ⟨hbuilt i hi, ?_⟩
    by_contra hresult
    exact hnone i hi ⟨hbuilt i hi, hresult⟩

variable (o rpcMeta body) in
/-- The result, for each number that may stand for success: where it is 1, nothing was refused; where it
    is 0, everything was; and otherwise no gateway was involved. -/
theorem multicastResult_iff (hm : linkModulus s.routeLength = some m) (hindexed : s.Indexed)
    (hne : linkIds ≠ []) :
    ∃ ret, multicastResult o s linkIds rpcMeta body = some ret ∧
      (o.eNetSendResultOk = 1 → (ret = true ↔ ∀ i, s.Involved linkIds i → ¬ o.Refused i)) ∧
      (o.eNetSendResultOk = 0 → (ret = true ↔ ∀ i, s.Involved linkIds i → o.Refused i)) ∧
      (o.eNetSendResultOk ≠ 1 → o.eNetSendResultOk ≠ 0 → (ret = true ↔ ∀ i, ¬ s.Involved linkIds i)) := by
  obtain ⟨ret, hmulti, hret⟩ := multicastResult_spec hm hindexed o linkIds rpcMeta body
  refine ⟨ret, hmulti, fun hone => ?_, fun hzero => ?_, fun hone hzero => ?_⟩
  · rw [hret, and_iff_right hne, hone]
    refine forall₂_congr fun i _ => ?_
    split <;> simp [*]
  · rw [hret, and_iff_right hne, hzero]
    refine forall₂_congr fun i _ => ?_
    split <;> simp [*]
  · rw [hret, and_iff_right hne]
    refine forall_congr' fun i => ?_
    split <;> simp [hone, hzero]

omit [Protobuf] in
/-- A result that says `N`, against `A ∧ B ∧ N` and `A ∧ N`. -/
theorem right_iff_of_eq {ret A B N : Prop} (h : ret ↔ N) :
    (ret ↔ A ∧ B ∧ N) ∧ (ret ↔ A ∧ N) ↔ ¬ N ∨ A ∧ B := by
  rw [h]
  by_cases hn : N
  · simp [hn, and_comm]
  · simp [hn]

omit [Protobuf] in
/-- A result that is never true where `A ∧ N` is. -/
theorem right_iff_of_wrong {ret A B N : Prop} (h : ret → ¬ (A ∧ N)) :
    (ret ↔ A ∧ B ∧ N) ∧ (ret ↔ A ∧ N) ↔ ¬ ret ∧ (¬ A ∨ ¬ N) := by
  tauto

/-- **The result of a multicast is the truth exactly when** the accident of the comparison allows it
    (`TruthfulWhen`). -/
theorem result_truthful_iff {gateways : Nat} (h : s.Serves gateways) (o : Outcomes) (linkIds : List LinkID)
    (rpcMeta : RpcMeta) (body : Bytes) :
    Truthful o s linkIds rpcMeta body ↔ TruthfulWhen gateways o s linkIds := by
  rcases eq_or_ne linkIds [] with rfl | hne
  · -- nothing to send: false, as it should be
    refine iff_of_true ⟨false, rfl, ?_, ?_⟩ (Or.inl rfl)
    · simp [AllSent]
    · simp
  rw [TruthfulWhen, or_iff_right hne]
  by_cases hgateways : gateways < 10 ^ 9
  · have hm : linkModulus s.routeLength = some (10 ^ getNumberLength gateways) := by
      rw [h.1, linkModulus_eq hgateways]
    have hindexed := h.indexed hm
    obtain ⟨ret, hmulti, hone, hzero, hother⟩ :=
      multicastResult_iff o rpcMeta body hm hindexed hne
    have hinvolved := exists_involved hm hne
    rw [and_iff_right hgateways, Truthful, allSent_iff]
    simp only [hmulti, Option.some.injEq, exists_eq_left', unicasts_iff hm hindexed, ne_eq, hne,
      not_false_eq_true, true_and]
    have hrefused : (∃ i, s.Involved linkIds i ∧ o.Refused i)
        ↔ ¬ ∀ i, s.Involved linkIds i → ¬ o.Refused i := by
      push Not
      rfl
    have hout : (∃ linkId ∈ linkIds, ¬ s.InRange linkId) ↔ ¬ ∀ linkId ∈ linkIds, s.InRange linkId := by
      push Not
      rfl
    rw [hrefused, hout]
    split
    · next hok => exact right_iff_of_eq (hone hok)
    · next hok =>
      have hwrong : ret = true → ¬ ((∀ linkId ∈ linkIds, s.InRange linkId) ∧
          ∀ i, s.Involved linkIds i → ¬ o.Refused i) := by
        rintro hret ⟨hrange, hnone⟩
        obtain ⟨i, hi⟩ := hinvolved hrange
        by_cases hok₀ : o.eNetSendResultOk = 0
        · exact hnone i hi ((hzero hok₀).mp hret i hi)
        · exact (hother hok hok₀).mp hret i hi
      have hfalse : ¬ ret = true ↔ (∃ i, s.Involved linkIds i) ∧
          (o.eNetSendResultOk = 0 → ∃ i, s.Involved linkIds i ∧ ¬ o.Refused i) := by
        by_cases hok₀ : o.eNetSendResultOk = 0
        · rw [hzero hok₀]
          push Not
          constructor
          · rintro ⟨i, hi, hsent⟩
            exact ⟨⟨i, hi⟩, fun _ => ⟨i, hi, hsent⟩⟩
          · rintro ⟨-, hsent⟩
            exact hsent hok₀
        · rw [hother hok hok₀]
          push Not
          exact ⟨fun hi => ⟨hi, fun h₀ => absurd h₀ hok₀⟩, And.left⟩
      rw [right_iff_of_wrong hwrong, hfalse, and_assoc, and_comm (b := _ ∨ _)]
  · -- the gateway index of a link id is undefined
    refine iff_of_false ?_ fun hwhen => hgateways hwhen.1
    rintro ⟨ret, hmulti, -⟩
    obtain ⟨linkId, linkIds, rfl⟩ := List.exists_cons_of_ne_nil hne
    have hundefined : routeIds s.routeLength (linkId :: linkIds) = none := by
      rw [routeIds, List.foldlM_cons, h.1, getRouteID_eq_none (linkModulus_eq_none hgateways)]
      rfl
    unfold multicastResult sendAll at hmulti
    rw [hundefined] at hmulti
    cases hmulti

end

end RpcServerRoute

/-! ## The numbers 1 and 0 -/

/-- One gateway of two refuses, with 1 for success: the result is the truth. -/
theorem result_truthful_refused :
    RpcServerRoute.Truthful ⟨1, fun _ => true, fun i => if i = 0 then 1 else 5⟩ (.new 2) [13, 3] default [7] :=
  (RpcServerRoute.result_truthful_iff (RpcServerRoute.new_serves 2) _ _ _ _).mpr
    (Or.inr ⟨by decide, Or.inl ⟨1, ⟨by decide, 13, by decide, by decide⟩, by decide⟩⟩)

/-- The network takes every frame, and says so with 0. -/
def allTaken : Outcomes := ⟨0, fun _ => true, fun _ => 0⟩

/-- The only frame of a multicast is built and taken, and the result is `false`. -/
theorem taken_reported_lost :
    RpcServerRoute.AllSent allTaken (.new 1) [3] ∧
      RpcServerRoute.unicastResult allTaken (.new 1) 3 default [7] = some true ∧
      RpcServerRoute.multicastResult allTaken (.new 1) [3] default [7] = some false ∧
      ¬ RpcServerRoute.Truthful allTaken (.new 1) [3] default [7] := by
  have hall : RpcServerRoute.AllSent allTaken (.new 1) [3] := by
    refine ⟨by decide, ?_, fun i _ => ⟨rfl, rfl⟩⟩
    rintro _ (_ | ⟨_, ⟨⟩⟩)
    exact ⟨0, by decide, by decide⟩
  have hmulti : RpcServerRoute.multicastResult allTaken (.new 1) [3] default [7] = some false := by decide
  refine ⟨hall, by decide, hmulti, ?_⟩
  rintro ⟨ret, hret, hsent, -⟩
  rw [hmulti] at hret
  cases hret
  exact Bool.false_ne_true (hsent.mpr hall)

end Frrpc
