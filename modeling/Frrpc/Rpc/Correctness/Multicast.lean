import Frrpc.Lib.Tagged
import Frrpc.Lib.TreeMap
import Frrpc.Rpc.Correctness.LinkId

/-!
# `Rpc.Correctness.Multicast` — sending to a list of link ids

`sendAll` collects the gateway indices of its link ids and lets each gateway's client pick its own targets
out of the whole list. Every client has its own index (`Serves`), so the client at an index picks the link
ids with that index and no others (`sendAll_spec`), and the deliveries are those of one `send` a link id
(`multicast_deliveries`).
-/

namespace Frrpc

open Lib Std

/-! ## Parts of a link id -/

/-- The gateway index and the socket in a link id, for the modulus `m`. -/
def gatewayOf (m : Nat) (linkId : LinkID) : RouteID := UInt32.ofNat (linkId.toNat / m)

def socketOf (m : Nat) (linkId : LinkID) : Socket := Int32.ofNat (linkId.toNat % m)

/-- The sockets that the link ids name at gateway `routeId`. -/
def targetsAt (m : Nat) (linkIds : List LinkID) (routeId : RouteID) : List Socket :=
  (linkIds.filter fun linkId => gatewayOf m linkId = routeId).map (socketOf m)

section

variable {m routeLength : Nat}

theorem getRouteID_eq (h : linkModulus routeLength = some m) (linkId : LinkID) :
    getRouteID routeLength linkId = some (gatewayOf m linkId) := by
  rw [getRouteID, h]
  rfl

theorem getSocket_eq (h : linkModulus routeLength = some m) (linkId : LinkID) :
    getSocket routeLength linkId = some (socketOf m linkId) := by
  rw [getSocket, h]
  rfl

theorem getRouteID_eq_none (h : linkModulus routeLength = none) (linkId : LinkID) :
    getRouteID routeLength linkId = none := by
  rw [getRouteID, h]
  rfl

theorem targetsAt_cons (linkId : LinkID) (linkIds : List LinkID) (routeId : RouteID) :
    targetsAt m (linkId :: linkIds) routeId = targetsAt m [linkId] routeId ++ targetsAt m linkIds routeId := by
  rw [targetsAt, targetsAt, targetsAt, ← List.map_append, ← List.filter_append, List.singleton_append]

theorem targetsAt_singleton (linkId : LinkID) (routeId : RouteID) :
    targetsAt m [linkId] routeId = if gatewayOf m linkId = routeId then [socketOf m linkId] else [] := by
  rw [targetsAt, List.filter_singleton]
  by_cases h : gatewayOf m linkId = routeId
  · simp [h]
  · simp [h]

/-- There is a target where, and only where, some link id leads. -/
theorem targetsAt_eq_nil_iff {linkIds : List LinkID} {routeId : RouteID} :
    targetsAt m linkIds routeId = [] ↔ ∀ linkId ∈ linkIds, gatewayOf m linkId ≠ routeId := by
  rw [targetsAt, List.map_eq_nil_iff, List.filter_eq_nil_iff]
  simp only [decide_eq_true_eq]

/-- A client picks the link ids of its gateway. -/
theorem targetSockets_eq (h : linkModulus routeLength = some m) (c : RpcServerRouteClient)
    (linkIds : List LinkID) : c.targetSockets routeLength linkIds = some (targetsAt m linkIds c.routeId) := by
  induction linkIds with
  | nil => rfl
  | cons linkId linkIds ih =>
    rw [RpcServerRouteClient.targetSockets, getRouteID_eq h, getSocket_eq h, ih, targetsAt_cons,
      targetsAt_singleton]
    simp only [Option.bind_eq_bind, Option.bind_some, eq_comm (a := c.routeId)]
    split
    · rfl
    · rfl

/-! ## The set of gateway indices -/

theorem routeIds_eq (h : linkModulus routeLength = some m) (linkIds : List LinkID) :
    RpcServerRoute.routeIds routeLength linkIds
      = some (linkIds.foldl (fun ids linkId => ids.insert (gatewayOf m linkId)) ∅) := by
  unfold RpcServerRoute.routeIds
  generalize (∅ : ExtTreeSet RouteID) = ids
  induction linkIds generalizing ids with
  | nil => rfl
  | cons linkId linkIds ih =>
    rw [List.foldlM_cons, getRouteID_eq h, List.foldl_cons]
    exact ih (ids.insert (gatewayOf m linkId))

theorem mem_foldl_insert_iff (linkIds : List LinkID) (ids : ExtTreeSet RouteID) (routeId : RouteID) :
    routeId ∈ linkIds.foldl (fun ids linkId => ids.insert (gatewayOf m linkId)) ids
      ↔ routeId ∈ ids ∨ ∃ linkId ∈ linkIds, gatewayOf m linkId = routeId := by
  induction linkIds generalizing ids with
  | nil => simp
  | cons linkId linkIds ih =>
    rw [List.foldl_cons, ih, mem_insert_iff]
    constructor
    · rintro ((rfl | hold) | ⟨linkId', hmem, heq⟩)
      · exact Or.inr ⟨linkId, List.mem_cons_self, rfl⟩
      · exact Or.inl hold
      · exact Or.inr ⟨linkId', List.mem_cons_of_mem _ hmem, heq⟩
    · rintro (hold | ⟨linkId', hmem, heq⟩)
      · exact Or.inl (Or.inr hold)
      · rcases List.mem_cons.mp hmem with rfl | hrest
        · exact Or.inl (Or.inl heq.symm)
        · exact Or.inr ⟨linkId', hrest, heq⟩

/-- The indices that the loop of `sendAll` visits. -/
theorem exists_routeIds (h : linkModulus routeLength = some m) (linkIds : List LinkID) :
    ∃ ids : ExtTreeSet RouteID, RpcServerRoute.routeIds routeLength linkIds = some ids ∧ ids.toList.Nodup ∧
      (∀ routeId, routeId ∈ ids.toList ↔ ∃ linkId ∈ linkIds, gatewayOf m linkId = routeId) ∧
      (ids.isEmpty = true ↔ linkIds = []) := by
  obtain ⟨ids, hids⟩ : ∃ ids : ExtTreeSet RouteID,
      linkIds.foldl (fun ids linkId => ids.insert (gatewayOf m linkId)) ∅ = ids := ⟨_, rfl⟩
  have hmem : ∀ routeId, routeId ∈ ids.toList ↔ ∃ linkId ∈ linkIds, gatewayOf m linkId = routeId := by
    intro routeId
    rw [ExtTreeSet.mem_toList, ← hids, mem_foldl_insert_iff]
    simp
  refine ⟨ids, by rw [routeIds_eq h, hids], toList_set_nodup _, hmem, ?_⟩
  rw [← ExtTreeSet.isEmpty_toList, List.isEmpty_iff, List.eq_nil_iff_forall_not_mem]
  constructor
  · intro hnone
    refine List.eq_nil_iff_forall_not_mem.mpr fun linkId hlink => ?_
    exact hnone _ ((hmem _).mpr ⟨linkId, hlink, rfl⟩)
  · rintro rfl routeId hrouteId
    obtain ⟨_, hlink, _⟩ := (hmem routeId).mp hrouteId
    cases hlink

end

/-! ## What the clients do -/

section

variable [Protobuf] [FrNet] [Serializer] {m : Nat} {s : RpcServerRoute}

namespace RpcServerRouteClient

/-- What a client's `Send` does with the link ids of a list. -/
def sendPicked (m : Nat) (c : RpcServerRouteClient) (linkIds : List LinkID) (rpcMeta : RpcMeta) (body : Bytes) :
    RpcServerRouteClient × Bool := c.sendTo (targetsAt m linkIds c.routeId) rpcMeta body

theorem sendTo_routeId (c : RpcServerRouteClient) (sockets : List Socket) (rpcMeta : RpcMeta) (body : Bytes) :
    (c.sendTo sockets rpcMeta body).1.routeId = c.routeId := by
  unfold sendTo
  split
  · rfl
  · dsimp only
    split <;> rfl

/-- Without a target the client is left alone. -/
theorem sendPicked_of_nil {c : RpcServerRouteClient} {linkIds : List LinkID}
    (h : targetsAt m linkIds c.routeId = []) (rpcMeta : RpcMeta) (body : Bytes) :
    c.sendPicked m linkIds rpcMeta body = (c, false) := by
  rw [sendPicked, h]
  rfl

end RpcServerRouteClient

namespace RpcServerRoute

theorem sendVia_eq (h : linkModulus s.routeLength = some m) (routeId : RouteID) (client : RpcServerRouteClient)
    (linkIds : List LinkID) (rpcMeta : RpcMeta) (body : Bytes) :
    s.sendVia routeId client linkIds rpcMeta body
      = some ({ s with
          routeClientList :=
            s.routeClientList.set routeId.toNat (client.sendPicked m linkIds rpcMeta body).1 },
        (client.sendPicked m linkIds rpcMeta body).2) := by
  rw [sendVia, RpcServerRouteClient.send, targetSockets_eq h]
  rfl

omit [Protobuf] [FrNet] [Serializer] in
/-- Only one client is replaced. -/
theorem getElem?_set_client {i : Nat} {c : RpcServerRouteClient} (hget : s.routeClientList[i]? = some c)
    (c' : RpcServerRouteClient) (j : Nat) :
    (s.routeClientList.set i c')[j]? = if i = j then some c' else s.routeClientList[j]? := by
  rw [List.getElem?_set]
  split
  · rw [if_pos (List.getElem?_eq_some_iff.mp hget).1]
  · rfl

/-- **The loop over the gateways**: each client among them sends to its targets, once, and the others are
    left alone; the result is true if each of them returned what counts as success. -/
theorem sendEach_spec (linkIds : List LinkID) (rpcMeta : RpcMeta) (body : Bytes) (ids : List RouteID)
    (hnodup : ids.Nodup) (h : linkModulus s.routeLength = some m) (ret : Bool) :
    ∃ s' ret', sendEach linkIds rpcMeta body ids s ret = some (s', ret') ∧ s'.routeLength = s.routeLength ∧
      (∀ i : Nat, s'.routeClientList[i]? = if ∃ routeId ∈ ids, routeId.toNat = i
        then s.routeClientList[i]?.map fun c => (c.sendPicked m linkIds rpcMeta body).1
        else s.routeClientList[i]?) ∧
      (ret' = true ↔ ret = true ∧ ∀ routeId ∈ ids, ∀ c, s.routeClientList[routeId.toNat]? = some c →
        equalsOk (c.sendPicked m linkIds rpcMeta body).2 = true) := by
  induction ids generalizing s ret with
  | nil => exact ⟨s, ret, rfl, rfl, fun i => by simp, by simp⟩
  | cons routeId ids ih =>
    obtain ⟨hfresh, hnodup⟩ := List.nodup_cons.mp hnodup
    unfold sendEach
    cases hget : s.routeClientList[routeId.toNat]? with
    | none =>
      obtain ⟨s', ret', heq, hlength, hclients, hret⟩ := ih hnodup h ret
      refine ⟨s', ret', heq, hlength, fun i => ?_, ?_⟩
      · rw [hclients]
        by_cases hi : routeId.toNat = i
        · subst hi
          rw [hget]
          simp
        · simp [hi]
      · rw [hret, List.forall_mem_cons]
        simp [hget]
    | some client =>
      obtain ⟨s₁, hs₁⟩ : ∃ s₁ : RpcServerRoute, { s with
          routeClientList :=
            s.routeClientList.set routeId.toNat (client.sendPicked m linkIds rpcMeta body).1 } = s₁ := ⟨_, rfl⟩
      obtain ⟨s', ret', heq, hlength, hclients, hret⟩ :=
        ih (s := s₁) hnodup (by rw [← hs₁]; exact h)
          (ret && equalsOk (client.sendPicked m linkIds rpcMeta body).2)
      have hat : ∀ i, s₁.routeClientList[i]? = if routeId.toNat = i
          then some (client.sendPicked m linkIds rpcMeta body).1 else s.routeClientList[i]? := by
        intro i
        rw [← hs₁]
        exact getElem?_set_client hget _ i
      -- the other indices of the loop are other places
      have hother : ∀ routeId' ∈ ids, routeId.toNat ≠ routeId'.toNat := by
        intro routeId' hmem heq
        exact hfresh (UInt32.toNat_inj.mp heq ▸ hmem)
      refine ⟨s', ret', ?_, by rw [hlength, ← hs₁], fun i => ?_, ?_⟩
      · simp only [sendVia_eq h, Option.bind_eq_bind, Option.bind_some, hs₁]
        exact heq
      · rw [hclients, hat]
        by_cases hi : routeId.toNat = i
        · subst hi
          have hnot : ¬ ∃ routeId' ∈ ids, routeId'.toNat = routeId.toNat := by
            rintro ⟨routeId', hmem, hsame⟩
            exact hother routeId' hmem hsame.symm
          rw [if_neg hnot, if_pos rfl, if_pos ⟨routeId, List.mem_cons_self, rfl⟩, hget]
          rfl
        · have hiff : (∃ routeId' ∈ routeId :: ids, routeId'.toNat = i)
              ↔ ∃ routeId' ∈ ids, routeId'.toNat = i := by
            simp [hi]
          simp only [if_neg hi, hiff]
      · rw [hret, Bool.and_eq_true, List.forall_mem_cons, and_assoc]
        refine and_congr_right fun _ => and_congr ?_ ?_
        · rw [hget]
          simp
        · refine forall₂_congr fun routeId' hmem => ?_
          rw [hat, if_neg (hother routeId' hmem)]

/-- Every client stands at its own index. -/
def Indexed (s : RpcServerRoute) : Prop := ∀ (i : Nat) c, s.routeClientList[i]? = some c → c.routeId.toNat = i

omit [Protobuf] [FrNet] [Serializer] in
/-- The constructor's numbering is one, as long as the indices are read from link ids at all. -/
theorem Serves.indexed {gateways : Nat} (h : s.Serves gateways) (hm : linkModulus s.routeLength = some m) :
    s.Indexed := by
  have hlt : gateways < 10 ^ 9 := by
    by_contra hge
    rw [h.1, linkModulus_eq_none hge] at hm
    cases hm
  intro i c hc
  have hat : (s.routeClientList.map RpcServerRouteClient.routeId)[i]? = some c.routeId := by
    rw [List.getElem?_map, hc]
    rfl
  rw [h.2, List.getElem?_map] at hat
  obtain ⟨j, hj, hid⟩ := Option.map_eq_some_iff.mp hat
  obtain ⟨hi, heq⟩ := List.getElem?_eq_some_iff.mp hj
  rw [List.getElem_range] at heq
  rw [List.length_range] at hi
  rw [← hid, ← heq]
  exact UInt32.toNat_ofNat_of_lt' (show i < 2 ^ 32 by omega)

omit [Protobuf] [FrNet] [Serializer] in
/-- The client at an index that no link id leads to has no target. -/
theorem Indexed.targetsAt_eq_nil (h : s.Indexed) {i : Nat} {c : RpcServerRouteClient} {linkIds : List LinkID}
    (hc : s.routeClientList[i]? = some c) (hnone : ∀ linkId ∈ linkIds, (gatewayOf m linkId).toNat ≠ i) :
    targetsAt m linkIds c.routeId = [] := by
  refine targetsAt_eq_nil_iff.mpr fun linkId hlink heq => ?_
  rw [← h i c hc, ← heq] at hnone
  exact hnone linkId hlink rfl

/-- **`Send` to a list**: every client sends to its targets, and the result asks the gateways of the link
    ids that there are. -/
theorem sendAll_spec (hm : linkModulus s.routeLength = some m) (hindexed : s.Indexed) (linkIds : List LinkID)
    (rpcMeta : RpcMeta) (body : Bytes) :
    ∃ s' ret, s.sendAll linkIds rpcMeta body = some (s', ret) ∧ s'.routeLength = s.routeLength ∧
      (∀ i : Nat, s'.routeClientList[i]? =
        s.routeClientList[i]?.map fun c => (c.sendPicked m linkIds rpcMeta body).1) ∧
      (ret = true ↔ linkIds ≠ [] ∧ ∀ linkId ∈ linkIds, ∀ c,
        s.routeClientList[(gatewayOf m linkId).toNat]? = some c →
          equalsOk (c.sendPicked m linkIds rpcMeta body).2 = true) := by
  obtain ⟨ids, hids, hnodup, hmem, hempty⟩ := exists_routeIds hm linkIds
  obtain ⟨s', ret, heq, hlength, hclients, hret⟩ :=
    sendEach_spec linkIds rpcMeta body ids.toList hnodup hm (!ids.isEmpty)
  refine ⟨s', ret, by rw [sendAll, hids]; exact heq, hlength, fun i => ?_, ?_⟩
  · rw [hclients]
    split
    · rfl
    · next hnot =>
      cases hc : s.routeClientList[i]? with
      | none => rfl
      | some c =>
        have hnil : targetsAt m linkIds c.routeId = [] := hindexed.targetsAt_eq_nil hc fun linkId hlink hi =>
          hnot ⟨gatewayOf m linkId, (hmem _).mpr ⟨linkId, hlink, rfl⟩, hi⟩
        rw [Option.map_some, RpcServerRouteClient.sendPicked_of_nil hnil]
  · rw [hret, Bool.not_eq_true', ← Bool.not_eq_true, hempty]
    refine and_congr_right fun _ => ?_
    constructor
    · intro hall linkId hlink
      exact hall _ ((hmem _).mpr ⟨linkId, hlink, rfl⟩)
    · intro hall routeId hrouteId
      obtain ⟨linkId, hlink, rfl⟩ := (hmem routeId).mp hrouteId
      exact hall linkId hlink

/-- **`Send` to one link id** goes through the client of its gateway. -/
theorem send_spec (hm : linkModulus s.routeLength = some m) (hindexed : s.Indexed) (linkId : LinkID)
    (rpcMeta : RpcMeta) (body : Bytes) :
    ∃ s' ret, s.send linkId rpcMeta body = some (s', ret) ∧
      (∀ i : Nat, s'.routeClientList[i]? =
        s.routeClientList[i]?.map fun c => (c.sendPicked m [linkId] rpcMeta body).1) ∧
      (ret = true ↔ ∃ c, s.routeClientList[(gatewayOf m linkId).toNat]? = some c ∧
        (c.sendPicked m [linkId] rpcMeta body).2 = true) := by
  have hother : ∀ (i : Nat) c, s.routeClientList[i]? = some c → (gatewayOf m linkId).toNat ≠ i →
      c.sendPicked m [linkId] rpcMeta body = (c, false) := by
    intro i c hc hne
    have hnil : targetsAt m [linkId] c.routeId = [] := hindexed.targetsAt_eq_nil hc (by simpa using hne)
    exact RpcServerRouteClient.sendPicked_of_nil hnil rpcMeta body
  unfold send
  rw [getRouteID_eq hm]
  simp only [Option.bind_eq_bind, Option.bind_some]
  cases hget : s.routeClientList[(gatewayOf m linkId).toNat]? with
  | none =>
    refine ⟨s, false, rfl, fun i => ?_, by simp⟩
    cases hc : s.routeClientList[i]? with
    | none => rfl
    | some c =>
      have hne : (gatewayOf m linkId).toNat ≠ i := by
        rintro rfl
        rw [hget] at hc
        cases hc
      rw [Option.map_some, hother i c hc hne]
  | some client =>
    refine ⟨_, _, sendVia_eq hm _ client [linkId] rpcMeta body, fun i => ?_, by simp⟩
    dsimp only
    rw [getElem?_set_client hget]
    split
    · next hi =>
      subst hi
      rw [hget, Option.map_some]
    · next hne =>
      cases hc : s.routeClientList[i]? with
      | none => rfl
      | some c => rw [Option.map_some, hother i c hc hne]

end RpcServerRoute

end

/-! ## Deliveries -/

/-- The sockets that a client has asked its gateway to deliver to, over all its frames. -/
def RpcServerRouteClient.asked (c : RpcServerRouteClient) : List Socket :=
  c.requests.flatMap RouteNetInfo.targetSockets

/-- Every delivery requested so far: a gateway index and a socket of that gateway. -/
def RpcServerRoute.deliveries (s : RpcServerRoute) : Multiset (Nat × Socket) :=
  tagged RpcServerRouteClient.asked s.routeClientList

/-- The deliveries that a call requests. -/
def requestedBy (s : RpcServerRoute) (call : Option (RpcServerRoute × Bool)) :
    Option (Multiset (Nat × Socket)) :=
  call.map fun result => result.1.deliveries - s.deliveries

section

attribute [local instance] serializesAll

variable [Protobuf] [FrNet] {m : Nat} {s s' : RpcServerRoute} {linkIds : List LinkID} {rpcMeta : RpcMeta}
  {body : Bytes}

/-- One frame for all targets of a client, none without a target. -/
theorem sendPicked_requests (c : RpcServerRouteClient) (linkIds : List LinkID) (rpcMeta : RpcMeta)
    (body : Bytes) : (c.sendPicked m linkIds rpcMeta body).1.requests = c.requests ++
      if targetsAt m linkIds c.routeId = [] then []
      else [⟨false, "", targetsAt m linkIds c.routeId, socketNull⟩] := by
  rw [RpcServerRouteClient.sendPicked, RpcServerRouteClient.sendTo]
  split
  · rw [List.append_nil]
  · rfl

theorem sendPicked_asked (c : RpcServerRouteClient) (linkIds : List LinkID) (rpcMeta : RpcMeta)
    (body : Bytes) :
    (c.sendPicked m linkIds rpcMeta body).1.asked = c.asked ++ targetsAt m linkIds c.routeId := by
  rw [RpcServerRouteClient.asked, sendPicked_requests, List.flatMap_append]
  split
  · next hnil => rw [hnil]; rfl
  · rw [List.flatMap_singleton]; rfl

/-- How often a delivery to `socket` of gateway `i` is requested. -/
theorem count_requested (hclients : ∀ i : Nat, s'.routeClientList[i]? =
      s.routeClientList[i]?.map fun c => (c.sendPicked m linkIds rpcMeta body).1) (i : Nat) (socket : Socket) :
    (s'.deliveries - s.deliveries).count (i, socket)
      = ((s.routeClientList[i]?.map fun c => targetsAt m linkIds c.routeId).getD []).count socket := by
  rw [Multiset.count_sub, RpcServerRoute.deliveries, RpcServerRoute.deliveries, count_tagged, count_tagged,
    hclients]
  cases s.routeClientList[i]? with
  | none => rfl
  | some c =>
    simp only [Option.map_some, Option.getD_some, sendPicked_asked, List.count_append]
    omega

/-! ## Multicast and unicast -/

/-- The sockets that the link ids name at gateway `i`, in their order. -/
def socketsAt (routeLength i : Nat) (linkIds : List LinkID) : List Socket :=
  linkIds.filterMap fun linkId =>
    if (getRouteID routeLength linkId).map UInt32.toNat = some i then getSocket routeLength linkId else none

omit [Protobuf] [FrNet] in
theorem socketsAt_eq (hm : linkModulus s.routeLength = some m) (hindexed : s.Indexed) {i : Nat}
    {c : RpcServerRouteClient} (hc : s.routeClientList[i]? = some c) (linkIds : List LinkID) :
    socketsAt s.routeLength i linkIds = targetsAt m linkIds c.routeId := by
  induction linkIds with
  | nil => rfl
  | cons linkId linkIds ih =>
    have hid : (getRouteID s.routeLength linkId).map UInt32.toNat = some i
        ↔ gatewayOf m linkId = c.routeId := by
      rw [getRouteID_eq hm, Option.map_some, Option.some.injEq, ← hindexed i c hc, UInt32.toNat_inj]
    rw [targetsAt_cons, targetsAt_singleton, ← ih, socketsAt, List.filterMap_cons, getSocket_eq hm]
    by_cases hgateway : gatewayOf m linkId = c.routeId
    · rw [if_pos (hid.mpr hgateway), if_pos hgateway]
      rfl
    · rw [if_neg (fun h => hgateway (hid.mp h)), if_neg hgateway]
      rfl

/-- A frame with this route info. -/
def routeFrameOf (rpcMeta : RpcMeta) (body : Bytes) (routeNetInfo : RouteNetInfo) : Bytes :=
  buildBinaryFromMessage ⟨eNetTypeRoute, serialize routeNetInfo⟩ rpcMeta body

/-- The frames for a list of targets: one, or none without a target. -/
def framesFor (targets : List Socket) : List RouteNetInfo :=
  if targets = [] then [] else [⟨false, "", targets, socketNull⟩]

/-- Client `c` became `c'` by sending one frame with all of these targets, or none without a target. -/
def SentOnce (rpcMeta : RpcMeta) (body : Bytes) (targets : List Socket) (c c' : RpcServerRouteClient) : Prop :=
  c'.requests = c.requests ++ framesFor targets ∧
    c'.sent = c.sent ++ (framesFor targets).map (routeFrameOf rpcMeta body)

theorem sentOnce_sendPicked (c : RpcServerRouteClient) (linkIds : List LinkID) (rpcMeta : RpcMeta)
    (body : Bytes) :
    SentOnce rpcMeta body (targetsAt m linkIds c.routeId) c (c.sendPicked m linkIds rpcMeta body).1 := by
  refine ⟨sendPicked_requests c linkIds rpcMeta body, ?_⟩
  rw [RpcServerRouteClient.sendPicked, RpcServerRouteClient.sendTo, framesFor]
  split
  · exact (List.append_nil _).symm
  · rfl

/-- The deliveries of one `send` a link id, all from the same state. -/
theorem exists_unicasts (hm : linkModulus s.routeLength = some m) (hindexed : s.Indexed)
    (linkIds : List LinkID) (rpcMeta : RpcMeta) (body : Bytes) :
    ∃ ds, (linkIds.mapM fun linkId => requestedBy s (s.send linkId rpcMeta body)) = some ds ∧
      ∀ (i : Nat) socket, ds.sum.count (i, socket)
        = ((s.routeClientList[i]?.map fun c => targetsAt m linkIds c.routeId).getD []).count socket := by
  induction linkIds with
  | nil =>
    refine ⟨[], rfl, fun i socket => ?_⟩
    cases s.routeClientList[i]? with
    | none => rfl
    | some c => rfl
  | cons linkId linkIds ih =>
    obtain ⟨ds, hds, hcount⟩ := ih
    obtain ⟨s', ret, hsend, hclients, _⟩ := RpcServerRoute.send_spec hm hindexed linkId rpcMeta body
    refine ⟨(s'.deliveries - s.deliveries) :: ds, ?_, fun i socket => ?_⟩
    · rw [List.mapM_cons, hds, hsend]
      rfl
    · rw [List.sum_cons, Multiset.count_add, hcount, count_requested hclients]
      cases s.routeClientList[i]? with
      | none => rfl
      | some c =>
        simp only [Option.map_some, Option.getD_some]
        rw [targetsAt_cons linkId linkIds, List.count_append]

omit [Protobuf] [FrNet] in
theorem RpcServerRoute.Serves.of_routeIds {gateways : Nat} (h : s.Serves gateways)
    (hlength : s'.routeLength = s.routeLength)
    (hids : ∀ i : Nat, s'.routeClientList[i]?.map RpcServerRouteClient.routeId
      = s.routeClientList[i]?.map RpcServerRouteClient.routeId) : s'.Serves gateways := by
  refine ⟨hlength.trans h.1, Eq.trans (List.ext_getElem? fun i => ?_) h.2⟩
  rw [List.getElem?_map, List.getElem?_map, hids]

/-- **Multicast delivers like repeated unicast**: the deliveries that a list of link ids requests are those
    of the link ids one by one, as a multiset; and each gateway's client sends at most one frame, with
    exactly the sockets of its own link ids. The clients keep their indices. -/
theorem multicast_deliveries {gateways : Nat} (h : s.Serves gateways) (linkIds : List LinkID)
    (rpcMeta : RpcMeta) (body : Bytes) :
    requestedBy s (s.sendAll linkIds rpcMeta body)
      = (linkIds.mapM fun linkId => requestedBy s (s.send linkId rpcMeta body)).map List.sum ∧
    ∀ s' ret, s.sendAll linkIds rpcMeta body = some (s', ret) → s'.Serves gateways ∧
      ∀ (i : Nat) c, s.routeClientList[i]? = some c → ∃ c', s'.routeClientList[i]? = some c' ∧
        SentOnce rpcMeta body (socketsAt s.routeLength i linkIds) c c' := by
  cases hm : linkModulus s.routeLength with
  | none =>
    cases linkIds with
    | nil =>
      have hnothing : s.sendAll [] rpcMeta body = some (s, false) := rfl
      refine ⟨?_, fun s' ret hsend => ?_⟩
      · rw [hnothing, requestedBy, Option.map_some, tsub_self]
        rfl
      · rw [hnothing] at hsend
        cases hsend
        exact ⟨h, fun i c hc => ⟨c, hc, (List.append_nil _).symm, (List.append_nil _).symm⟩⟩
    | cons linkId linkIds =>
      -- no link id can be taken apart
      have hundefined : s.sendAll (linkId :: linkIds) rpcMeta body = none := by
        rw [RpcServerRoute.sendAll, RpcServerRoute.routeIds, List.foldlM_cons, getRouteID_eq_none hm]
        rfl
      refine ⟨?_, fun s' ret hsend => ?_⟩
      · rw [hundefined, List.mapM_cons, RpcServerRoute.send, getRouteID_eq_none hm]
        rfl
      · rw [hundefined] at hsend
        cases hsend
  | some m =>
    have hindexed := h.indexed hm
    obtain ⟨s', ret, hsend, hlength, hclients, _⟩ :=
      RpcServerRoute.sendAll_spec hm hindexed linkIds rpcMeta body
    refine ⟨?_, fun s₁ ret₁ hsend₁ => ?_⟩
    · obtain ⟨ds, hds, hcount⟩ := exists_unicasts hm hindexed linkIds rpcMeta body
      rw [hsend, hds, requestedBy, Option.map_some, Option.map_some, Option.some.injEq]
      refine Multiset.ext.mpr fun ⟨i, socket⟩ => ?_
      rw [hcount, count_requested hclients]
    · rw [hsend] at hsend₁
      cases hsend₁
      refine ⟨h.of_routeIds hlength fun i => ?_, fun i c hc => ?_⟩
      · rw [hclients, Option.map_map]
        congr 1
        funext c
        exact RpcServerRouteClient.sendTo_routeId c _ rpcMeta body
      · refine ⟨(c.sendPicked m linkIds rpcMeta body).1, by rw [hclients, hc, Option.map_some], ?_⟩
        rw [socketsAt_eq hm hindexed hc]
        exact sentOnce_sendPicked c linkIds rpcMeta body

end

section

attribute [local instance] networkUp serializesAll

/-- Two gateways: a link id of the second one twice, one of the first, and one of neither. -/
theorem multicast_deliveries_two :
    requestedBy (.new 2) ((RpcServerRoute.new 2).sendAll [13, 3, 13, 77] default [7])
      = ([13, 3, 13, 77].mapM fun linkId =>
          requestedBy (.new 2) ((RpcServerRoute.new 2).send linkId default [7])).map List.sum ∧
    requestedBy (.new 2) ((RpcServerRoute.new 2).sendAll [13, 3, 13, 77] default [7])
      = some {(1, 3), (0, 3), (1, 3)} :=
  ⟨(multicast_deliveries (RpcServerRoute.new_serves 2) [13, 3, 13, 77] default [7]).1, by decide⟩

end

end Frrpc
