import Frrpc.Deployment.Correctness.Lengths
import Frrpc.Rpc.Correctness.Multicast

/-!
# `Deployment.Correctness.Sending` — what a server hands to its clients

Each `Send` of a server adds frames to the clients of some gateways and changes nothing else. `SendsMore`
says with which parts.
-/

namespace Frrpc

open Lib Std

namespace RpcServerRoute

/-- Each client has sent what it had sent before, and frames with these parts. -/
structure SendsMore (Q : Nat → FrameParts → Prop) (s s' : RpcServerRoute) : Prop where
  packetQueue : s'.packetQueue = s.packetQueue
  routeLength : s'.routeLength = s.routeLength
  clients : ∀ (i : Nat) client', s'.routeClientList[i]? = some client' →
    ∃ client, s.routeClientList[i]? = some client ∧
      ∀ packet ∈ client'.sent, packet ∈ client.sent ∨ ∃ parts : FrameParts, packet = parts.bytes ∧ Q i parts

variable {Q : Nat → FrameParts → Prop} {s s' s'' : RpcServerRoute}

theorem SendsMore.refl (s : RpcServerRoute) : SendsMore Q s s :=
  ⟨rfl, rfl, fun _ client hget => ⟨client, hget, fun _ hmem => Or.inl hmem⟩⟩

theorem SendsMore.trans (h : SendsMore Q s s') (h' : SendsMore Q s' s'') : SendsMore Q s s'' where
  packetQueue := h'.packetQueue.trans h.packetQueue
  routeLength := h'.routeLength.trans h.routeLength
  clients i client'' hget := by
    obtain ⟨client', hget', hsent'⟩ := h'.clients i client'' hget
    obtain ⟨client, hget, hsent⟩ := h.clients i client' hget'
    exact ⟨client, hget, fun packet hmem => (hsent' packet hmem).elim (hsent packet) Or.inr⟩

/-- One client sends. -/
theorem SendsMore.set {i : Nat} {client client' : RpcServerRouteClient}
    (hget : s.routeClientList[i]? = some client)
    (hsent : ∀ packet ∈ client'.sent,
      packet ∈ client.sent ∨ ∃ parts : FrameParts, packet = parts.bytes ∧ Q i parts) :
    SendsMore Q s { s with routeClientList := s.routeClientList.set i client' } where
  packetQueue := rfl
  routeLength := rfl
  clients j other hother := by
    rw [getElem?_set_client hget] at hother
    split at hother
    · next heq =>
      obtain rfl := Option.some.inj hother
      exact ⟨client, heq ▸ hget, heq ▸ hsent⟩
    · exact ⟨other, hother, fun _ hmem => Or.inl hmem⟩

variable [FrNet]

theorem mem_clientSend {client : RpcServerRouteClient} (parts : FrameParts) {packet : Bytes}
    (hmem : packet ∈ (client.clientSend parts.bytes).1.sent) :
    packet ∈ client.sent ∨ packet = parts.bytes :=
  (List.mem_append.mp hmem).imp_right List.mem_singleton.mp

theorem registerService_clients (s : RpcServerRoute) (serviceName : ServiceName) (serviceAddr : ServiceAddr) :
    (s.registerService serviceName serviceAddr).1.routeClientList
      = s.routeClientList.map fun client => (client.registerService serviceName serviceAddr).1 := by
  have hclients : ∀ (clients : List RpcServerRouteClient),
      (registerEach serviceName serviceAddr clients).1
        = clients.map fun client => (client.registerService serviceName serviceAddr).1 := by
    intro clients
    induction clients with
    | nil => rfl
    | cons client clients ih => rw [registerEach, List.map_cons, ← ih]
  exact hclients s.routeClientList

/-- Every gateway is asked to register a service. -/
theorem sendsMore_registerService (s : RpcServerRoute) (serviceName : ServiceName) (serviceAddr : ServiceAddr) :
    SendsMore (fun _ parts => parts = commandParts eRouteCmdServerServiceRegister
      (serialize (⟨serviceName, serviceAddr⟩ : RouteServiceInfo))) s
      (s.registerService serviceName serviceAddr).1 := by
  refine ⟨rfl, rfl, fun i client' hget => ?_⟩
  rw [registerService_clients, List.getElem?_map] at hget
  obtain ⟨client, hclient, rfl⟩ := Option.map_eq_some_iff.mp hget
  refine ⟨client, hclient, fun packet hmem => ?_⟩
  exact (mem_clientSend (commandParts eRouteCmdServerServiceRegister _) hmem).imp_right
    fun heq => ⟨_, heq, rfl⟩

omit [FrNet] in
/-- The request to disconnect one socket is short. -/
theorem disconnect_representable (socket : Socket) :
    (commandParts eRouteCmdServerDisconnectChannel
      (serialize (⟨[socket]⟩ : ServerDisconnectChannel))).Representable := by
  refine commandParts_representable ?_
  show (encodeFields (bytesField 1 (packed [socket]) ++ [])).length ≤ 60000
  rw [List.append_nil]
  have hpacked : (packed [socket]).length ≤ 10 := packed_length_le [socket]
  have hsocket := bytesField_length_le 1 (by decide) hpacked (by decide)
  omega

/-- One gateway is asked to disconnect a socket. -/
theorem sendsMore_disconnect {s s' : RpcServerRoute} {linkId : LinkID} {ret : Bool}
    (h : s.disconnect linkId = some (s', ret)) :
    SendsMore (fun _ parts => ∃ socket, parts = commandParts eRouteCmdServerDisconnectChannel
      (serialize (⟨[socket]⟩ : ServerDisconnectChannel))) s s' := by
  obtain ⟨routeId, _, h⟩ := Option.bind_eq_some_iff.mp h
  split at h
  · cases h
    exact .refl s
  · next client hget =>
    obtain ⟨⟨client', ret'⟩, hclient, h⟩ := Option.bind_eq_some_iff.mp h
    cases h
    obtain ⟨request, hrequest, heq⟩ := Option.map_eq_some_iff.mp hclient
    obtain ⟨socket, _, rfl⟩ := Option.map_eq_some_iff.mp hrequest
    cases heq
    refine .set hget fun packet hmem => ?_
    exact (mem_clientSend (commandParts eRouteCmdServerDisconnectChannel _) hmem).imp_right
      fun heq => ⟨_, heq, socket, rfl⟩

variable [Serializer] {linkId : LinkID} {linkIds : List LinkID} {rpcMeta : RpcMeta} {body : Bytes} {ret : Bool}

/-- A message goes to the targets that a client picks. -/
theorem sendsMore_sendVia {routeId : RouteID} {client : RpcServerRouteClient}
    (hget : s.routeClientList[routeId.toNat]? = some client)
    (h : s.sendVia routeId client linkIds rpcMeta body = some (s', ret)) :
    SendsMore (fun i parts => i = routeId.toNat ∧ ∃ sockets,
      client.targetSockets s.routeLength linkIds = some sockets ∧
        parts = replyParts sockets rpcMeta body) s s' := by
  obtain ⟨⟨client', ret'⟩, hclient, heq⟩ := Option.map_eq_some_iff.mp h
  cases heq
  obtain ⟨sockets, hsockets, heq⟩ := Option.map_eq_some_iff.mp hclient
  obtain rfl : (client.sendTo sockets rpcMeta body).1 = client' := congrArg Prod.fst heq
  refine .set hget fun packet hmem => ?_
  unfold RpcServerRouteClient.sendTo at hmem
  split at hmem
  · exact Or.inl hmem
  · dsimp only at hmem
    split at hmem
    · exact (mem_clientSend (replyParts sockets rpcMeta body) hmem).imp_right
        fun heq => ⟨_, heq, rfl, sockets, hsockets, rfl⟩
    · exact Or.inl hmem

omit [FrNet] [Serializer] in
/-- The targets are as many as the link ids at most. -/
theorem targetSockets_length {client : RpcServerRouteClient} {routeLength : Nat} {sockets : List Socket}
    (h : client.targetSockets routeLength linkIds = some sockets) : sockets.length ≤ linkIds.length := by
  induction linkIds generalizing sockets with
  | nil =>
    cases h
    exact Nat.le_refl 0
  | cons linkId linkIds ih =>
    obtain ⟨routeId, _, h⟩ := Option.bind_eq_some_iff.mp h
    obtain ⟨socket, _, h⟩ := Option.bind_eq_some_iff.mp h
    obtain ⟨rest, hrest, h⟩ := Option.bind_eq_some_iff.mp h
    have hle := ih hrest
    cases h
    rw [List.length_cons]
    split
    · exact Nat.succ_le_succ hle
    · exact Nat.le_succ_of_le hle

/-- **A message to one link id** goes to the gateway and the socket of the link id. -/
theorem sendsMore_send (h : s.send linkId rpcMeta body = some (s', ret)) :
    SendsMore (fun i parts => ∃ sockets, parts = replyParts sockets rpcMeta body ∧ sockets.length ≤ 1 ∧
      ∀ socket ∈ sockets, (getRouteID s.routeLength linkId).map UInt32.toNat = some i ∧
        getSocket s.routeLength linkId = some socket) s s' := by
  obtain ⟨routeId, hrouteId, h⟩ := Option.bind_eq_some_iff.mp h
  split at h
  · cases h
    exact .refl s
  · next client hget =>
    obtain ⟨hqueue, hlength, hclients⟩ := sendsMore_sendVia hget h
    refine ⟨hqueue, hlength, fun i client' hget' => ?_⟩
    obtain ⟨old, hold, hsent⟩ := hclients i client' hget'
    refine ⟨old, hold, fun packet hmem => (hsent packet hmem).imp_right ?_⟩
    rintro ⟨parts, hparts, rfl, sockets, hsockets, rfl⟩
    refine ⟨_, hparts, sockets, rfl, targetSockets_length hsockets, fun socket hsocket => ?_⟩
    rw [hrouteId, Option.map_some]
    refine ⟨rfl, ?_⟩
    obtain ⟨routeId', _, hsockets⟩ := Option.bind_eq_some_iff.mp hsockets
    obtain ⟨socket', hgetSocket, hsockets⟩ := Option.bind_eq_some_iff.mp hsockets
    rw [hgetSocket]
    simp only [RpcServerRouteClient.targetSockets, Option.bind_eq_bind, Option.bind_some, Option.pure_def,
      Option.some.injEq] at hsockets
    split at hsockets
    · rw [← hsockets] at hsocket
      rw [List.mem_singleton.mp hsocket]
    · rw [← hsockets] at hsocket
      cases hsocket

theorem sendsMore_sendEach {routeIds : List RouteID} {before : Bool}
    (h : sendEach linkIds rpcMeta body routeIds s before = some (s', ret)) :
    SendsMore (fun _ parts => ∃ sockets, parts = replyParts sockets rpcMeta body ∧
      sockets.length ≤ linkIds.length) s s' := by
  induction routeIds generalizing s before with
  | nil =>
    cases h
    exact .refl _
  | cons routeId routeIds ih =>
    unfold sendEach at h
    split at h
    · exact ih h
    · next client hget =>
      obtain ⟨⟨s₁, sent⟩, hvia, h⟩ := Option.bind_eq_some_iff.mp h
      obtain ⟨hqueue, hlength, hclients⟩ := sendsMore_sendVia hget hvia
      refine SendsMore.trans ⟨hqueue, hlength, fun i client' hget' => ?_⟩ (ih h)
      obtain ⟨old, hold, hsent⟩ := hclients i client' hget'
      refine ⟨old, hold, fun packet hmem => (hsent packet hmem).imp_right ?_⟩
      rintro ⟨parts, hparts, _, sockets, hsockets, rfl⟩
      exact ⟨_, hparts, sockets, rfl, targetSockets_length hsockets⟩

/-- **A message to several link ids** goes to as many sockets at most. -/
theorem sendsMore_sendAll (h : s.sendAll linkIds rpcMeta body = some (s', ret)) :
    SendsMore (fun _ parts => ∃ sockets, parts = replyParts sockets rpcMeta body ∧
      sockets.length ≤ linkIds.length) s s' := by
  obtain ⟨ids, _, h⟩ := Option.bind_eq_some_iff.mp h
  exact sendsMore_sendEach h

end RpcServerRoute

end Frrpc
