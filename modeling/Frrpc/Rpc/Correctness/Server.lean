import Frrpc.Rpc.Server

/-!
# `Rpc.Correctness.Server` — who is answered by a work thread

`SendResponse` reads the link and the request id from the controller and the message that all requests of a
thread share. They belong to the invocation that has not returned (`Serving`), so a closure that is run by
another one, or again, answers the wrong request or answers twice; one that is run between two requests finds
the message incomplete and sends nothing.
-/

namespace Frrpc

open Lib Std

namespace ServerWorker

/-- **Every response carries the request id and the link of its invocation, and none is answered twice.** -/
structure Answers (s : ServerWorker) : Prop where
  right : ∀ response ∈ s.sent, ∃ package, s.invocations[response.invocation]? = some package ∧
    response.rpcMeta.rpcRequestMeta.requestId = package.rpcMeta.rpcRequestMeta.requestId ∧
    response.linkId = package.linkId
  once : (s.sent.map Response.invocation).Nodup

/-- While an invocation has not returned, it alone runs the closure, and only once. -/
def RunsOwn (s : ServerWorker) : Event → Prop
  | .run invocation => s.current ≠ none → s.current = some invocation ∧ invocation ∉ s.runs
  | _ => True

/-- The controller and the message belong to the invocation that has not returned; without one the message
    is incomplete. Only a run of the closure answers. -/
structure Serving (s : ServerWorker) : Prop where
  answers : s.Answers
  owner : ∀ i, s.current = some i → ∃ package, s.invocations[i]? = some package ∧
    s.rpcMessage.rpcMeta.rpcRequestMeta.requestId = package.rpcMeta.rpcRequestMeta.requestId ∧
    s.cntl.linkId = package.linkId
  idle : s.current = none → s.rpcMessage.isCompleted = false
  ran : ∀ response ∈ s.sent, response.invocation ∈ s.runs

theorem serving_started (name2Service : ExtTreeMap ServiceName Service) :
    (started name2Service).Serving := by
  refine ⟨⟨?_, List.nodup_nil⟩, ?_, fun _ => rfl, ?_⟩
  · intro response h
    cases h
  · intro i h
    cases h
  · intro response h
    cases h

/-- A parsed message is complete and carries the meta of its packet. -/
theorem parseBinary_cases {name2Service : ExtTreeMap ServiceName Service} {packet : RpcPacket}
    {message : RpcMessage} {parsed : Bool} (h : parseBinary name2Service packet = some (message, parsed)) :
    parsed = message.isCompleted ∧ (parsed = true → message.rpcMeta = packet.rpcMeta) := by
  unfold parseBinary at h
  split at h
  · obtain ⟨rfl, rfl⟩ := Prod.mk.inj (Option.some.inj h)
    exact ⟨rfl, nofun⟩
  · obtain ⟨methodDescriptor, _, h⟩ := Option.bind_eq_some_iff.mp h
    obtain ⟨binary, _, h⟩ := Option.bind_eq_some_iff.mp h
    obtain ⟨rfl, rfl⟩ := Prod.mk.inj (Option.some.inj h)
    refine ⟨rfl, ?_⟩
    intro hcomplete
    split at hcomplete
    · next hparses => rw [if_pos hparses]
    · cases hcomplete

/-- A packet is served, or leaves an incomplete message. -/
theorem receive_cases {s s' : ServerWorker} {package : RpcPacket} (h : s.receive package = some s') :
    (∃ rpcMessage : RpcMessage, rpcMessage.rpcMeta = package.rpcMeta ∧
      s' = { s with
        cntl := { s.cntl with linkId := package.linkId }
        rpcMessage
        invocations := s.invocations ++ [package]
        current := some s.invocations.length }) ∨
    ∃ rpcMessage : RpcMessage, (rpcMessage = s.rpcMessage ∨ rpcMessage.isCompleted = false) ∧
      s' = { s with cntl := { s.cntl with linkId := package.linkId }, rpcMessage } := by
  unfold receive at h
  dsimp only at h
  split at h
  · obtain ⟨⟨message, parsed⟩, hparse, h⟩ := Option.bind_eq_some_iff.mp h
    obtain ⟨hparsed, hmeta⟩ := parseBinary_cases hparse
    dsimp only at h
    split at h
    · next htrue =>
      obtain rfl := Option.some.inj h
      exact Or.inl ⟨message, hmeta htrue, rfl⟩
    · next hfalse =>
      obtain rfl := Option.some.inj h
      refine Or.inr ⟨message, Or.inr ?_, rfl⟩
      rw [← hparsed]
      exact Bool.eq_false_iff.mpr hfalse
  · obtain rfl := Option.some.inj h
    exact Or.inr ⟨s.rpcMessage, Or.inl rfl, rfl⟩

/-- **What a run of the closure sends**: nothing, or one response with the link of the controller and the
    request id of the message. -/
theorem sendResponse_cases (s : ServerWorker) (invocation : Nat) :
    s.sendResponse invocation = s ∨
    (s.rpcMessage.isCompleted = true ∧ ∃ (rpcMessage : RpcMessage) (response : Response),
      rpcMessage.rpcMeta.requestMeta = s.rpcMessage.rpcMeta.requestMeta ∧
      response.invocation = invocation ∧ response.linkId = s.cntl.linkId ∧
      response.rpcMeta.requestMeta = s.rpcMessage.rpcMeta.requestMeta ∧
      s.sendResponse invocation = { s with rpcMessage, sent := s.sent ++ [response] }) := by
  unfold sendResponse
  split
  · exact Or.inl rfl
  · split
    · exact Or.inl rfl
    · next hcomplete =>
      rw [Bool.not_eq_true', Bool.not_eq_false] at hcomplete
      refine Or.inr ⟨hcomplete, _, _, ?_, ?_, ?_, ?_, rfl⟩ <;> rfl

/-- An answered invocation keeps its packet. -/
theorem answers_append {s : ServerWorker} (h : s.Answers) (package : RpcPacket) :
    ∀ response ∈ s.sent, ∃ package', (s.invocations ++ [package])[response.invocation]? = some package' ∧
      response.rpcMeta.rpcRequestMeta.requestId = package'.rpcMeta.rpcRequestMeta.requestId ∧
      response.linkId = package'.linkId := by
  intro response hmem
  obtain ⟨package', hget, hright⟩ := h.right response hmem
  refine ⟨package', ?_, hright⟩
  rw [List.getElem?_append_left (List.getElem?_eq_some_iff.mp hget).1]
  exact hget

theorem serving_receive {s s' : ServerWorker} {package : RpcPacket} (h : s.Serving)
    (hidle : s.current = none) (hstep : s.receive package = some s') : s'.Serving := by
  rcases receive_cases hstep with ⟨rpcMessage, hmeta, rfl⟩ | ⟨rpcMessage, hincomplete, rfl⟩
  · refine ⟨⟨answers_append h.answers package, h.answers.once⟩, ?_, nofun, h.ran⟩
    intro i hcurrent
    obtain rfl := Option.some.inj hcurrent
    refine ⟨package, List.getElem?_concat_length, ?_, rfl⟩
    show rpcMessage.rpcMeta.rpcRequestMeta.requestId = _
    rw [hmeta]
  · refine ⟨⟨h.answers.right, h.answers.once⟩, ?_, ?_, h.ran⟩
    · intro i hcurrent
      rw [show s.current = some i from hcurrent] at hidle
      cases hidle
    · intro _
      rcases hincomplete with rfl | hincomplete
      · exact h.idle hidle
      · exact hincomplete

theorem rpcRequestMeta_congr {m m' : RpcMeta} (h : m.requestMeta = m'.requestMeta) :
    m.rpcRequestMeta = m'.rpcRequestMeta := by
  rw [RpcMeta.rpcRequestMeta, RpcMeta.rpcRequestMeta, h]

/-- **A run by the invocation that has not returned answers it**; between requests nothing is sent. -/
theorem serving_run {s : ServerWorker} {invocation : Nat} (h : s.Serving)
    (hown : s.RunsOwn (.run invocation)) :
    ServerWorker.Serving { s.sendResponse invocation with runs := s.runs ++ [invocation] } := by
  rcases s.sendResponse_cases invocation with heq | ⟨hcomplete, rpcMessage, response, hmeta, hinvocation,
    hlink, hresponse, heq⟩
  · rw [heq]
    refine ⟨⟨h.answers.right, h.answers.once⟩, h.owner, h.idle, ?_⟩
    intro response hmem
    exact List.mem_append_left _ (h.ran response hmem)
  · rw [heq]
    have hbusy : s.current ≠ none := by
      intro hidle
      rw [h.idle hidle] at hcomplete
      cases hcomplete
    obtain ⟨hcurrent, hfirst⟩ := hown hbusy
    obtain ⟨package, hget, hid, hlinkId⟩ := h.owner invocation hcurrent
    refine ⟨⟨?_, ?_⟩, ?_, ?_, ?_⟩
    · intro other hmem
      rcases List.mem_append.mp hmem with hold | hnew
      · exact h.answers.right other hold
      · obtain rfl := List.mem_singleton.mp hnew
        refine ⟨package, hinvocation ▸ hget, ?_, hlink.trans hlinkId⟩
        rw [rpcRequestMeta_congr hresponse, hid]
    · -- the invocation had not run the closure, so it was not answered
      show ((s.sent ++ [response]).map Response.invocation).Nodup
      rw [List.map_append, List.map_singleton, hinvocation]
      refine List.nodup_append.mpr ⟨h.answers.once, List.nodup_cons.mpr ⟨List.not_mem_nil, List.nodup_nil⟩, ?_⟩
      rintro i hi j hj rfl
      obtain rfl := List.mem_singleton.mp hj
      obtain ⟨answered, hmem, rfl⟩ := List.mem_map.mp hi
      exact hfirst (h.ran answered hmem)
    · intro i hi
      obtain ⟨package', hget', hid', hlinkId'⟩ := h.owner i hi
      exact ⟨package', hget', (congrArg _ (rpcRequestMeta_congr hmeta)).trans hid', hlinkId'⟩
    · intro hidle
      exact absurd hidle hbusy
    · intro other hmem
      rcases List.mem_append.mp hmem with hold | hnew
      · exact List.mem_append_left _ (h.ran other hold)
      · obtain rfl := List.mem_singleton.mp hnew
        exact List.mem_append_right _ (List.mem_singleton.mpr hinvocation)

theorem serving_step {s s' : ServerWorker} {e : Event} (h : s.Serving) (hown : s.RunsOwn e)
    (hstep : step s e = some s') : s'.Serving := by
  cases e with
  | receive package =>
    simp only [step] at hstep
    split at hstep
    · next hidle => exact serving_receive h hidle hstep
    · cases hstep
  | setFailed reason =>
    simp only [step] at hstep
    split at hstep
    · cases hstep
    · obtain rfl := Option.some.inj hstep
      exact ⟨⟨h.answers.right, h.answers.once⟩, h.owner, h.idle, h.ran⟩
  | respond body =>
    simp only [step] at hstep
    split at hstep
    · cases hstep
    · next hbusy =>
      obtain rfl := Option.some.inj hstep
      exact ⟨⟨h.answers.right, h.answers.once⟩, h.owner, fun hidle => absurd hidle hbusy, h.ran⟩
  | run invocation =>
    simp only [step] at hstep
    split at hstep
    · obtain rfl := Option.some.inj hstep
      exact serving_run h hown
    · cases hstep
  | finish =>
    simp only [step] at hstep
    split at hstep
    · cases hstep
    · obtain rfl := Option.some.inj hstep
      exact ⟨⟨h.answers.right, h.answers.once⟩, nofun, fun _ => rfl, h.ran⟩

/-- **A work thread answers each request at most once and to the right client** in every run in which, while
    an invocation has not returned, nobody but its handler runs the closure, and that only once. -/
theorem worker_answers {name2Service : ExtTreeMap ServiceName Service} {s : ServerWorker}
    (hrun : Reaches step RunsOwn (started name2Service) s) : s.Answers := by
  have h : s.Serving := by
    apply hrun.invariant (serving_started name2Service)
    intro s e s' hown hserving hstep
    exact serving_step hserving hown hstep
  exact h.answers

/-- A service with one method, which parses any body. -/
def echoService : ExtTreeMap ServiceName Service :=
  (∅ : ExtTreeMap ServiceName Service).insert "S" ⟨[⟨fun _ => true⟩]⟩

def requestPacket (linkId : LinkID) (requestId : RpcRequestId) : RpcPacket :=
  ⟨linkId, .method, ⟨"S", 0, some ⟨requestId⟩, none, 0⟩, some []⟩

/-- One request, answered before its invocation returns. -/
theorem worker_answers_inline :
    ∃ s, Reaches step RunsOwn (started echoService) s ∧
      s.sent.map (fun response => (response.invocation, response.linkId, response.body)) = [(0, 7, [5])] ∧
      s.Answers := by
  have hresult : (exec step (started echoService) [.receive (requestPacket 7 1), .respond [5]]).map
      (fun s => (s.current, s.runs)) = some (some 0, []) := by
    decide
  have hfinal : (exec step (started echoService)
      ([.receive (requestPacket 7 1), .respond [5]] ++ [.run 0, .finish])).map
      (fun s => s.sent.map fun response => (response.invocation, response.linkId, response.body))
      = some [(0, 7, [5])] := by
    decide
  obtain ⟨s, hexec, hs⟩ := Option.map_eq_some_iff.mp hresult
  obtain ⟨s', hexec', hsent⟩ := Option.map_eq_some_iff.mp hfinal
  rw [exec_append, hexec] at hexec'
  have hexec' : exec step s [.run 0, .finish] = some s' := hexec'
  obtain ⟨s₁, hstep, hrest⟩ := Option.bind_eq_some_iff.mp hexec'
  obtain ⟨hcurrent, hruns⟩ := Prod.mk.inj hs
  have hown : s.RunsOwn (.run 0) := fun _ => ⟨hcurrent, by rw [hruns]; exact List.not_mem_nil⟩
  have hbefore : Reaches step RunsOwn (started echoService) s :=
    reaches_exec_of hexec (by simp [RunsOwn])
  have hafter : Reaches step RunsOwn s₁ s' := reaches_exec_of hrest (by simp [RunsOwn])
  have hrun := (hbefore.snoc hown hstep).trans hafter
  exact ⟨s', hrun, hsent, worker_answers hrun⟩

/-- **A handler that runs the closure twice answers twice**, and one that runs it during the next request
    answers that one. -/
theorem worker_not_answers :
    (∃ s, Reaches step anyStep (started echoService) s ∧
      s.sent.map Response.invocation = [0, 0] ∧ ¬ s.Answers) ∧
    ∃ s, Reaches step anyStep (started echoService) s ∧
      s.sent.map (fun response => (response.invocation, response.linkId)) = [(0, 8)] ∧
      s.invocations.map RpcPacket.linkId = [7, 8] ∧ ¬ s.Answers := by
  constructor
  · have hresult : (exec step (started echoService)
        [.receive (requestPacket 7 1), .run 0, .run 0, .finish]).map (fun s => s.sent.map Response.invocation)
        = some [0, 0] := by
      decide
    obtain ⟨s, hexec, hsent⟩ := Option.map_eq_some_iff.mp hresult
    refine ⟨s, reaches_exec hexec, hsent, ?_⟩
    intro hanswers
    have honce := hanswers.once
    rw [hsent] at honce
    revert honce
    decide
  · have hresult : (exec step (started echoService)
        [.receive (requestPacket 7 1), .finish, .receive (requestPacket 8 2), .run 0]).map
        (fun s => (s.sent.map (fun response => (response.invocation, response.linkId)),
          s.invocations.map RpcPacket.linkId))
        = some ([(0, 8)], [7, 8]) := by
      decide
    obtain ⟨s, hexec, hs⟩ := Option.map_eq_some_iff.mp hresult
    obtain ⟨hsent, hlinks⟩ := Prod.mk.inj hs
    refine ⟨s, reaches_exec hexec, hsent, hlinks, ?_⟩
    intro hanswers
    obtain ⟨response, hmem, hresponse⟩ : ∃ response ∈ s.sent,
        (response.invocation, response.linkId) = ((0 : Nat), (8 : LinkID)) := by
      apply List.mem_map.mp
      rw [hsent]
      exact List.mem_singleton.mpr rfl
    obtain ⟨hinvocation, hlink⟩ := Prod.mk.inj hresponse
    obtain ⟨package, hget, _, hright⟩ := hanswers.right response hmem
    have hfirst : (s.invocations.map RpcPacket.linkId)[0]? = some package.linkId := by
      rw [List.getElem?_map, ← hinvocation, hget]
      rfl
    rw [hlinks, ← hright, hlink] at hfirst
    revert hfirst
    decide

end ServerWorker

end Frrpc
