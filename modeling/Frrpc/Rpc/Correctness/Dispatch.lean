import Frrpc.Rpc.Correctness.Server

/-!
# `Rpc.Correctness.Dispatch` — what a remote peer can do to a work thread

A peer chooses the service name, the method index, the request id and the body. All but the index are
checked before they are used, so a packet is dispatched or rejected as it should be exactly when its index is
in the table of its service, or the service is not known (`dispatched_iff`). A rejected packet leaves its link
and the remains of a message behind, which nothing reads: from there on the thread goes on as if the packet
had not come (`alike_rejected`).
-/

namespace Frrpc

open Lib Std

/-! ## `ParseBinary` -/

/-- What `ParseBinary` should accept. -/
structure Acceptable (name2Service : ExtTreeMap ServiceName Service) (package : RpcPacket) (body : Bytes)
    (service : Service) (method : MethodDescriptor) : Prop where
  known : getServiceFromName name2Service package.rpcMeta.serviceName = some service
  nonneg : 0 ≤ package.rpcMeta.methodIndex.toInt
  lt : package.rpcMeta.methodIndex.toInt.toNat < service.methods.length
  found : service.method package.rpcMeta.methodIndex = some method
  parses : method.parses body = true
  requestId : package.rpcMeta.rpcRequestMeta.requestId ≠ rpcRequestIdNull

/-- A known service has the method. -/
def InTable (name2Service : ExtTreeMap ServiceName Service) (package : RpcPacket) : Prop :=
  ∀ service, getServiceFromName name2Service package.rpcMeta.serviceName = some service →
    0 ≤ package.rpcMeta.methodIndex.toInt ∧
      package.rpcMeta.methodIndex.toInt.toNat < service.methods.length

theorem method_eq_some_iff (service : Service) (index : Int32) :
    (∃ method, service.method index = some method) ↔
      0 ≤ index.toInt ∧ index.toInt.toNat < service.methods.length := by
  unfold Service.method
  by_cases hnonneg : 0 ≤ index.toInt
  · rw [if_pos hnonneg, and_iff_right hnonneg]
    constructor
    · rintro ⟨method, hmethod⟩
      exact (List.getElem?_eq_some_iff.mp hmethod).1
    · intro hlt
      exact ⟨_, List.getElem?_eq_getElem hlt⟩
  · rw [if_neg hnonneg]
    exact ⟨nofun, fun h => absurd h.1 hnonneg⟩

section

variable {name2Service : ExtTreeMap ServiceName Service} {package : RpcPacket} {body : Bytes}

/-- With a body there, only the method table is relied on. -/
theorem parseBinary_known {service : Service} (hbody : package.binary = some body)
    (hservice : getServiceFromName name2Service package.rpcMeta.serviceName = some service) :
    parseBinary name2Service package
      = (service.method package.rpcMeta.methodIndex).map fun method =>
          if method.parses body then
            (⟨package.rpcMeta, some method, some body, some []⟩,
              decide (package.rpcMeta.rpcRequestMeta.requestId ≠ rpcRequestIdNull))
          else (.clear, false) := by
  rw [parseBinary, hservice]
  cases hmethod : service.method package.rpcMeta.methodIndex with
  | none => simp only [hmethod]; rfl
  | some method =>
    simp only [hmethod, hbody, Option.bind_eq_bind, Option.bind_some, Option.map_some, pure]
    split
    · simp [RpcMessage.isCompleted]
    · rfl

theorem parseBinary_unknown (hservice : getServiceFromName name2Service package.rpcMeta.serviceName = none) :
    parseBinary name2Service package = some (.clear, false) := by
  rw [parseBinary, hservice]

/-- **`ParseBinary` is defined exactly for a method of the table**, if the service is known. -/
theorem parseBinary_isSome_iff (hbody : package.binary = some body) :
    (∃ result, parseBinary name2Service package = some result) ↔ InTable name2Service package := by
  unfold InTable
  cases hservice : getServiceFromName name2Service package.rpcMeta.serviceName with
  | none =>
    rw [parseBinary_unknown hservice]
    exact iff_of_true ⟨_, rfl⟩ nofun
  | some service =>
    rw [parseBinary_known hbody hservice]
    have htable := method_eq_some_iff service package.rpcMeta.methodIndex
    constructor
    · rintro ⟨result, hresult⟩ service' hsame
      obtain rfl := Option.some.inj hsame
      obtain ⟨method, hmethod, _⟩ := Option.map_eq_some_iff.mp hresult
      exact htable.mp ⟨method, hmethod⟩
    · intro h
      obtain ⟨method, hmethod⟩ := htable.mpr (h service rfl)
      rw [hmethod]
      exact ⟨_, rfl⟩

/-- **Where it is defined, it returns `true` exactly for what it should accept.** -/
theorem parseBinary_true_iff (hbody : package.binary = some body) {message : RpcMessage} {parsed : Bool}
    (h : parseBinary name2Service package = some (message, parsed)) :
    parsed = true ↔ ∃ service method, Acceptable name2Service package body service method := by
  cases hservice : getServiceFromName name2Service package.rpcMeta.serviceName with
  | none =>
    rw [parseBinary_unknown hservice] at h
    obtain ⟨_, rfl⟩ := Prod.mk.inj (Option.some.inj h)
    refine iff_of_false nofun ?_
    rintro ⟨service, method, haccepts⟩
    have hknown := haccepts.known
    rw [hservice] at hknown
    cases hknown
  | some service =>
    rw [parseBinary_known hbody hservice] at h
    obtain ⟨method, hmethod, h⟩ := Option.map_eq_some_iff.mp h
    obtain ⟨hnonneg, hlt⟩ := (method_eq_some_iff service package.rpcMeta.methodIndex).mp ⟨method, hmethod⟩
    have hone : ∀ service' method',
        Acceptable name2Service package body service' method' → method' = method := by
      intro service' method' haccepts
      obtain rfl := Option.some.inj (hservice.symm.trans haccepts.known)
      exact Option.some.inj (haccepts.found.symm.trans hmethod)
    split at h
    · next hparses =>
      obtain ⟨_, rfl⟩ := Prod.mk.inj h
      rw [decide_eq_true_eq]
      constructor
      · exact fun hid => ⟨service, method, hservice, hnonneg, hlt, hmethod, hparses, hid⟩
      · rintro ⟨_, _, haccepts⟩
        exact haccepts.requestId
    · next hparses =>
      obtain ⟨_, rfl⟩ := Prod.mk.inj h
      refine iff_of_false nofun ?_
      rintro ⟨service', method', haccepts⟩
      have hmethod' := hone service' method' haccepts
      exact hparses (hmethod' ▸ haccepts.parses)

end

/-! ## The thread behind it -/

namespace ServerWorker

/-- What can be told of a thread: the packets that were dispatched, the handler that is running with the
    controller and the message it has got, the runs of the closure and the responses. -/
def observe (s : ServerWorker) :
    List RpcPacket × Option (Nat × ServerController × RpcMessage) × List Nat × List Response :=
  (s.invocations, s.current.map fun i => (i, s.cntl, s.rpcMessage), s.runs, s.sent)

/-- **A packet is dispatched or rejected as it should be**: the method looked up is in the table, the packet
    is parsed exactly if it should be accepted, and a rejected one calls no handler, sends nothing, and makes
    no difference to anything that comes later. -/
structure Dispatched (s : ServerWorker) (package : RpcPacket) (body : Bytes) : Prop where
  result : ∃ message parsed, parseBinary s.name2Service package = some (message, parsed) ∧
    (parsed = true ↔ ∃ service method, Acceptable s.name2Service package body service method)
  rejected : ∀ message, parseBinary s.name2Service package = some (message, false) →
    ∃ s', s.step (.receive package) = some s' ∧ s'.observe = s.observe ∧
      ∀ es, (exec step s' es).map observe = (exec step s es).map observe

/-- Two threads that cannot be told apart: between two requests their controllers may have different links,
    and their messages differ as long as both are incomplete. -/
structure Alike (s t : ServerWorker) : Prop where
  name2Service : s.name2Service = t.name2Service
  invocations : s.invocations = t.invocations
  current : s.current = t.current
  runs : s.runs = t.runs
  sent : s.sent = t.sent
  error : s.cntl.error = t.cntl.error
  busy : s.current ≠ none → s.cntl = t.cntl ∧ s.rpcMessage = t.rpcMessage
  idle : s.current = none → s.rpcMessage.isCompleted = false ∧ t.rpcMessage.isCompleted = false

theorem Alike.refl {s : ServerWorker} (h : s.current = none → s.rpcMessage.isCompleted = false) : Alike s s :=
  ⟨rfl, rfl, rfl, rfl, rfl, rfl, fun _ => ⟨rfl, rfl⟩, fun hidle => ⟨h hidle, h hidle⟩⟩

theorem Alike.observe_eq {s t : ServerWorker} (h : Alike s t) : s.observe = t.observe := by
  unfold observe
  rw [h.invocations, h.runs, h.sent]
  cases hcurrent : s.current with
  | none => rw [← h.current, hcurrent]; rfl
  | some i =>
    obtain ⟨hcntl, hmessage⟩ := h.busy (by rw [hcurrent]; nofun)
    rw [← h.current, hcurrent, hcntl, hmessage]

/-- A thread between two requests has an incomplete message. -/
def Ready (s : ServerWorker) : Prop := s.current = none → s.rpcMessage.isCompleted = false

theorem Ready.step {s s' : ServerWorker} {e : Event} (h : s.Ready) (hstep : s.step e = some s') :
    s'.Ready := by
  intro hidle
  cases e with
  | receive package =>
    simp only [ServerWorker.step] at hstep
    split at hstep
    · next hbefore =>
      rcases receive_cases hstep with ⟨rpcMessage, _, rfl⟩ | ⟨rpcMessage, hmessage, rfl⟩
      · cases hidle
      · rcases hmessage with rfl | hincomplete
        · exact h hbefore
        · exact hincomplete
    · cases hstep
  | setFailed reason =>
    simp only [ServerWorker.step] at hstep
    split at hstep
    · cases hstep
    · obtain rfl := Option.some.inj hstep
      exact h hidle
  | respond body =>
    simp only [ServerWorker.step] at hstep
    split at hstep
    · cases hstep
    · next hbusy =>
      obtain rfl := Option.some.inj hstep
      exact absurd hidle hbusy
  | run invocation =>
    simp only [ServerWorker.step] at hstep
    split at hstep
    · obtain rfl := Option.some.inj hstep
      rcases s.sendResponse_cases invocation with heq | ⟨hcomplete, _, _, _, _, _, _, heq⟩
      · rw [heq] at hidle ⊢
        exact h hidle
      · rw [heq] at hidle
        rw [h hidle] at hcomplete
        cases hcomplete
    · cases hstep
  | finish =>
    simp only [ServerWorker.step] at hstep
    split at hstep
    · cases hstep
    · obtain rfl := Option.some.inj hstep
      rfl

theorem name2Service_step {s s' : ServerWorker} {e : Event} (hstep : s.step e = some s') :
    s'.name2Service = s.name2Service := by
  cases e with
  | receive package =>
    simp only [ServerWorker.step] at hstep
    split at hstep
    · rcases receive_cases hstep with ⟨_, _, rfl⟩ | ⟨_, _, rfl⟩
      · rfl
      · rfl
    · cases hstep
  | run invocation =>
    simp only [ServerWorker.step] at hstep
    split at hstep
    · obtain rfl := Option.some.inj hstep
      rcases s.sendResponse_cases invocation with heq | ⟨_, _, _, _, _, _, _, heq⟩
      · rw [heq]
      · rw [heq]
    · cases hstep
  | setFailed reason | respond body | finish =>
    simp only [ServerWorker.step] at hstep
    split at hstep
    · cases hstep
    · obtain rfl := Option.some.inj hstep
      rfl

/-- The services are those that were there when the threads were started. -/
theorem name2Service_reachable {name2Service : ExtTreeMap ServiceName Service} {s : ServerWorker}
    (hrun : Reaches step anyStep (started name2Service) s) : s.name2Service = name2Service := by
  apply hrun.invariant
  · rfl
  · intro s e s' _ h hstep
    exact (name2Service_step hstep).trans h

theorem ready_reachable {name2Service : ExtTreeMap ServiceName Service} {s : ServerWorker}
    (hrun : Reaches step anyStep (started name2Service) s) : s.Ready :=
  hrun.invariant (fun _ => rfl) fun _ _ _ _ h hstep => h.step hstep

/-- An incomplete message is not sent. -/
theorem sendResponse_incomplete {s : ServerWorker} (h : s.rpcMessage.isCompleted = false) (invocation : Nat) :
    s.sendResponse invocation = s := by
  rcases s.sendResponse_cases invocation with heq | ⟨hcomplete, _⟩
  · exact heq
  · rw [h] at hcomplete
    cases hcomplete

/-- A packet finds the same threads, and leaves the same. -/
theorem Alike.receive {s t : ServerWorker} (h : Alike s t) (hidle : s.current = none) (package : RpcPacket) :
    Option.Rel Alike (s.receive package) (t.receive package) := by
  have hidle' : t.current = none := h.current ▸ hidle
  obtain ⟨hs, ht⟩ := h.idle hidle
  unfold ServerWorker.receive
  dsimp only
  split
  · -- the message is parsed from the packet alone, and the link is set to its link
    rw [show parseBinary t.name2Service package = parseBinary s.name2Service package by rw [h.name2Service]]
    cases hparse : parseBinary s.name2Service package with
    | none => exact .none
    | some result =>
      obtain ⟨message, parsed⟩ := result
      obtain ⟨hparsed, _⟩ := parseBinary_cases hparse
      have hcntl : (⟨package.linkId, s.cntl.error⟩ : ServerController) = ⟨package.linkId, t.cntl.error⟩ := by
        rw [h.error]
      cases parsed with
      | true =>
        refine .some ⟨h.name2Service, ?_, ?_, h.runs, h.sent, h.error, fun _ => ⟨hcntl, rfl⟩, nofun⟩
        · exact congrArg (· ++ [package]) h.invocations
        · exact congrArg (fun xs : List RpcPacket => some xs.length) h.invocations
      | false =>
        refine .some ⟨h.name2Service, h.invocations, h.current, h.runs, h.sent, h.error, ?_, ?_⟩
        · exact fun hbusy => absurd hidle hbusy
        · exact fun _ => ⟨hparsed.symm, hparsed.symm⟩
  · refine .some ⟨h.name2Service, h.invocations, h.current, h.runs, h.sent, h.error, ?_, ?_⟩
    · exact fun hbusy => absurd hidle hbusy
    · exact fun _ => ⟨hs, ht⟩

/-- **Every event is the same to two such threads**, and leaves two such threads. -/
theorem Alike.step {s t : ServerWorker} (h : Alike s t) (e : Event) :
    Option.Rel Alike (s.step e) (t.step e) := by
  by_cases hidle : s.current = none
  · have hidle' : t.current = none := h.current ▸ hidle
    obtain ⟨hs, ht⟩ := h.idle hidle
    cases e with
    | receive package =>
      rw [ServerWorker.step, ServerWorker.step, if_pos hidle, if_pos hidle']
      exact h.receive hidle package
    | run invocation =>
      rw [ServerWorker.step, ServerWorker.step, ← h.invocations, sendResponse_incomplete hs,
        sendResponse_incomplete ht]
      split
      · refine .some ⟨h.name2Service, h.invocations, h.current, ?_, h.sent, h.error, ?_, h.idle⟩
        · exact congrArg (· ++ [invocation]) h.runs
        · exact fun hbusy => absurd hidle hbusy
      · exact .none
    | setFailed reason => rw [ServerWorker.step, ServerWorker.step, if_pos hidle, if_pos hidle']; exact .none
    | respond body => rw [ServerWorker.step, ServerWorker.step, if_pos hidle, if_pos hidle']; exact .none
    | finish => rw [ServerWorker.step, ServerWorker.step, if_pos hidle, if_pos hidle']; exact .none
  · -- while a handler runs, the threads are the same
    have heq : s = t := by
      obtain ⟨hcntl, hmessage⟩ := h.busy hidle
      obtain ⟨hservices, hinvocations, hcurrent, hruns, hsent, -, -, -⟩ := h
      cases s
      cases t
      simp_all
    subst heq
    cases hstep : s.step e with
    | none => exact .none
    | some s' =>
      have hready : s.Ready := fun hnone => absurd hnone hidle
      exact .some (.refl (hready.step hstep))

/-- **A rejected packet leaves a thread that cannot be told from one it did not come to.** -/
theorem alike_rejected {s : ServerWorker} (hready : s.Ready) (hidle : s.current = none) {package : RpcPacket}
    (hmethod : package.netEvent = .method) {message : RpcMessage}
    (hparse : parseBinary s.name2Service package = some (message, false)) :
    ∃ s', s.step (.receive package) = some s' ∧ Alike s' s := by
  refine ⟨{ s with cntl := { s.cntl with linkId := package.linkId }, rpcMessage := message }, ?_, ?_⟩
  · rw [ServerWorker.step, if_pos hidle, receive]
    dsimp only
    rw [if_pos hmethod, hparse]
    rfl
  · refine ⟨rfl, rfl, rfl, rfl, rfl, rfl, fun hbusy => absurd hidle hbusy, fun _ => ⟨?_, hready hidle⟩⟩
    exact (parseBinary_cases hparse).1.symm

theorem Alike.observe_exec {s t : ServerWorker} (h : Alike s t) (es : List Event) :
    (exec ServerWorker.step s es).map observe = (exec ServerWorker.step t es).map observe := by
  have hrel := exec_lockstep (fun _ _ e h => Alike.step h e) h es
  cases hs : exec ServerWorker.step s es with
  | none =>
    rw [hs] at hrel
    cases ht : exec ServerWorker.step t es with
    | none => rfl
    | some t' => rw [ht] at hrel; cases hrel
  | some s' =>
    rw [hs] at hrel
    cases ht : exec ServerWorker.step t es with
    | none => rw [ht] at hrel; cases hrel
    | some t' =>
      rw [ht] at hrel
      cases hrel with
      | some h' => exact congrArg some h'.observe_eq

/-- **A method packet with a body is dispatched or rejected as it should be exactly when its method is in the
    table**, whatever the services and whatever the thread has done before. -/
theorem dispatched_iff {name2Service : ExtTreeMap ServiceName Service} {s : ServerWorker}
    (hrun : Reaches step anyStep (started name2Service) s) (hidle : s.current = none) {package : RpcPacket}
    (hmethod : package.netEvent = .method) {body : Bytes} (hbody : package.binary = some body) :
    s.Dispatched package body ↔ InTable name2Service package := by
  rw [← name2Service_reachable hrun]
  constructor
  · rintro ⟨⟨message, parsed, hparse, _⟩, _⟩
    exact (parseBinary_isSome_iff hbody).mp ⟨_, hparse⟩
  · intro htable
    obtain ⟨⟨message, parsed⟩, hparse⟩ := (parseBinary_isSome_iff hbody).mpr htable
    refine ⟨⟨message, parsed, hparse, parseBinary_true_iff hbody hparse⟩, fun message' hrejected => ?_⟩
    obtain ⟨s', hstep, halike⟩ := alike_rejected (ready_reachable hrun) hidle hmethod hrejected
    exact ⟨s', hstep, halike.observe_eq, halike.observe_exec⟩

/-! ## Two packets for one service -/

/-- A request for another method of the service. -/
def indexPacket (index : Int32) (requestId : RpcRequestId) : RpcPacket :=
  ⟨7, .method, ⟨"S", index, some ⟨requestId⟩, none, 0⟩, some [5]⟩

/-- A packet without a request id is rejected after one request was served. -/
theorem dispatched_nullId :
    ∃ s, exec step (started echoService) [.receive (requestPacket 7 1), .run 0, .finish] = some s ∧
      s.Dispatched (indexPacket 0 0) [5] := by
  have hrun : (exec step (started echoService) [.receive (requestPacket 7 1), .run 0, .finish]).map
      ServerWorker.current = some none := by decide
  obtain ⟨s, hexec, hidle⟩ := Option.map_eq_some_iff.mp hrun
  refine ⟨s, hexec, (dispatched_iff (reaches_exec hexec) hidle rfl rfl).mpr fun service hservice => ?_⟩
  have hfound : getServiceFromName echoService "S" = some ⟨[⟨fun _ => true⟩]⟩ := by
    simp [getServiceFromName, echoService]
  obtain rfl := Option.some.inj (hfound.symm.trans hservice)
  decide

/-- **An index behind the table is looked up all the same.** -/
theorem not_dispatched :
    parseBinary echoService (indexPacket 1 1) = none ∧
      ¬ (started echoService).Dispatched (indexPacket 1 1) [5] := by
  have hparse : parseBinary echoService (indexPacket 1 1) = none := by
    have hfound : getServiceFromName echoService "S" = some ⟨[⟨fun _ => true⟩]⟩ := by
      simp [getServiceFromName, echoService]
    rw [parseBinary_known rfl hfound]
    rfl
  refine ⟨hparse, ?_⟩
  rintro ⟨⟨message, parsed, hdefined, _⟩, _⟩
  rw [show parseBinary (started echoService).name2Service (indexPacket 1 1) = none from hparse] at hdefined
  cases hdefined

end ServerWorker

end Frrpc
