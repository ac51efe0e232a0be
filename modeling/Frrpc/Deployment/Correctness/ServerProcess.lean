import Frrpc.Deployment.Correctness.Serving

/-!
# `Deployment.Correctness.ServerProcess` — the steps of a server's process

`ServerOk` is kept by every step of the process (`ServerOk.step`), and what is seen of a step has its cause
(`ServerOk.lawful_seen`): an execution the call of the channel that the packet's link id names, and a reply
an execution.
-/

namespace Frrpc

open Lib Std

/-! ## What is seen of a step -/

namespace ServerProcess

variable {addrOf : LinkID → Option Addr} {w w' : ServerWorker}

theorem seenAt_same (hinvocations : w'.invocations = w.invocations) (hsent : w'.sent = w.sent) :
    seenAt addrOf w w' = [] := by
  rw [seenAt, hinvocations, hsent]
  simp

/-- A thread that takes a request is seen to execute it. -/
theorem seenAt_execute {package : RpcPacket} (hinvocations : w'.invocations = w.invocations ++ [package])
    (hsent : w'.sent = w.sent) :
    seenAt addrOf w w' = (addrOf package.linkId).toList.map fun addr =>
      .execute addr package.rpcMeta.rpcRequestMeta.requestId (package.rpcMeta, package.binary.getD []) := by
  rw [seenAt, hinvocations, hsent]
  simp

/-- A thread that sends a response is seen to reply. -/
theorem seenAt_reply {response : Response} (hinvocations : w'.invocations = w.invocations)
    (hsent : w'.sent = w.sent ++ [response]) :
    seenAt addrOf w w' = (addrOf response.linkId).toList.map fun addr =>
      .reply addr response.rpcMeta.rpcRequestMeta.requestId (answerOf response.rpcMeta response.body) := by
  rw [seenAt, hinvocations, hsent]
  simp

omit w w' in
/-- A thread that stands still is not seen. -/
theorem seen_zip_self (ts : List WorkThread) :
    ((ts.zip ts).flatMap fun (t, t') => seenAt addrOf t.worker t'.worker) = [] := by
  rw [List.flatMap_eq_nil_iff]
  rintro ⟨t₁, t₂⟩ hmem
  rw [List.zip_eq_zipWith, List.zipWith_self] at hmem
  obtain ⟨t, _, heq⟩ := List.mem_map.mp hmem
  cases heq
  exact seenAt_same rfl rfl

variable {sp sp' : ServerProcess}

theorem seen_same (hthreads : sp'.threads = sp.threads) : seen addrOf sp sp' = [] := by
  rw [seen, hthreads]
  exact seen_zip_self sp.threads

/-- Only the thread that moves is seen. -/
theorem seen_set {thread : Nat} {t t' : WorkThread} (hget : sp.threads[thread]? = some t)
    (hthreads : sp'.threads = sp.threads.set thread t') :
    seen addrOf sp sp' = seenAt addrOf t.worker t'.worker := by
  rw [seen, hthreads]
  clear hthreads
  generalize sp.threads = ts at hget
  induction ts generalizing thread with
  | nil => cases hget
  | cons first ts ih =>
    cases thread with
    | zero =>
      obtain rfl := Option.some.inj hget
      rw [List.set_cons_zero, List.zip_cons_cons, List.flatMap_cons, seen_zip_self, List.append_nil]
    | succ thread =>
      have hfirst : seenAt addrOf first.worker first.worker = [] := seenAt_same rfl rfl
      rw [List.set_cons_succ, List.zip_cons_cons, List.flatMap_cons, ih hget]
      show seenAt addrOf first.worker first.worker ++ _ = _
      rw [hfirst, List.nil_append]

/-- No call is seen to complete at a server. -/
theorem not_completed_seen (sp sp' : ServerProcess) (addr : Addr) (ticket : Nat) :
    ¬ RemoteCall.Completed (seen addrOf sp sp') addr ticket := by
  rintro ⟨id, reply, hmem⟩
  obtain ⟨⟨t, t'⟩, _, hmem⟩ := List.mem_flatMap.mp hmem
  rcases List.mem_append.mp hmem with hexecute | hreply
  · obtain ⟨package, _, hmem⟩ := List.mem_flatMap.mp hexecute
    obtain ⟨_, _, heq⟩ := List.mem_map.mp hmem
    cases heq
  · obtain ⟨response, _, hmem⟩ := List.mem_flatMap.mp hreply
    obtain ⟨_, _, heq⟩ := List.mem_map.mp hmem
    cases heq

/-! ## The steps of the threads -/

/-- What a work thread does with the next packet of its batch. -/
theorem work_cases {thread : Nat} (h : sp.work thread = some sp') :
    ∃ t w' package packetQueue, sp.threads[thread]? = some t ∧ t.packetQueue = package :: packetQueue ∧
      ({ t.worker with name2Service := sp.server.name2Service } : ServerWorker).step (.receive package)
        = some w' ∧
      sp' = { sp with threads := sp.threads.set thread ⟨w', packetQueue⟩ } := by
  unfold work at h
  split at h
  · next worker package packetQueue hget =>
    obtain ⟨w', hstep, rfl⟩ := Option.map_eq_some_iff.mp h
    exact ⟨_, w', package, packetQueue, hget, rfl, hstep, rfl⟩
  · cases h

/-- What a handler of a work thread does. -/
theorem handler_cases [FrNet] [Serializer] {thread : Nat} {e : ServerWorker.Event}
    (h : sp.handler thread e = some sp') :
    ∃ t w' rpcNet, sp.threads[thread]? = some t ∧ t.worker.step e = some w' ∧
      sendResponses sp.server.rpcNet (w'.sent.drop t.worker.sent.length) = some rpcNet ∧
      sp' = { sp.setRpcNet rpcNet with threads := sp.threads.set thread { t with worker := w' } } := by
  obtain ⟨t, hget, h⟩ := Option.bind_eq_some_iff.mp h
  obtain ⟨w', hstep, h⟩ := Option.bind_eq_some_iff.mp h
  obtain ⟨rpcNet, hsend, h⟩ := Option.bind_eq_some_iff.mp h
  exact ⟨t, w', rpcNet, hget, hstep, hsend, (Option.some.inj h).symm⟩

/-- The threads handle no packets but those of their batches. -/
theorem step_handler [FrNet] [Serializer] {thread : Nat} {e : ServerWorker.Event}
    (h : sp.step (.handler thread e) = some sp') :
    (∀ package, e ≠ .receive package) ∧ sp.handler thread e = some sp' := by
  cases e with
  | receive package => cases h
  | _ => exact ⟨nofun, h⟩

/-- What the callers of a server have to see to: what it is asked to send fits into the fields of a frame. -/
def Sized (sp : ServerProcess) : Event → Prop
  | .addService serviceName _ =>
    (commandParts eRouteCmdServerServiceRegister
      (serialize (⟨serviceName, sp.server.serviceAddr⟩ : RouteServiceInfo))).Representable
  | .handler thread e => ∀ t ∈ sp.threads[thread]?, ∀ w' ∈ t.worker.step e,
    ∀ response ∈ w'.sent, ∀ sockets : List Socket, sockets.length ≤ 1 →
      (replyParts sockets response.rpcMeta response.body).Representable
  | .sendRpcMessage descriptor _ methodName response => ∀ methodIndex ∈ descriptor.methodIndex methodName,
    ∀ sockets : List Socket, sockets.length ≤ 1 →
      (replyParts sockets (pushMeta descriptor.name methodIndex) response).Representable
  | .sendRpcMessages descriptor linkIds methodName response => ∀ methodIndex ∈ descriptor.methodIndex methodName,
    ∀ sockets : List Socket, sockets.length ≤ linkIds.length →
      (replyParts sockets (pushMeta descriptor.name methodIndex) response).Representable
  | _ => True

end ServerProcess

/-! ## The invariant -/

/-- The connections, and the work threads with their batches. -/
structure ServerOk (site : Site) (p : Past) (index : Nat) (sp : ServerProcess) : Prop where
  net : ServerNetOk site p index sp.server.rpcNet
  workers : ∀ t ∈ sp.threads, WorkerOk p (site.linkAddr index) t.worker
  taken : ∀ t ∈ sp.threads, ∀ package ∈ t.worker.invocations ++ t.packetQueue, Requested site p index package

/-- A complete message has a request meta. -/
theorem ServerWorker.byteSize_pos {w : ServerWorker} (hcomplete : w.rpcMessage.isCompleted = true)
    {rpcMeta : RpcMeta} (hmeta : rpcMeta.requestMeta = w.rpcMessage.rpcMeta.requestMeta) :
    0 < byteSize rpcMeta := by
  rw [RpcMessage.isCompleted] at hcomplete
  simp only [Bool.and_eq_true, decide_eq_true_eq] at hcomplete
  cases hrequest : rpcMeta.requestMeta with
  | some requestMeta => exact byteSize_pos_of_request hrequest
  | none =>
    refine absurd ?_ hcomplete.1.1.1
    rw [RpcMeta.rpcRequestMeta, ← hmeta, hrequest]
    rfl

namespace ServerOk

variable {site : Site} {p p' : Past} {index : Nat} {sp sp' : ServerProcess}

theorem mono (h : ServerOk site p index sp) (hgrows : p.Grows p') : ServerOk site p' index sp where
  net := h.net.mono hgrows
  workers t ht := (h.workers t ht).mono hgrows
  taken t ht package hmem := (h.taken t ht package hmem).mono hgrows

theorem started (serviceAddr : ServiceAddr) (workThreadNum : Nat) :
    ServerOk site p index (.started (site.gateList index).length serviceAddr workThreadNum) where
  net := .new serviceAddr
  workers t ht := by
    rw [List.eq_of_mem_replicate ht]
    exact .started ∅
  taken t ht package hmem := by
    rw [List.eq_of_mem_replicate ht] at hmem
    cases hmem

theorem setServer (h : ServerOk site p index sp) {server : Server}
    (hnet : ServerNetOk site p index server.rpcNet) : ServerOk site p index { sp with server } :=
  ⟨hnet, h.workers, h.taken⟩

theorem setNet (h : ServerOk site p index sp) {rpcNet : RpcServerRoute} (hnet : ServerNetOk site p index rpcNet) :
    ServerOk site p index (sp.setRpcNet rpcNet) := h.setServer hnet

/-- A thread is replaced by another. -/
theorem setThread (h : ServerOk site p index sp) {t : WorkThread} (thread : Nat)
    (hworker : WorkerOk p (site.linkAddr index) t.worker)
    (htaken : ∀ package ∈ t.worker.invocations ++ t.packetQueue, Requested site p index package) :
    ServerOk site p index { sp with threads := sp.threads.set thread t } where
  net := h.net
  workers t' ht' := by
    rcases List.mem_or_eq_of_mem_set ht' with hold | rfl
    · exact h.workers t' hold
    · exact hworker
  taken t' ht' := by
    rcases List.mem_or_eq_of_mem_set ht' with hold | rfl
    · exact h.taken t' hold
    · exact htaken

theorem fetch (h : ServerOk site p index sp) {thread : Nat} (hfetch : sp.fetch thread = some sp') :
    ServerOk site p index sp' := by
  unfold ServerProcess.fetch at hfetch
  split at hfetch
  · next worker hget =>
    obtain rfl := Option.some.inj hfetch
    have hthread := List.mem_of_getElem? hget
    have hworker : WorkerOk p (site.linkAddr index) worker := h.workers _ hthread
    refine (h.setNet (h.net.drop 50)).setThread thread hworker fun package hmem => ?_
    rcases List.mem_append.mp hmem with hinvoked | hqueued
    · exact h.taken _ hthread package (List.mem_append_left _ hinvoked)
    · exact h.net.received package (List.mem_of_mem_take hqueued)
  · cases hfetch

/-- **A request that is taken was called** by the channel that its link id names. -/
theorem work (h : ServerOk site p index sp) {thread : Nat} (hgrows : p.Grows p')
    (hseen : ∀ call ∈ ServerProcess.seen (site.linkAddr index) sp sp', call ∈ p'.trace)
    (hwork : sp.work thread = some sp') : ServerOk site p' index sp' := by
  obtain ⟨t, w', package, packetQueue, hget, hqueue, hstep, rfl⟩ := ServerProcess.work_cases hwork
  have hthread := List.mem_of_getElem? hget
  have hpackages := h.taken t hthread
  rw [hqueue] at hpackages
  have hpackage := hpackages package (List.mem_append_right _ List.mem_cons_self)
  have hworker := ((h.workers t hthread).mono hgrows).setServices sp.server.name2Service
  obtain ⟨_, hsent, hserves⟩ := ServerWorker.receive_serves hstep
  rw [ServerProcess.seen_set hget rfl] at hseen
  refine (h.mono hgrows).setThread thread (hworker.receive (fun hid hinvocations addr haddr => ?_) hstep)
    fun other hmem => ?_
  swap
  · -- the packet has gone from the batch to the invocations, if it is served
    refine (hpackages other ?_).mono hgrows
    rcases List.mem_append.mp hmem with hinvoked | hqueued
    · rcases hserves with ⟨hinvocations, _⟩ | ⟨hinvocations, _⟩
      · rw [hinvocations] at hinvoked
        rcases List.mem_append.mp hinvoked with hold | hnew
        · exact List.mem_append_left _ hold
        · rw [List.mem_singleton.mp hnew]
          exact List.mem_append_right _ List.mem_cons_self
      · rw [hinvocations] at hinvoked
        exact List.mem_append_left _ hinvoked
    · exact List.mem_append_right _ (List.mem_cons_of_mem package hqueued)
  have hcalled := hpackage.called hid haddr
  refine ⟨hgrows.peer _ _ hcalled.channel, (package.rpcMeta, package.binary.getD []), hseen _ ?_⟩
  have hsent : w'.sent = t.worker.sent := hsent
  have hexecute : ServerProcess.seenAt (site.linkAddr index) t.worker w' = _ :=
    ServerProcess.seenAt_execute hinvocations hsent
  show _ ∈ ServerProcess.seenAt (site.linkAddr index) t.worker w'
  rw [hexecute, haddr]
  exact List.mem_singleton_self _

variable [FrNet] [Serializer]

/-- **A reply goes to the channel whose request was executed.** -/
theorem handler (h : ServerOk site p index sp) {thread : Nat} {e : ServerWorker.Event}
    (hreceive : ∀ package, e ≠ .receive package) (hsized : sp.Sized (.handler thread e)) (hgrows : p.Grows p')
    (hseen : ∀ call ∈ ServerProcess.seen (site.linkAddr index) sp sp', call ∈ p'.trace)
    (hhandler : sp.handler thread e = some sp') : ServerOk site p' index sp' := by
  obtain ⟨t, w', rpcNet, hget, hstep, hsend, rfl⟩ := ServerProcess.handler_cases hhandler
  have hthread := List.mem_of_getElem? hget
  have hworker := h.workers t hthread
  have hhandled := ServerWorker.handled_step hreceive hstep
  rw [ServerProcess.seen_set hget rfl] at hseen
  have hnet : ServerNetOk site p' index rpcNet := by
    rcases hhandled.sent with hsame | ⟨hcomplete, response, hsent, hlink, hmeta⟩
    · rw [hsame, List.drop_length] at hsend
      obtain rfl := Option.some.inj hsend
      exact h.net.mono hgrows
    · rw [hsent, List.drop_left, ServerProcess.sendResponses] at hsend
      obtain ⟨rpcNet', hsent', hnil⟩ := Option.bind_eq_some_iff.mp hsend
      obtain rfl := Option.some.inj hnil
      obtain ⟨⟨rpcNet'', ret⟩, hresult, rfl⟩ := Option.map_eq_some_iff.mp hsent'
      refine (h.net.mono hgrows).send (RpcServerRoute.sendsMore_send hresult) ?_
      rintro i gateway parts hgateway ⟨sockets, rfl, hone, hsockets⟩
      have hexecuted := (hworker.mono hgrows).response hcomplete hlink hmeta
      refine ⟨.message fun _ socket hsocket => ?_, sound_of_route rfl ?_, ?_⟩
      · obtain ⟨hid, hgetSocket⟩ := hsockets socket hsocket
        rw [h.net.routeLength] at hid hgetSocket
        have haddr := Site.linkAddr_eq hid hgetSocket hgateway
        refine ⟨(hexecuted _ haddr).1, hseen _ ?_⟩
        rw [ServerProcess.seenAt_reply hhandled.invocations hsent, haddr]
        exact List.mem_singleton_self _
      · exact ServerWorker.byteSize_pos hcomplete hmeta
      · exact hsized t hget w' hstep response (hsent ▸ List.mem_append_right _ (List.mem_singleton_self _))
          sockets hone
  exact ((h.mono hgrows).setNet hnet).setThread thread ((hworker.mono hgrows).handler hreceive hstep)
    fun package hmem => (h.taken t hthread package (hhandled.invocations ▸ hmem)).mono hgrows

omit [FrNet] [Serializer] in
/-- A push is for anybody. -/
theorem sendPush (h : ServerOk site p index sp) {descriptor : ServiceDescriptor} {methodName : String}
    {send : RpcServerRoute → RpcMeta → Option (RpcServerRoute × Bool)} {response : Bytes} {n : Nat}
    {server : Server} {ret : Bool}
    (hsend : ∀ rpcMeta rpcNet ret, send sp.server.rpcNet rpcMeta = some (rpcNet, ret) →
      sp.server.rpcNet.SendsMore (fun _ parts => ∃ sockets, parts = replyParts sockets rpcMeta response ∧
        sockets.length ≤ n) rpcNet)
    (hsized : ∀ methodIndex ∈ descriptor.methodIndex methodName, ∀ sockets : List Socket, sockets.length ≤ n →
      (replyParts sockets (pushMeta descriptor.name methodIndex) response).Representable)
    (hpush : sp.server.sendPush descriptor methodName send = some (server, ret)) :
    ServerOk site p index { sp with server } := by
  unfold Server.sendPush at hpush
  split at hpush
  · cases hpush
    exact h
  · obtain ⟨methodIndex, hmethod, hpush⟩ := Option.bind_eq_some_iff.mp hpush
    obtain ⟨⟨rpcNet, ret'⟩, hresult, hpush⟩ := Option.bind_eq_some_iff.mp hpush
    cases hpush
    refine h.setNet (h.net.send (hsend _ _ _ hresult) ?_)
    rintro i gateway parts hgateway ⟨sockets, rfl, hlength⟩
    refine ⟨.message fun hid => absurd rfl hid, sound_of_route rfl (byteSize_pos_of_request rfl), ?_⟩
    exact hsized methodIndex hmethod sockets hlength

/-- **Every step of a server's process keeps the invariant**, once what is seen of it is in the past. -/
theorem step (h : ServerOk site p index sp) {e : ServerProcess.Event} (hsized : sp.Sized e)
    (hgrows : p.Grows p')
    (hseen : ∀ call ∈ ServerProcess.seen (site.linkAddr index) sp sp', call ∈ p'.trace)
    (hstep : sp.step e = some sp') : ServerOk site p' index sp' := by
  cases e with
  | fetch thread => exact (h.fetch hstep).mono hgrows
  | work thread => exact h.work hgrows hseen hstep
  | handler thread e =>
    obtain ⟨hreceive, hhandler⟩ := ServerProcess.step_handler hstep
    exact h.handler hreceive hsized hgrows hseen hhandler
  | addService serviceName service =>
    obtain rfl := Option.some.inj hstep
    refine ServerOk.mono ?_ hgrows
    rw [Server.addService]
    split
    · exact h
    · refine h.setServer (h.net.send (sp.server.rpcNet.sendsMore_registerService serviceName _) ?_)
      rintro i gateway parts hgateway rfl
      exact ⟨.command _ (by decide), commandParts_sound _ _, hsized⟩
  | sendRpcMessage descriptor linkId methodName response =>
    obtain ⟨⟨server, ret⟩, hpush, rfl⟩ := Option.map_eq_some_iff.mp hstep
    refine (h.sendPush (fun rpcMeta rpcNet ret hresult => ?_) hsized hpush).mono hgrows
    obtain ⟨hqueue, hlength, hclients⟩ := RpcServerRoute.sendsMore_send hresult
    refine ⟨hqueue, hlength, fun i client' hget => ?_⟩
    obtain ⟨client, hclient, hsent⟩ := hclients i client' hget
    refine ⟨client, hclient, fun packet hmem => (hsent packet hmem).imp_right ?_⟩
    rintro ⟨parts, hparts, sockets, heq, hone, _⟩
    exact ⟨parts, hparts, sockets, heq, hone⟩
  | sendRpcMessages descriptor linkIds methodName response =>
    obtain ⟨⟨server, ret⟩, hpush, rfl⟩ := Option.map_eq_some_iff.mp hstep
    exact (h.sendPush (fun _ _ _ hresult => RpcServerRoute.sendsMore_sendAll hresult) hsized hpush).mono hgrows
  | disconnect linkId =>
    obtain ⟨⟨server, ret⟩, hserver, rfl⟩ := Option.map_eq_some_iff.mp hstep
    obtain ⟨⟨rpcNet, ret'⟩, hresult, heq⟩ := Option.map_eq_some_iff.mp hserver
    cases heq
    refine ServerOk.mono (h.setNet (h.net.send (RpcServerRoute.sendsMore_disconnect hresult) ?_)) hgrows
    rintro i gateway parts hgateway ⟨socket, rfl⟩
    exact ⟨.command _ (by decide), commandParts_sound _ _, RpcServerRoute.disconnect_representable socket⟩
  | heart route =>
    obtain ⟨client, hget, rfl⟩ := Option.map_eq_some_iff.mp hstep
    have hheart : sp.server.rpcNet.SendsMore (fun _ parts => parts = heartParts)
        { sp.server.rpcNet with
          routeClientList := sp.server.rpcNet.routeClientList.set route (client.clientSend heartPacket).1 } :=
      .set hget fun packet hmem => (RpcServerRoute.mem_clientSend heartParts hmem).imp_right
        fun heq => ⟨heartParts, heq, rfl⟩
    refine ServerOk.mono (h.setNet (h.net.send hheart ?_)) hgrows
    rintro i gateway parts hgateway rfl
    exact ⟨.heart, heartParts_sound, heartParts_representable⟩

/-- **What is seen of a server's step has its cause.** -/
theorem lawful_seen (h : ServerOk site p index sp) (hlawful : RemoteCall.Lawful Channel.requestKey p.trace)
    {e : ServerProcess.Event} (hstep : sp.step e = some sp') :
    RemoteCall.Lawful Channel.requestKey
      (p.trace ++ ServerProcess.seen (site.linkAddr index) sp sp') := by
  have hnothing : sp'.threads = sp.threads → RemoteCall.Lawful Channel.requestKey
      (p.trace ++ ServerProcess.seen (site.linkAddr index) sp sp') := by
    intro hthreads
    rw [ServerProcess.seen_same hthreads, List.append_nil]
    exact hlawful
  cases e with
  | fetch thread =>
    simp only [ServerProcess.step, ServerProcess.fetch] at hstep
    split at hstep
    · next worker hget =>
      obtain rfl := Option.some.inj hstep
      rw [ServerProcess.seen_set hget rfl, ServerProcess.seenAt_same rfl rfl, List.append_nil]
      exact hlawful
    · cases hstep
  | work thread =>
    obtain ⟨t, w', package, packetQueue, hget, hqueue, hreceive, rfl⟩ := ServerProcess.work_cases hstep
    have hpackage := h.taken t (List.mem_of_getElem? hget) package
      (List.mem_append_right _ (hqueue ▸ List.mem_cons_self))
    rw [ServerProcess.seen_set hget rfl]
    obtain ⟨_, hsent, ⟨hinvocations, _, _, hid⟩ | ⟨hinvocations, _⟩⟩ := ServerWorker.receive_serves hreceive
    · have hexecute : ServerProcess.seenAt (site.linkAddr index) t.worker w' = _ :=
        ServerProcess.seenAt_execute hinvocations hsent
      rw [hexecute]
      exact atEach_append_option hlawful fun addr haddr => (hpackage.called hid haddr).seen
    · have hsame : ServerProcess.seenAt (site.linkAddr index) t.worker w' = [] :=
        ServerProcess.seenAt_same hinvocations hsent
      rw [hsame, List.append_nil]
      exact hlawful
  | handler thread e =>
    obtain ⟨hreceive, hhandler⟩ := ServerProcess.step_handler hstep
    obtain ⟨t, w', rpcNet, hget, hworker, _, rfl⟩ := ServerProcess.handler_cases hhandler
    have hok := h.workers t (List.mem_of_getElem? hget)
    have hhandled := ServerWorker.handled_step hreceive hworker
    rw [ServerProcess.seen_set hget rfl]
    rcases hhandled.sent with hsent | ⟨hcomplete, response, hsent, hlink, hmeta⟩
    · rw [ServerProcess.seenAt_same hhandled.invocations hsent, List.append_nil]
      exact hlawful
    · rw [ServerProcess.seenAt_reply hhandled.invocations hsent]
      exact atEach_append_option hlawful fun addr haddr => (hok.response hcomplete hlink hmeta addr haddr).2
  | addService serviceName service =>
    obtain rfl := Option.some.inj hstep
    exact hnothing rfl
  | sendRpcMessage descriptor linkId methodName response =>
    obtain ⟨_, _, rfl⟩ := Option.map_eq_some_iff.mp hstep
    exact hnothing rfl
  | sendRpcMessages descriptor linkIds methodName response =>
    obtain ⟨_, _, rfl⟩ := Option.map_eq_some_iff.mp hstep
    exact hnothing rfl
  | disconnect linkId =>
    obtain ⟨_, _, rfl⟩ := Option.map_eq_some_iff.mp hstep
    exact hnothing rfl
  | heart route =>
    obtain ⟨_, _, rfl⟩ := Option.map_eq_some_iff.mp hstep
    exact hnothing rfl

end ServerOk

end Frrpc
