import Frrpc.Deployment.Correctness.Endpoint
import Frrpc.Deployment.Correctness.Gateway
import Frrpc.Route.Correctness.Split

/-!
# `Deployment.Correctness.Delivery` — one frame is delivered

What each party does with one whole frame when nothing else is there to read: an endpoint queues it, and a
gateway sends it on, a request with its sender's socket in it (`onReceive_request`) and a message to its
targets as it came (`onReceive_message`).
-/

namespace Frrpc

open Lib

/-! ## An endpoint -/

/-- **An endpoint takes a frame that is all there is.** -/
theorem receiveLoop_one {σ : Type} {left : Int → Nat → Nat}
    {one : σ → Int → Nat → Except Failure (Option (σ × Nat))} {s s' : σ} {size : Nat} (fuel : Nat)
    (hleft : ∀ n ≤ size + sizeofPacketSize, left n n = size + sizeofPacketSize - n)
    (hpos : 0 < size) (hlimit : size + sizeofPacketSize < 2 ^ 31)
    (hone : one s 0 0 = .ok (some (s', size))) :
    receiveLoop left one (fuel + 2) s 0 0 = ⟨s', size + sizeofPacketSize, .ok ()⟩ := by
  have hstart : left 0 0 = size + sizeofPacketSize := hleft 0 (Nat.zero_le _)
  have hend : left (size + sizeofPacketSize : Nat) (size + sizeofPacketSize) = 0 := by
    rw [hleft _ (Nat.le_refl _), Nat.sub_self]
  have hoffset : int32 (0 + ((size : Int) + sizeofPacketSize)) = (size + sizeofPacketSize : Nat) := by
    rw [int32_of_lt (by omega) (by omega), Int.zero_add, Int.natCast_add]
  rw [receiveLoop, hstart, if_pos (by omega), hone]
  simp only [hoffset, Nat.zero_add]
  rw [receiveLoop, hend, if_neg (Nat.not_lt_zero _)]

/-- A frame below the limit is found complete. -/
theorem Frame.complete {f : Frame} (hmax : f.size < netPacketMaxSize) :
    readNumber sizeofPacketSize f.bytes 0 = .ok f.size ∧
    f.size + sizeofPacketSize ≤ sizeSub f.bytes.length 0 ∧ 0 < f.size ∧ f.bytes.length < 2 ^ 31 := by
  have hlength := f.bytes_length
  have hword : netPacketMaxSize + sizeofPacketSize < 2 ^ 31 := by decide
  have hzero := f.size_ne_zero
  have hread := f.readNumber_size [] []
  rw [List.nil_append, List.append_nil] at hread
  refine ⟨hread, ?_, by omega, by omega⟩
  have hleft : sizeSub f.bytes.length (0 : Nat) = f.bytes.length := sizeSub_of_le (Nat.zero_le _)
  rw [Int.natCast_zero] at hleft
  omega

/-- A frame with these parts, below the limit. -/
theorem exists_frame_of_fits (parts : FrameParts) (hsound : parts.Sound) (hfits : parts.Fits) :
    ∃ f : Frame, parts.bytes = f.bytes ∧ f.BuiltFrom parts ∧ f.size < netPacketMaxSize := by
  obtain ⟨f, hbytes, hnet, hsize, hrest⟩ := hfits.representable.exists_frame
  refine ⟨f, hbytes, ⟨hnet, hrest, hfits.representable.2.1, hsound⟩, ?_⟩
  rw [hsize]
  exact hfits

namespace Frame.BuiltFrom

variable {f : Frame} {parts : FrameParts} (h : f.BuiltFrom parts) (hmax : f.size < netPacketMaxSize)

include h hmax

/-- **A channel dispatches a frame that has come in.** -/
theorem channel_onReceive {c c' : RpcChannelRoute}
    (hdispatch : c.dispatch parts.netInfo parts.packet = .ok c') :
    c.onReceive f.bytes = ⟨c', f.bytes.length, .ok ()⟩ := by
  obtain ⟨hsize, hcomplete, hpos, hlimit⟩ := f.complete hmax
  have htake : c.takeFrame f.bytes 0 = .ok c' := by
    have hframe := RpcChannelRoute.takeFrame_builtFrom h c [] [] (by decide)
    rw [List.nil_append, List.append_nil] at hframe
    exact hframe.trans hdispatch
  have hone : c.receiveOne f.bytes 0 0 = .ok (some (c', f.size)) := by
    rw [RpcChannelRoute.receiveOne_takeFrame hsize hcomplete hmax hpos, htake]
    rfl
  obtain ⟨fuel, hfuel⟩ : ∃ fuel, f.bytes.length + 1 = fuel + 2 :=
    ⟨f.bytes.length - 1, by rw [f.bytes_length]; omega⟩
  rw [RpcChannelRoute.onReceive, hfuel, f.bytes_length]
  rw [f.bytes_length] at hlimit
  exact receiveLoop_one fuel (fun n hn => sizeSub_of_le hn) hpos hlimit hone

/-- **A server dispatches a frame that has come in.** -/
theorem server_onReceive {s s' : RpcServerRoute} {routeId : RouteID}
    (hdispatch : s.dispatch routeId parts.netInfo parts.packet = .ok s') :
    s.onReceive routeId f.bytes = ⟨s', f.bytes.length, .ok ()⟩ := by
  obtain ⟨hsize, hcomplete, hpos, hlimit⟩ := f.complete hmax
  have htake : s.takeFrame routeId f.bytes 0 = .ok s' := by
    have hframe := RpcServerRoute.takeFrame_builtFrom h s routeId [] [] (by decide)
    rw [List.nil_append, List.append_nil] at hframe
    exact hframe.trans hdispatch
  have hone : s.receiveOne routeId f.bytes 0 0 = .ok (some (s', f.size)) := by
    rw [RpcServerRoute.receiveOne_takeFrame hsize hcomplete hmax hpos, htake]
    rfl
  obtain ⟨fuel, hfuel⟩ : ∃ fuel, f.bytes.length + 1 = fuel + 2 :=
    ⟨f.bytes.length - 1, by rw [f.bytes_length]; omega⟩
  rw [RpcServerRoute.onReceive, hfuel, f.bytes_length]
  rw [f.bytes_length] at hlimit
  exact receiveLoop_one fuel (fun n hn => sizeSub_of_le hn) hpos hlimit hone

/-! ## A gateway -/

variable [FrNet] {r r' : RpcRoute} {socket : Socket}

/-- **A gateway handles a frame that has come in.** -/
theorem gateway_onReceive (handler : RpcRoute.Handler)
    (hhandler : RpcRoute.handlerOf parts.netInfo.netType = some handler)
    (hhandle : RpcRoute.handle handler (r.updateSocket socket) socket f.bytes 0 parts.netInfo = some (r', true)) :
    ∃ log, RpcRoute.onReceive (r, []) socket f.bytes = ⟨(r', log), f.bytes.length, .ok ()⟩ := by
  have hlimit := (f.complete hmax).2.2.2
  let gatewayFrame : GatewayFrame := ⟨f, parts.netInfo, handler, hmax, h.net_ne, h.parsed, hhandler⟩
  have hround := onReceiveLoop_frame (f.bytes.length - 1 + 1) [] gatewayFrame [] []
    (by rw [List.length_nil, Nat.zero_add]; exact hlimit)
    (by rw [List.nil_append, List.append_nil]; exact hhandle)
  have hrest : Incomplete GatewayFrame.bytes [] [] := rfl
  have hdone : RpcRoute.onReceiveLoop socket (f.bytes ++ []) (f.bytes.length - 1 + 1) (r', [gatewayFrame.dispatch])
      f.bytes.length = ⟨(r', [gatewayFrame.dispatch]), f.bytes.length, .ok ()⟩ :=
    onReceiveLoop_incomplete _ f.bytes _ hrest hlimit
  rw [List.append_nil] at hdone
  rw [List.nil_append, List.append_nil, List.length_nil, Nat.zero_add, List.nil_append] at hround
  refine ⟨[gatewayFrame.dispatch], ?_⟩
  have hzero := f.size_ne_zero
  have hfuel : f.bytes.length + 1 = f.bytes.length - 1 + 1 + 1 := by
    rw [f.bytes_length]
    omega
  rw [RpcRoute.onReceive, hfuel]
  exact hround.trans hdone

end Frame.BuiltFrom

section

variable [FrNet] {r r₁ : RpcRoute} {f : Frame} {rpcMeta : RpcMeta} {body : Bytes} {socket : Socket}

/-- **A request goes on to the server that the tables give**, stamped with its sender's socket. -/
theorem onReceive_request (h : f.BuiltFrom (requestParts rpcMeta body)) (hmax : f.size < netPacketMaxSize)
    {target : Socket}
    (hserver : (r.updateSocket socket).getServerSocket socket rpcMeta.serviceName = some (target, r₁)) :
    ∃ g : Frame, g.BuiltFrom (stampedParts rpcMeta body socket) ∧
      ∃ log, RpcRoute.onReceive (r, []) socket f.bytes
        = ⟨({ r₁ with netCalls := r.netCalls ++ [.send target (some g.bytes)] }, log), f.bytes.length, .ok ()⟩ := by
  obtain ⟨g, hg, hpacket⟩ := h.stamped hmax socket
  refine ⟨g, hg, ?_⟩
  have hpacket := hpacket [] [] (by rw [List.length_nil, Nat.zero_add]; exact (f.complete hmax).2.2.2)
  rw [List.nil_append, List.append_nil] at hpacket
  have hparse : parse (RpcChannelRoute.sendNetInfo rpcMeta).netBinary = some (channelRouteInfo rpcMeta) :=
    h.parse_routeNetInfo rfl
  have hroute : (r.updateSocket socket).routeProcess socket f.bytes 0 (RpcChannelRoute.sendNetInfo rpcMeta)
      = some (r₁.sendAll [target] (some g.bytes), true) := by
    have hchannel : (channelRouteInfo rpcMeta).isChannelPacket = true := rfl
    have hname : (channelRouteInfo rpcMeta).serviceName = rpcMeta.serviceName := rfl
    have hpacket' : RpcRoute.channelPacket f.bytes 0 (RpcChannelRoute.sendNetInfo rpcMeta)
        (channelRouteInfo rpcMeta) socket = .ok g.bytes := hpacket
    rw [RpcRoute.routeProcess, hparse]
    simp only [hchannel, if_true, hname, hserver, hpacket', RpcRoute.packetPtr, Option.bind_eq_bind,
      Option.bind_some, Option.pure_def]
  have hcalls := congrArg RpcRoute.netCalls (RpcRoute.getServerSocket_eq hserver)
  rw [RpcRoute.sendAll_eq, hcalls] at hroute
  exact h.gateway_onReceive hmax .route rfl hroute

/-- **A message goes to its targets** as it came in. -/
theorem onReceive_message (r : RpcRoute) (socket : Socket) {sockets : List Socket}
    (h : f.BuiltFrom (replyParts sockets rpcMeta body)) (hmax : f.size < netPacketMaxSize) :
    ∃ log, RpcRoute.onReceive (r, []) socket f.bytes
      = ⟨({ r.updateSocket socket with
            netCalls := r.netCalls ++ sockets.map fun target => .send target (some f.bytes) }, log),
          f.bytes.length, .ok ()⟩ := by
  have hparse : parse (replyParts sockets rpcMeta body).netInfo.netBinary
      = some (⟨false, "", sockets, socketNull⟩ : RouteNetInfo) := h.parse_routeNetInfo rfl
  have hsize := (f.complete hmax).1
  have hframe : readBytes f.bytes 0 (sizeofPacketSize + f.size) = .ok f.bytes := by
    have hwhole := f.readBytes_frame [] [] (n := sizeofPacketSize + f.size) (by rw [f.bytes_length, Nat.add_comm])
    rw [List.nil_append, List.append_nil] at hwhole
    exact hwhole
  have hroute : (r.updateSocket socket).routeProcess socket f.bytes 0 (replyParts sockets rpcMeta body).netInfo
      = some ((r.updateSocket socket).sendAll sockets (some f.bytes), true) := by
    rw [RpcRoute.routeProcess, hparse]
    simp only [Bool.false_eq_true, if_false, hsize, hframe, Except.toOption, Option.bind_eq_bind, Option.bind_some,
      Option.pure_def]
  rw [RpcRoute.sendAll_eq] at hroute
  exact h.gateway_onReceive hmax .route rfl hroute

end

/-! ## What an endpoint queues -/

/-- **A server queues a request with a body**, with the link id of its channel. -/
theorem RpcServerRoute.onReceive_request {s : RpcServerRoute} {routeId : RouteID} {g : Frame} {rpcMeta : RpcMeta}
    {body : Bytes} {source : Socket} (h : g.BuiltFrom (stampedParts rpcMeta body source))
    (hmax : g.size < netPacketMaxSize) (hbody : body ≠ []) :
    s.onReceive routeId g.bytes
      = ⟨s.pushMessageToQueue ⟨buildLinkID s.routeLength routeId source, .method, rpcMeta, some body⟩,
          g.bytes.length, .ok ()⟩ := by
  refine h.server_onReceive hmax ?_
  have hparse : parse (stampedParts rpcMeta body source).netInfo.netBinary
      = some { channelRouteInfo rpcMeta with sourceSocket := source } := h.parse_routeNetInfo rfl
  have hpacket : (stampedParts rpcMeta body source).packet = ⟨0, .method, rpcMeta, some body⟩ := by
    rw [FrameParts.packet]
    show (⟨0, .method, rpcMeta, if body = [] then none else some body⟩ : RpcPacket) = _
    rw [if_neg hbody]
  show s.receiveRoutePacket routeId _ _ = _
  rw [RpcServerRoute.receiveRoutePacket, hparse, hpacket]
  rfl

/-- **A channel queues a reply**, with a body if it has one. -/
theorem RpcChannelRoute.onReceive_reply {c : RpcChannelRoute} {f : Frame} {sockets : List Socket}
    {rpcMeta : RpcMeta} {body : Bytes} (h : f.BuiltFrom (replyParts sockets rpcMeta body))
    (hmax : f.size < netPacketMaxSize) :
    c.onReceive f.bytes
      = ⟨c.pushMessageToQueue ⟨0, .method, rpcMeta, if body = [] then none else some body⟩, f.bytes.length,
          .ok ()⟩ :=
  h.channel_onReceive hmax rfl

end Frrpc
