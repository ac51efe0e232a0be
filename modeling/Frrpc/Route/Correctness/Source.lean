import Frrpc.Route.Correctness.Forward
import Frrpc.Route.Correctness.Registry

/-!
# `Route.Correctness.Source` — whose frame a server gets

A server takes the source socket of a frame for the connection that sent it. `RouteProcess` stamps that
socket into a channel's frame (`carriedSource_channelPacket`), but whether a frame is a channel's is up to
its sender: any other frame goes out as it came in, to the sockets that it names. `RouteLog` records what
`RouteProcess` sends and for whom; where the frames that are not a channel's and go to a service name their
own sender, the source is authentic (`source_authentic`).
-/

namespace Frrpc

open Lib

section

variable [Protobuf]

/-- The source socket that a frame carries. -/
def carriedSource (frame : Bytes) : Option Socket := do
  let netInfo ← (RpcRoute.getNetInfo frame 0).toOption
  let routeNetInfo : RouteNetInfo ← parse netInfo.netBinary
  return routeNetInfo.sourceSocket

theorem carriedSource_eq_some {frame : Bytes} {socket : Socket} :
    carriedSource frame = some socket ↔ ∃ (netInfo : NetInfo) (routeNetInfo : RouteNetInfo),
      RpcRoute.getNetInfo frame 0 = .ok netInfo ∧ parse netInfo.netBinary = some routeNetInfo ∧
      routeNetInfo.sourceSocket = socket := by
  constructor
  · intro h
    obtain ⟨netInfo, hnet, h⟩ := Option.bind_eq_some_iff.mp h
    obtain ⟨routeNetInfo, hparse, h⟩ := Option.bind_eq_some_iff.mp h
    exact ⟨netInfo, routeNetInfo, toOption_eq_some.mp hnet, hparse, Option.some.inj h⟩
  · rintro ⟨netInfo, routeNetInfo, hnet, hparse, rfl⟩
    rw [carriedSource, hnet]
    show ((parse netInfo.netBinary : Option RouteNetInfo).bind fun routeNetInfo =>
      some routeNetInfo.sourceSocket) = _
    rw [hparse]
    rfl

/-! ## The stamped frame -/

/-- A packet whose net part is this net info. -/
theorem getNetInfo_packet {netInfo : NetInfo} (size : Nat) (rest : Bytes) (hlt : byteSize netInfo < 2 ^ 16)
    (hne : serialize netInfo ≠ []) :
    RpcRoute.getNetInfo (le sizeofPacketSize size ++ (le sizeofNetInfoSize (byteSize netInfo)
      ++ (serialize netInfo ++ rest))) 0 = .ok netInfo := by
  have hnetSize : readNumber sizeofNetInfoSize (le sizeofPacketSize size
      ++ (le sizeofNetInfoSize (byteSize netInfo) ++ (serialize netInfo ++ rest))) 4
      = .ok (byteSize netInfo) :=
    readNumber_append (le sizeofPacketSize size) (serialize netInfo ++ rest)
      (List.append_assoc _ _ _).symm (by rw [le_length]; rfl) hlt
  have hnet : readBytes (le sizeofPacketSize size
      ++ (le sizeofNetInfoSize (byteSize netInfo) ++ (serialize netInfo ++ rest))) 6 (byteSize netInfo)
      = .ok (serialize netInfo) :=
    readBytes_append (le sizeofPacketSize size ++ le sizeofNetInfoSize (byteSize netInfo)) rest
      (by simp only [List.append_assoc]) (by rw [List.length_append, le_length, le_length]; rfl) rfl
  have hpos : 0 < byteSize netInfo := List.length_pos_iff.mpr hne
  have hoff : int32 (sizeofPacketSize + 0) = 4 := by decide
  have hoff' : int32 (4 + sizeofNetInfoSize) = 6 := by decide
  rw [RpcRoute.getNetInfo, hoff, hnetSize, ok_bind, hoff', if_pos hpos, parseFromArray, hnet, ok_bind,
    PbMessage.parse_serialize netInfo (show (serialize netInfo).length < 2 ^ 31 from
      Nat.lt_trans hlt (by decide))]
  rfl

/-- What `BuildSendPacket` builds starts with the net info it was given. -/
theorem buildSendPacket_ok {binary packet : Bytes} {offset : Int} {netInfo : NetInfo}
    (h : RpcRoute.buildSendPacket binary offset netInfo = .ok packet) :
    byteSize netInfo < 2 ^ 16 ∧ ∃ size rest, packet = le sizeofPacketSize size
      ++ (le sizeofNetInfoSize (byteSize netInfo) ++ (serialize netInfo ++ rest)) := by
  obtain ⟨originalSize, _, h⟩ := bind_eq_ok.mp h
  obtain ⟨originalNetInfoSize, _, h⟩ := bind_eq_ok.mp h
  dsimp only at h
  split at h
  · next hfits =>
    obtain ⟨rest, _, h⟩ := bind_eq_ok.mp h
    cases h
    have hlt : byteSize netInfo < 2 ^ 16 := by
      unfold uint16 at hfits
      omega
    rw [uint16_of_lt hlt]
    exact ⟨hlt, _, rest, rfl⟩
  · cases h

/-- **A channel's frame carries its sender.** -/
theorem carriedSource_channelPacket {binary packet : Bytes} {offset : Int} {netInfo : NetInfo}
    {routeNetInfo : RouteNetInfo} {socket : Socket} (htype : netInfo.netType = eNetTypeRoute)
    (h : RpcRoute.channelPacket binary offset netInfo routeNetInfo socket = .ok packet) :
    carriedSource packet = some socket := by
  obtain ⟨hlt, size, rest, rfl⟩ := buildSendPacket_ok h
  have hne : serialize ({ netInfo with
      netBinary := serialize { routeNetInfo with sourceSocket := socket } } : NetInfo) ≠ [] := by
    intro hnil
    have hdefault := congrArg NetInfo.netType (eq_default_of_serialize_nil hnil)
    rw [show netInfo.netType = (default : NetInfo).netType from hdefault] at htype
    cases htype
  exact carriedSource_eq_some.mpr
    ⟨_, _, getNetInfo_packet size rest hlt hne, parse_netBinary rfl hlt, rfl⟩

/-- **A server takes the carried source for the sender**: the link id of the packet it queues is made of its
    gateway and that socket. -/
theorem receiveRoutePacket_linkId {s s' : RpcServerRoute} {routeId : RouteID} {frame : Bytes}
    {netInfo : NetInfo} {packet : RpcPacket} {socket : Socket} (hsource : carriedSource frame = some socket)
    (hnet : RpcRoute.getNetInfo frame 0 = .ok netInfo)
    (h : s.receiveRoutePacket routeId netInfo packet = .ok s') :
    ∃ queued, s'.packetQueue = s.packetQueue ++ [queued] ∧
      queued.linkId = buildLinkID s.routeLength routeId socket := by
  obtain ⟨netInfo', routeNetInfo, hnet', hparse, rfl⟩ := carriedSource_eq_some.mp hsource
  rw [hnet] at hnet'
  cases hnet'
  obtain ⟨routeNetInfo', hparse', h⟩ := bind_eq_ok.mp h
  rw [hparse] at hparse'
  cases hparse'
  obtain ⟨copied, _, h⟩ := bind_eq_ok.mp h
  cases h
  exact ⟨_, rfl, rfl⟩

end

/-! ## What `RouteProcess` sends -/

/-- A frame that `RouteProcess` sent, with the socket it came from, and whether its target was registered as
    a service then. -/
structure Forwarded where
  sender : Socket
  target : Socket
  packet : Bytes
  toService : Bool
deriving DecidableEq, Repr

structure RouteLog where
  route : RpcRoute
  forwarded : List Forwarded

namespace RouteLog

open RpcRoute

def started : RouteLog := ⟨.started, []⟩

/-- A null packet is no frame. -/
def entry (r : RpcRoute) (sender : Socket) : NetCall → Option Forwarded
  | .send target (some packet) => some ⟨sender, target, packet, r.isServiceSocket target⟩
  | _ => none

/-- The frames among the calls that an event has added. -/
def forwardedBy (r r' : RpcRoute) : RpcRoute.Event → List Forwarded
  | .routeProcess socket _ _ _ => (r'.netCalls.drop r.netCalls.length).filterMap (entry r socket)
  | _ => []

variable [Protobuf] [FrNet]

def step (s : RouteLog) (e : RpcRoute.Event) : Option RouteLog :=
  (RpcRoute.step s.route e).map fun route => ⟨route, s.forwarded ++ forwardedBy s.route route e⟩

/-- **Every frame that was sent to a service carries the socket it came from**, so the link id a server makes
    of it is that of the connection it was sent on. -/
def Authentic (s : RouteLog) : Prop :=
  ∀ f ∈ s.forwarded, f.toService = true → carriedSource f.packet = some f.sender ∧
    ∀ (server server' : RpcServerRoute) (routeId : RouteID) (netInfo : NetInfo) (packet : RpcPacket),
      getNetInfo f.packet 0 = .ok netInfo → server.receiveRoutePacket routeId netInfo packet = .ok server' →
      ∃ queued, server'.packetQueue = server.packetQueue ++ [queued] ∧
        queued.linkId = buildLinkID server.routeLength routeId f.sender

/-- A frame that is not a channel's and names a service among its targets names its own sender as the
    source, in a net info that lies within the frame. -/
def NamesSender (s : RouteLog) : RpcRoute.Event → Prop
  | .routeProcess socket binary offset netInfo => ∀ routeNetInfo : RouteNetInfo,
      parse netInfo.netBinary = some routeNetInfo → routeNetInfo.isChannelPacket = false →
      (∃ target ∈ routeNetInfo.targetSockets, s.route.isServiceSocket target = true) →
      routeNetInfo.sourceSocket = socket ∧
      ∀ size frame, readNumber sizeofPacketSize binary offset = .ok size →
        readBytes binary offset (sizeofPacketSize + size) = .ok frame → getNetInfo frame 0 = .ok netInfo
  | _ => True

/-- A frame as `OnReceive` hands it to `RouteProcess`, and the condition above. -/
def SourceStep (s : RouteLog) (e : RpcRoute.Event) : Prop := s.route.Received e ∧ s.NamesSender e

/-! ## One frame -/

omit [Protobuf] [FrNet] in
theorem entry_eq_some {r : RpcRoute} {sender : Socket} {call : NetCall} {f : Forwarded}
    (h : entry r sender call = some f) :
    call = .send f.target (some f.packet) ∧ f.sender = sender ∧
      f.toService = r.isServiceSocket f.target := by
  unfold entry at h
  split at h
  · obtain rfl := Option.some.inj h
    exact ⟨rfl, rfl, rfl⟩
  · cases h

/-- **A frame that goes to a service carries its sender**, if it was stamped or named it itself. -/
theorem carriedSource_forwarded {s : RouteLog} {r' : RpcRoute} {socket : Socket} {binary : Bytes}
    {offset : Int} {netInfo : NetInfo} {ok : Bool}
    (hok : s.SourceStep (.routeProcess socket binary offset netInfo))
    (h : s.route.routeProcess socket binary offset netInfo = some (r', ok)) {f : Forwarded}
    (hmem : f ∈ forwardedBy s.route r' (.routeProcess socket binary offset netInfo))
    (hservice : f.toService = true) : carriedSource f.packet = some f.sender := by
  obtain ⟨⟨hread, htype⟩, hnames⟩ := hok
  obtain ⟨call, hcall, hentry⟩ := List.mem_filterMap.mp hmem
  obtain ⟨rfl, rfl, hregistered⟩ := entry_eq_some hentry
  rcases routeProcess_cases h with rfl | ⟨routeNetInfo, hparse, ⟨_, target, r₁, packet, hserver, hpacket, rfl⟩ |
    ⟨hchannel, size, frame, hsize, hframe, rfl⟩⟩
  · rw [List.drop_length] at hcall
    cases hcall
  · have hcalls : r₁.netCalls = s.route.netCalls := by rw [getServerSocket_eq hserver]
    rw [sendAll_eq, hcalls, List.drop_left] at hcall
    cases List.mem_singleton.mp hcall
    -- the channel's path: the packet was stamped
    cases hbuild : channelPacket binary offset netInfo routeNetInfo f.sender with
    | ok stamped =>
      rw [hbuild] at hpacket
      obtain rfl := Option.some.inj (Option.some.inj hpacket)
      exact carriedSource_channelPacket htype hbuild
    | error e =>
      rw [hbuild] at hpacket
      cases e with
      | refused => cases hpacket
      | undefined => cases hpacket
  · rw [sendAll_eq, List.drop_left] at hcall
    obtain ⟨target, htarget, hsend⟩ := List.mem_map.mp hcall
    obtain ⟨rfl, hpacket⟩ := NetCall.send.inj hsend
    obtain rfl := Option.some.inj hpacket
    -- the other path: the frame names its sender
    obtain ⟨hsource, hwithin⟩ := hnames routeNetInfo hparse hchannel
      ⟨_, htarget, hregistered.symm.trans hservice⟩
    exact carriedSource_eq_some.mpr ⟨netInfo, routeNetInfo, hwithin size f.packet hsize hframe, hparse,
      hsource⟩

/-! ## Runs -/

theorem authentic_step {s s' : RouteLog} {e : RpcRoute.Event} (h : s.Authentic) (hok : s.SourceStep e)
    (hstep : step s e = some s') : s'.Authentic := by
  obtain ⟨route, hroute, rfl⟩ := Option.map_eq_some_iff.mp hstep
  intro f hmem hservice
  rcases List.mem_append.mp hmem with hold | hnew
  · exact h f hold hservice
  · cases e with
    | routeProcess socket binary offset netInfo =>
      obtain ⟨⟨r', ok⟩, hprocess, rfl⟩ := Option.map_eq_some_iff.mp hroute
      have hsource := carriedSource_forwarded hok hprocess hnew hservice
      exact ⟨hsource, fun _ _ _ _ _ hnet hreceive => receiveRoutePacket_linkId hsource hnet hreceive⟩
    | onConnect _ | updateSocket _ | serverServiceRegister _ _ | serverServiceCancel _ _
    | serverDisconnectChannelFunc _ _ | channelServiceRegister _ _ | heartProcess _ _ _
    | onDisconnect _ | onClose => cases hnew

/-- **The source of a frame is authentic** in every run in which each frame that is not a channel's names its
    own sender whenever a service is among its targets. -/
theorem source_authentic {s : RouteLog} (hrun : Reaches step SourceStep started s) : s.Authentic := by
  apply hrun.invariant
  · intro f hmem
    cases hmem
  · intro s e s' hok h hstep
    exact authentic_step h hok hstep

/-- Every run of the gateway is a run of the log. -/
theorem reaches_of_route {r r' : RpcRoute} (h : Reaches RpcRoute.step Received r r')
    (forwarded : List Forwarded) :
    ∃ forwarded', Reaches step (fun s e => s.route.Received e) ⟨r, forwarded⟩ ⟨r', forwarded'⟩ := by
  induction h with
  | refl => exact ⟨forwarded, .refl _⟩
  | tail _ hlast ih =>
    obtain ⟨e, hreceived, hstep⟩ := hlast
    obtain ⟨forwarded', hrun⟩ := ih
    exact ⟨_, hrun.snoc hreceived (Option.map_eq_some_iff.mpr ⟨_, hstep, rfl⟩)⟩

end RouteLog

/-! ## A frame that is not a channel's -/

section

attribute [local instance] networkUp

namespace RouteLog

open RpcRoute

/-- A frame for socket 3 that names a source. -/
def namedNetInfo (sourceSocket : Socket) : NetInfo :=
  ⟨eNetTypeRoute, serialize (⟨false, "", [3], sourceSocket⟩ : RouteNetInfo)⟩

def namedFrame (sourceSocket : Socket) : Bytes :=
  le sizeofPacketSize (sizeofNetInfoSize + byteSize (namedNetInfo sourceSocket))
    ++ (le sizeofNetInfoSize (byteSize (namedNetInfo sourceSocket)) ++ serialize (namedNetInfo sourceSocket))

theorem step_register :
    step started (.serverServiceRegister 3 (registration "S" "addr")) = some ⟨oneServer, []⟩ := by
  show (RpcRoute.step RpcRoute.started _).map _ = _
  rw [step_registration _ 3 (by decide)]
  rfl

/-- The frame of socket 9 goes to the service, whatever source it names. -/
theorem step_namedFrame (sourceSocket : Socket) (h : sourceSocket = 5 ∨ sourceSocket = 9) :
    ∃ s, step ⟨oneServer, []⟩ (.routeProcess 9 (namedFrame sourceSocket) 0 (namedNetInfo sourceSocket))
      = some s ∧ s.forwarded = [⟨9, 3, namedFrame sourceSocket, true⟩] := by
  apply Option.map_eq_some_iff.mp
  rcases h with rfl | rfl
  · decide
  · decide

/-- A frame that names its own sender. -/
theorem source_authentic_named :
    ∃ s, Reaches step SourceStep started s ∧ s.forwarded = [⟨9, 3, namedFrame 9, true⟩] ∧ s.Authentic := by
  obtain ⟨s, hstep, hforwarded⟩ := step_namedFrame 9 (Or.inr rfl)
  have hregister : Reaches step SourceStep started ⟨oneServer, []⟩ :=
    (Reaches.refl started).snoc (e := .serverServiceRegister 3 _) ⟨trivial, trivial⟩ step_register
  have hok : SourceStep ⟨oneServer, []⟩ (.routeProcess 9 (namedFrame 9) 0 (namedNetInfo 9)) := by
    refine ⟨⟨by decide, rfl⟩, ?_⟩
    intro routeNetInfo hparse _ _
    have hnamed : parse (namedNetInfo 9).netBinary = some (⟨false, "", [3], 9⟩ : RouteNetInfo) := by decide
    rw [hnamed] at hparse
    obtain rfl := Option.some.inj hparse
    refine ⟨rfl, ?_⟩
    intro size frame hsize hframe
    have hread : readNumber sizeofPacketSize (namedFrame 9) 0 = .ok 11 := by decide
    rw [hread] at hsize
    obtain rfl := Except.ok.inj hsize
    have hbytes : readBytes (namedFrame 9) 0 (sizeofPacketSize + 11) = .ok (namedFrame 9) := by decide
    rw [hbytes] at hframe
    obtain rfl := Except.ok.inj hframe
    decide
  have hrun := hregister.snoc hok hstep
  exact ⟨s, hrun, hforwarded, source_authentic hrun⟩

/-- **A sender chooses the source that a server sees**: the frame of socket 9 reaches the service as one of
    socket 5. -/
theorem source_not_authentic :
    ∃ s, Reaches step (fun s e => s.route.Received e) started s ∧
      s.forwarded = [⟨9, 3, namedFrame 5, true⟩] ∧ carriedSource (namedFrame 5) = some 5 ∧
      ¬ s.Authentic := by
  obtain ⟨s, hstep, hforwarded⟩ := step_namedFrame 5 (Or.inl rfl)
  have hregister : Reaches step (fun s e => s.route.Received e) started ⟨oneServer, []⟩ :=
    (Reaches.refl started).snoc (e := .serverServiceRegister 3 _) trivial step_register
  have hreceived : Received oneServer (.routeProcess 9 (namedFrame 5) 0 (namedNetInfo 5)) :=
    ⟨by decide, rfl⟩
  have hrun := hregister.snoc hreceived hstep
  have hcarried : carriedSource (namedFrame 5) = some 5 := by decide
  refine ⟨s, hrun, hforwarded, hcarried, ?_⟩
  intro hauthentic
  have hsource := (hauthentic _ (by rw [hforwarded]; exact List.mem_singleton.mpr rfl) rfl).1
  rw [hcarried] at hsource
  cases hsource

end RouteLog

end

end Frrpc
