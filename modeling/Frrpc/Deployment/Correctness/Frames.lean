import Frrpc.Route.Correctness.Forward
import Frrpc.Rpc.Correctness.Emit
import Frrpc.Deployment.Machine

/-!
# `Deployment.Correctness.Frames` — which frames the parties send each other

Every frame on a connection is built from parts that its sender had a reason for. `Past` is what the reasons
speak about: who is connected and what was seen so far, which only grows. `ChannelSends`, `ServerSends` and
`GatewaySends` say what each party sends, and `BuiltFrom` what a reader finds in such a frame wherever it
stands in a buffer.
-/

namespace Frrpc

open Lib

/-! ## Reading a frame that was built -/

namespace FrameParts

/-- The packet that a decoder makes of a frame with these parts. -/
def packet (parts : FrameParts) : RpcPacket :=
  match parts.content with
  | none => .new 0 .method
  | some (rpcMeta, body) => ⟨0, .method, rpcMeta, if body = [] then none else some body⟩

/-- Its body is there, or there is none. -/
theorem packet_binary {parts : FrameParts} {rpcMeta : RpcMeta} {body : Bytes}
    (h : parts.content = some (rpcMeta, body)) : parts.packet.binary.getD [] = body := by
  rw [packet, h]
  by_cases hbody : body = []
  · simp [hbody]
  · simp [hbody]

/-- Exactly the frames up to `eNetType_Special` have a meta and a body, and no meta is empty. -/
structure Sound (parts : FrameParts) : Prop where
  typed : parts.netInfo.netType ≠ eNetTypeTmp
  content : parts.netInfo.netType ≤ eNetTypeSpecial ↔ parts.content.isSome
  meta_pos : ∀ content ∈ parts.content, 0 < byteSize content.1

end FrameParts

/-- The frame is made of these parts. -/
structure Frame.BuiltFrom (f : Frame) (parts : FrameParts) : Prop where
  net : f.net = serialize parts.netInfo
  rest : ∀ content ∈ parts.content, f.rest = metaBody content.1 content.2
  meta_lt : ∀ content ∈ parts.content, byteSize content.1 < 2 ^ 16
  sound : parts.Sound

theorem exists_builtFrom {parts : FrameParts} (h : parts.Representable) (hsound : parts.Sound) :
    ∃ f : Frame, parts.bytes = f.bytes ∧ f.BuiltFrom parts := by
  obtain ⟨f, hbytes, hnet, _, hrest⟩ := h.exists_frame
  exact ⟨f, hbytes, hnet, hrest, h.2.1, hsound⟩

namespace Frame.BuiltFrom

variable {f : Frame} {parts : FrameParts} (h : f.BuiltFrom parts) (pre suf : Bytes)

include h

theorem net_ne : f.net ≠ [] := by
  intro hnil
  have hdefault := eq_default_of_serialize_nil (h.net ▸ hnil)
  exact h.sound.typed (congrArg NetInfo.netType hdefault)

theorem byteSize_lt : byteSize parts.netInfo < 2 ^ 16 := by
  have hlt := f.net_lt
  rwa [h.net] at hlt

theorem parsed : parse f.net = some parts.netInfo := by
  rw [h.net]
  exact PbMessage.parse_serialize _ (Nat.lt_trans h.byteSize_lt (by decide))

/-- **An endpoint reads the parts**, whatever stands around the frame. -/
theorem getMessageFromBinary_eq (hpre : pre.length < 2 ^ 31) :
    getMessageFromBinary (pre ++ f.bytes ++ suf) pre.length default (some (.new 0 .method))
      = .ok (parts.netInfo, some parts.packet) := by
  have hyields : f.NetYields default parts.netInfo := netYields_of_serialize h.net fun _ => rfl
  by_cases htype : parts.netInfo.netType ≤ eNetTypeSpecial
  · obtain ⟨⟨rpcMeta, body⟩, hcontent⟩ := Option.isSome_iff_exists.mp (h.sound.content.mp htype)
    have hread := getMessageFromBinary_metaBody hyields htype (h.rest _ hcontent)
      (h.sound.meta_pos _ hcontent) (h.meta_lt _ hcontent) suf hpre (.new 0 .method)
    rw [hread, FrameParts.packet, hcontent]
    rfl
  · have hnone : parts.content = none := by
      rw [← Option.not_isSome_iff_eq_none, ← h.sound.content]
      exact htype
    rw [getMessageFromBinary_net hyields (Int32.not_le.mp htype) suf hpre, FrameParts.packet, hnone]

/-- The gateway reads the net info. -/
theorem getNetInfo_eq (hend : pre.length + f.bytes.length < 2 ^ 31) :
    RpcRoute.getNetInfo (pre ++ f.bytes ++ suf) pre.length = .ok parts.netInfo := by
  have hlength := f.bytes_length
  have hsize : f.size = sizeofNetInfoSize + f.net.length + f.rest.length := rfl
  exact getNetInfo_frame f pre suf (by omega) h.net_ne h.parsed

/-- The route info inside the net info is read back. -/
theorem parse_routeNetInfo {routeNetInfo : RouteNetInfo}
    (hbinary : parts.netInfo.netBinary = serialize routeNetInfo) :
    parse parts.netInfo.netBinary = some routeNetInfo := parse_netBinary hbinary h.byteSize_lt

end Frame.BuiltFrom

/-- The whole frame is copied as it stands. -/
theorem Frame.readBytes_frame (f : Frame) (pre suf : Bytes) {n : Nat} (hn : n = f.bytes.length) :
    readBytes (pre ++ f.bytes ++ suf) pre.length n = .ok f.bytes :=
  readBytes_append pre suf rfl rfl hn

theorem byteSize_pos_of_request {rpcMeta : RpcMeta} {requestMeta : RpcRequestMeta}
    (h : rpcMeta.requestMeta = some requestMeta) : 0 < byteSize rpcMeta := by
  refine List.length_pos_iff.mpr fun hnil => ?_
  have hdefault := congrArg RpcMeta.requestMeta (eq_default_of_serialize_nil hnil)
  rw [h] at hdefault
  cases hdefault

/-! ## What has happened -/

/-- Who is connected, and what was seen. -/
structure Past where
  peer : Addr → Option Peer
  trace : List CallEvent

namespace Past

/-- Nothing that has happened is undone. -/
structure Grows (p p' : Past) : Prop where
  peer : ∀ addr peer, p.peer addr = some peer → p'.peer addr = some peer
  trace : ∀ e ∈ p.trace, e ∈ p'.trace

theorem Grows.refl (p : Past) : Grows p p := ⟨fun _ _ h => h, fun _ h => h⟩

/-- A server's client is connected here. -/
def IsServer (p : Past) (addr : Addr) : Prop := ∃ index route, p.peer addr = some (.server index route)

/-- The channel here has sent this request. -/
structure Called (p : Past) (addr : Addr) (rpcMeta : RpcMeta) (body : Bytes) : Prop where
  channel : p.peer addr = some .channel
  seen : .call addr rpcMeta.rpcRequestMeta.requestId (rpcMeta, body) ∈ p.trace

/-- A server has sent this reply to the channel here. -/
structure Replied (p : Past) (addr : Addr) (rpcMeta : RpcMeta) (body : Bytes) : Prop where
  channel : p.peer addr = some .channel
  seen : .reply addr rpcMeta.rpcRequestMeta.requestId (answerOf rpcMeta body) ∈ p.trace

variable {p p' : Past} {addr : Addr} {rpcMeta : RpcMeta} {body : Bytes}

theorem IsServer.mono (h : p.IsServer addr) (hgrows : p.Grows p') : p'.IsServer addr := by
  obtain ⟨index, route, hpeer⟩ := h
  exact ⟨index, route, hgrows.peer _ _ hpeer⟩

theorem Called.mono (h : p.Called addr rpcMeta body) (hgrows : p.Grows p') :
    p'.Called addr rpcMeta body := ⟨hgrows.peer _ _ h.channel, hgrows.trace _ h.seen⟩

theorem Replied.mono (h : p.Replied addr rpcMeta body) (hgrows : p.Grows p') :
    p'.Replied addr rpcMeta body := ⟨hgrows.peer _ _ h.channel, hgrows.trace _ h.seen⟩

/-- Nobody is both. -/
theorem IsServer.not_channel (h : p.IsServer addr) : p.peer addr ≠ some .channel := by
  obtain ⟨index, route, hpeer⟩ := h
  rw [hpeer]
  nofun

end Past

/-! ## What the parties send -/

/-- The parts of a heart. -/
def heartParts : FrameParts := ⟨⟨eNetTypeHeart, []⟩, none⟩

/-- The parts of a request that the gateway has stamped. -/
def stampedParts (rpcMeta : RpcMeta) (body : Bytes) (source : Socket) : FrameParts :=
  ⟨stampedNetInfo rpcMeta source, some (rpcMeta, body)⟩

theorem heartParts_sound : heartParts.Sound where
  typed := by decide
  content := by decide
  meta_pos := nofun

theorem heartParts_representable : heartParts.Representable := by
  refine ⟨?_, nofun, ?_⟩
  · decide
  · decide

theorem commandParts_sound (cmd : ERouteCmd) (cmdInfo : Bytes) : (commandParts cmd cmdInfo).Sound where
  typed := show eNetTypeRouteCmd ≠ eNetTypeTmp by decide
  content := iff_of_false (show ¬ eNetTypeRouteCmd ≤ eNetTypeSpecial by decide) nofun
  meta_pos := nofun

/-- A route frame is sound whatever its route info is. -/
theorem sound_of_route {netInfo : NetInfo} {rpcMeta : RpcMeta} {body : Bytes}
    (htype : netInfo.netType = eNetTypeRoute) (hpos : 0 < byteSize rpcMeta) :
    FrameParts.Sound ⟨netInfo, some (rpcMeta, body)⟩ where
  typed := by
    rw [htype]
    decide
  content := by
    rw [htype]
    exact iff_of_true (by decide) rfl
  meta_pos := by
    rintro _ ⟨⟩
    exact hpos

/-- The gateway reads the command. -/
theorem Frame.BuiltFrom.parse_command {f : Frame} {cmd : ERouteCmd} {cmdInfo : Bytes}
    (h : f.BuiltFrom (commandParts cmd cmdInfo)) :
    parse (commandParts cmd cmdInfo).netInfo.netBinary = some (⟨cmd, cmdInfo⟩ : RouteCmdRequest) := by
  have hle := NetInfo.netBinary_length_le (commandParts cmd cmdInfo).netInfo
  exact PbMessage.parse_serialize _ (Nat.lt_of_le_of_lt hle (Nat.lt_trans h.byteSize_lt (by decide)))

/-- The frame is as long as its parts. -/
theorem Frame.BuiltFrom.size_eq {f : Frame} {parts : FrameParts} (h : f.BuiltFrom parts)
    {content : RpcMeta × Bytes} (hcontent : parts.content = some content) : f.size = parts.size := by
  have hrest := h.rest content hcontent
  rw [Frame.size, h.net, hrest, metaBody_length, FrameParts.size, hcontent]
  rfl

/-- **The gateway stamps a request**, wherever it stands in the buffer. -/
theorem Frame.BuiltFrom.stamped {f : Frame} {rpcMeta : RpcMeta} {body : Bytes}
    (h : f.BuiltFrom (requestParts rpcMeta body)) (hsize : f.size < netPacketMaxSize) (socket : Socket) :
    ∃ g : Frame, g.BuiltFrom (stampedParts rpcMeta body socket) ∧
      ∀ pre post : Bytes, pre.length + f.bytes.length < 2 ^ 31 →
        RpcRoute.channelPacket (pre ++ f.bytes ++ post) pre.length (RpcChannelRoute.sendNetInfo rpcMeta)
          (channelRouteInfo rpcMeta) socket = .ok g.bytes := by
  have hlength := f.bytes_length
  have hparts : f.size = sizeofNetInfoSize + f.net.length + f.rest.length := rfl
  have hlt : byteSize (stampedNetInfo rpcMeta socket) < 2 ^ 16 :=
    byteSize_stamp_lt h.net rfl (show (channelRouteInfo rpcMeta).isChannelPacket = true from rfl) hsize socket
  let g := stampedFrame f (stampedNetInfo rpcMeta socket) hlt hsize
  refine ⟨g, ⟨rfl, h.rest, h.meta_lt, sound_of_route rfl (h.sound.meta_pos _ rfl)⟩, fun pre post hlimit => ?_⟩
  exact buildSendPacket_frame f pre post (by omega) hlt g.size_lt

/-- What the channel at `addr` sends: its requests, and commands for itself. -/
inductive ChannelSends (p : Past) (addr : Addr) : FrameParts → Prop
  | request {rpcMeta : RpcMeta} {body : Bytes} (called : p.Called addr rpcMeta body) :
      ChannelSends p addr (requestParts rpcMeta body)
  | command (cmdInfo : Bytes) : ChannelSends p addr (commandParts eRouteCmdChannelServiceRegister cmdInfo)
  | heart : ChannelSends p addr heartParts

/-- What a server sends to a gateway: pushes to anybody, replies to whom they are for, and its commands. -/
inductive ServerSends (p : Past) (gateway : Nat) : FrameParts → Prop
  | message {sockets : List Socket} {rpcMeta : RpcMeta} {body : Bytes}
      (replied : rpcMeta.rpcRequestMeta.requestId ≠ rpcRequestIdNull →
        ∀ socket ∈ sockets, p.Replied ⟨gateway, socket⟩ rpcMeta body) :
      ServerSends p gateway (replyParts sockets rpcMeta body)
  | command {cmd : ERouteCmd} (cmdInfo : Bytes) (server : cmd ≠ eRouteCmdChannelServiceRegister) :
      ServerSends p gateway (commandParts cmd cmdInfo)
  | heart : ServerSends p gateway heartParts

/-- What goes up a connection. -/
inductive PeerSends (p : Past) (addr : Addr) (parts : FrameParts) : Prop
  | channel (peer : p.peer addr = some .channel) (sends : ChannelSends p addr parts)
  | server (peer : p.IsServer addr) (sends : ServerSends p addr.gateway parts)

/-- What a gateway sends to a connection: the requests of its channels go to servers, and replies to the
    channel that they are for. -/
inductive GatewaySends (p : Past) (addr : Addr) : FrameParts → Prop
  | request {rpcMeta : RpcMeta} {body : Bytes} {source : Socket} (server : p.IsServer addr)
      (called : p.Called ⟨addr.gateway, source⟩ rpcMeta body) :
      GatewaySends p addr (stampedParts rpcMeta body source)
  | message {sockets : List Socket} {rpcMeta : RpcMeta} {body : Bytes}
      (replied : rpcMeta.rpcRequestMeta.requestId ≠ rpcRequestIdNull → p.Replied addr rpcMeta body) :
      GatewaySends p addr (replyParts sockets rpcMeta body)
  | heart : GatewaySends p addr heartParts

/-- The frame is one that was sent for a reason. -/
def Frame.Says (P : FrameParts → Prop) (f : Frame) : Prop := ∃ parts, P parts ∧ f.BuiltFrom parts

section

variable {p p' : Past} (hgrows : p.Grows p') {addr : Addr} {gateway : Nat} {parts : FrameParts}

include hgrows

theorem ChannelSends.mono (h : ChannelSends p addr parts) : ChannelSends p' addr parts := by
  cases h with
  | request called => exact .request (called.mono hgrows)
  | command cmdInfo => exact .command cmdInfo
  | heart => exact .heart

theorem ServerSends.mono (h : ServerSends p gateway parts) : ServerSends p' gateway parts := by
  cases h with
  | message replied => exact .message fun hid socket hmem => (replied hid socket hmem).mono hgrows
  | command cmdInfo server => exact .command cmdInfo server
  | heart => exact .heart

theorem PeerSends.mono (h : PeerSends p addr parts) : PeerSends p' addr parts := by
  cases h with
  | channel peer sends => exact .channel (hgrows.peer _ _ peer) (sends.mono hgrows)
  | server peer sends => exact .server (peer.mono hgrows) (sends.mono hgrows)

theorem GatewaySends.mono (h : GatewaySends p addr parts) : GatewaySends p' addr parts := by
  cases h with
  | request server called => exact .request (server.mono hgrows) (called.mono hgrows)
  | message replied => exact .message fun hid => (replied hid).mono hgrows
  | heart => exact .heart

end

theorem Frame.Says.mono {P Q : FrameParts → Prop} (hPQ : ∀ parts, P parts → Q parts) {f : Frame}
    (h : f.Says P) : f.Says Q := by
  obtain ⟨parts, hparts, hbuilt⟩ := h
  exact ⟨parts, hPQ parts hparts, hbuilt⟩

end Frrpc
