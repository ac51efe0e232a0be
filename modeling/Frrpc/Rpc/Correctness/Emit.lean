import Frrpc.Public.Frame
import Frrpc.Rpc.NetChannel
import Frrpc.Rpc.NetServer

/-!
# `Rpc.Correctness.Emit` — which frames the senders let out

Every receiver rejects a frame that declares `NET_PACKET_MAX_SIZE` bytes or more, and closes the connection.
No sender looks at a size: each of the four send paths hands over whatever it built, with its lengths
narrowed to their size fields. So a send path keeps to the limit exactly when the frame does
(`sends_acceptable_iff`), and beyond it the peer rejects what was reported as sent (`rejected_of_large`).
-/

namespace Frrpc

open Lib

section

variable [Protobuf]

/-! ## What a frame is built from -/

/-- The parts of a frame: `content` is the meta and the body of a frame that has them. -/
structure FrameParts where
  netInfo : NetInfo
  content : Option (RpcMeta × Bytes)

namespace FrameParts

/-- The builder for these parts. -/
def bytes (parts : FrameParts) : Bytes :=
  match parts.content with
  | none => buildBinaryFromMessageNet parts.netInfo
  | some (rpcMeta, body) => buildBinaryFromMessage parts.netInfo rpcMeta body

/-- The number of bytes behind the size word, no length narrowed. -/
def size (parts : FrameParts) : Nat :=
  sizeofNetInfoSize + byteSize parts.netInfo +
    match parts.content with
    | none => 0
    | some (rpcMeta, body) => sizeofRpcMetaSize + byteSize rpcMeta + body.length

def Fits (parts : FrameParts) : Prop := parts.size < netPacketMaxSize

/-- Both 16-bit lengths can be represented, and so can the packet size. -/
def Representable (parts : FrameParts) : Prop :=
  byteSize parts.netInfo < 2 ^ 16 ∧ (∀ content ∈ parts.content, byteSize content.1 < 2 ^ 16) ∧
    parts.size < 2 ^ 32

theorem Fits.representable {parts : FrameParts} (h : parts.Fits) : parts.Representable := by
  have hmax : netPacketMaxSize < 2 ^ 16 := by decide
  have hsize : parts.size < 2 ^ 16 := Nat.lt_trans h hmax
  obtain ⟨netInfo, content⟩ := parts
  cases content with
  | none =>
    dsimp only [size] at hsize
    exact ⟨by dsimp only; omega, nofun, by dsimp only [size]; omega⟩
  | some content =>
    dsimp only [size] at hsize
    refine ⟨by dsimp only; omega, ?_, by dsimp only [size]; omega⟩
    rintro _ ⟨⟩
    omega

/-- **Representable parts are built into a frame of the format.** -/
theorem Representable.exists_frame {parts : FrameParts} (h : parts.Representable) :
    ∃ f : Frame, parts.bytes = f.bytes ∧ f.net = serialize parts.netInfo ∧ f.size = parts.size ∧
      ∀ content ∈ parts.content, f.rest = metaBody content.1 content.2 := by
  obtain ⟨hnet, hmeta, hsize⟩ := h
  obtain ⟨netInfo, content⟩ := parts
  cases content with
  | none =>
    obtain ⟨f, hf, hfnet, hrest⟩ := buildBinaryFromMessageNet_eq hnet
    refine ⟨f, hf, hfnet, ?_, nofun⟩
    rw [Frame.size, hfnet, hrest]
    rfl
  | some content =>
    obtain ⟨rpcMeta, body⟩ := content
    obtain ⟨f, hf, hfnet, hrest⟩ := buildBinaryFromMessage_eq hnet (hmeta _ rfl) hsize
    refine ⟨f, hf, hfnet, ?_, ?_⟩
    · rw [Frame.size, hfnet, hrest, metaBody_length]
      rfl
    · rintro _ ⟨⟩
      exact hrest

end FrameParts

/-! ## What the peer reads -/

/-- The frame declares a packet size that receivers accept, and true lengths of its net info and its
    meta. -/
structure Declares (parts : FrameParts) (frame : Bytes) : Prop where
  size : ∃ p, readNumber sizeofPacketSize frame 0 = .ok p ∧ 0 < p ∧ p < netPacketMaxSize
  net : readNumber sizeofNetInfoSize frame sizeofPacketSize = .ok (byteSize parts.netInfo)
  rpcMeta : ∀ content ∈ parts.content,
    readNumber sizeofRpcMetaSize frame (sizeofPacketSize + sizeofNetInfoSize + byteSize parts.netInfo)
      = .ok (byteSize content.1)

theorem readNumber_declared {parts : FrameParts} (h : parts.Representable) :
    readNumber sizeofPacketSize parts.bytes 0 = .ok parts.size := by
  obtain ⟨f, hbytes, _, hsize, _⟩ := h.exists_frame
  have hread := f.readNumber_size [] []
  rw [List.nil_append, List.append_nil] at hread
  rw [hbytes, ← hsize]
  exact hread

theorem declares_of_fits {parts : FrameParts} (h : parts.Fits) : Declares parts parts.bytes := by
  obtain ⟨f, hbytes, hnet, hsize, hrest⟩ := h.representable.exists_frame
  have hlen : f.net.length = byteSize parts.netInfo := by rw [hnet]; rfl
  refine ⟨⟨parts.size, readNumber_declared h.representable, ?_, h⟩, ?_, fun content hcontent => ?_⟩
  · simp only [FrameParts.size, sizeofNetInfoSize]
    omega
  · have hread : readNumber sizeofNetInfoSize ([] ++ f.bytes ++ []) sizeofPacketSize = .ok f.net.length :=
      f.readNumber_netSize [] [] rfl
    rw [List.nil_append, List.append_nil, hlen] at hread
    rw [hbytes]
    exact hread
  · -- the meta's size word is the first thing behind the net part
    obtain ⟨pre, hsplit, hprelen⟩ := f.split_rest [] []
    rw [List.nil_append, List.append_nil, List.append_nil, hrest content hcontent, metaBody] at hsplit
    have hmeta := h.representable.2.1 content hcontent
    rw [hbytes]
    refine readNumber_append pre (serialize content.1 ++ content.2) ?_ ?_ hmeta
    · rw [hsplit, List.append_assoc]
    · rw [hprelen, hlen, List.length_nil]
      omega

/-- A frame that declares an accepted size passes the check of a receiver. -/
theorem Declares.accepted {parts : FrameParts} {frame : Bytes} (h : Declares parts frame) :
    ∃ p, getAndCheckPacketSize frame 0 = .ok p := by
  obtain ⟨p, hread, hpos, hlt⟩ := h.size
  refine ⟨p, ?_⟩
  rw [getAndCheckPacketSize, hread, ok_bind, if_neg (Nat.not_le.mpr hlt), if_neg (Nat.pos_iff_ne_zero.mp hpos)]
  rfl

/-- **A frame beyond the limit is rejected**, and the connection closed. -/
theorem rejected_of_large {parts : FrameParts} (h : parts.Representable) (hlarge : ¬ parts.Fits) :
    getAndCheckPacketSize parts.bytes 0 = .error .refused := by
  rw [getAndCheckPacketSize, readNumber_declared h, ok_bind, if_pos (Nat.not_lt.mp hlarge)]
  rfl

/-! ## What a send path does -/

/-- A send path hands over only frames that declare what they are and that the peer's check accepts; a frame
    beyond the limit it refuses, and sends nothing. -/
structure SendsAcceptable (parts : FrameParts) (sent sent' : List Bytes) (result : Bool) : Prop where
  declares : ∀ frame ∈ sent'.drop sent.length, Declares parts frame
  accepted : result = true → ∀ frame ∈ sent'.drop sent.length, ∃ p, getAndCheckPacketSize frame 0 = .ok p
  refuses : ¬ parts.Fits → result = false ∧ sent' = sent

/-- A path that always hands over its frame is acceptable for the frames within the limit. -/
theorem sendsAcceptable_send {parts : FrameParts} {sent sent' : List Bytes} {result : Bool}
    (h : sent' = sent ++ [parts.bytes]) : SendsAcceptable parts sent sent' result ↔ parts.Fits := by
  subst h
  constructor
  · intro hacceptable
    by_contra hlarge
    have hkept := (hacceptable.refuses hlarge).2
    exact absurd (congrArg List.length hkept) (by simp)
  · intro hfits
    have hdeclares : ∀ frame ∈ (sent ++ [parts.bytes]).drop sent.length, Declares parts frame := by
      intro frame hframe
      rw [List.drop_left, List.mem_singleton] at hframe
      rw [hframe]
      exact declares_of_fits hfits
    exact ⟨hdeclares, fun _ frame hframe => (hdeclares frame hframe).accepted,
      fun hlarge => absurd hfits hlarge⟩

/-- A path that hands over nothing has only to return `false` beyond the limit. -/
theorem sendsAcceptable_nothing {parts : FrameParts} {sent : List Bytes} {result : Bool} :
    SendsAcceptable parts sent sent result ↔ result = false ∨ parts.Fits := by
  constructor
  · intro hacceptable
    by_cases hfits : parts.Fits
    · exact Or.inr hfits
    · exact Or.inl (hacceptable.refuses hfits).1
  · intro h
    refine ⟨fun frame hframe => ?_, fun _ frame hframe => ?_, fun hlarge => ⟨h.resolve_right hlarge, rfl⟩⟩
    · rw [List.drop_length] at hframe
      cases hframe
    · rw [List.drop_length] at hframe
      cases hframe

/-! ## The four send paths -/

/-- The parts of a channel's request. -/
def requestParts (rpcMeta : RpcMeta) (body : Bytes) : FrameParts :=
  ⟨RpcChannelRoute.sendNetInfo rpcMeta, some (rpcMeta, body)⟩

theorem requestParts_size (rpcMeta : RpcMeta) (body : Bytes) :
    (requestParts rpcMeta body).size = sizeofNetInfoSize + byteSize (RpcChannelRoute.sendNetInfo rpcMeta)
      + (sizeofRpcMetaSize + byteSize rpcMeta + body.length) := rfl

/-- The parts of a server's message to these sockets. -/
def replyParts (sockets : List Socket) (rpcMeta : RpcMeta) (body : Bytes) : FrameParts :=
  ⟨⟨eNetTypeRoute, serialize (⟨false, "", sockets, socketNull⟩ : RouteNetInfo)⟩, some (rpcMeta, body)⟩

/-- The parts of a route command. -/
def commandParts (cmd : ERouteCmd) (cmdInfo : Bytes) : FrameParts :=
  ⟨⟨eNetTypeRouteCmd, serialize (⟨cmd, cmdInfo⟩ : RouteCmdRequest)⟩, none⟩

variable [FrNet] [Serializer]

theorem sendTo_acceptable_iff (c : RpcServerRouteClient) (sockets : List Socket)
    (rpcMeta : RpcMeta) (body : Bytes) :
    SendsAcceptable (replyParts sockets rpcMeta body) c.sent (c.sendTo sockets rpcMeta body).1.sent
      (c.sendTo sockets rpcMeta body).2 ↔ sockets = [] ∨ (replyParts sockets rpcMeta body).Fits := by
  unfold RpcServerRouteClient.sendTo
  by_cases hnone : sockets = []
  · simp only [if_pos hnone]
    rw [sendsAcceptable_nothing]
    exact iff_of_true (Or.inl rfl) (Or.inl hnone)
  · simp only [if_neg hnone]
    rw [or_iff_right hnone]
    split
    · exact sendsAcceptable_send rfl
    · rw [sendsAcceptable_nothing]
      simp

/-- **Every send path keeps to the packet limit exactly when its frame does**, whatever the network makes of
    the frame: a channel's requests and registrations, and a server's messages and commands. -/
theorem sends_acceptable_iff :
    (∀ (c : RpcChannelRoute) rpcMeta body,
      SendsAcceptable (requestParts rpcMeta body) c.sent (c.send rpcMeta body).1.sent (c.send rpcMeta body).2
        ↔ (requestParts rpcMeta body).Fits) ∧
    (∀ (c : RpcChannelRoute) (serviceName : ServiceName) (serviceAddr : ServiceAddr),
      SendsAcceptable (commandParts eRouteCmdChannelServiceRegister
          (serialize (⟨serviceName, serviceAddr⟩ : ChannelServiceRegister)))
        c.sent (c.registerService serviceName serviceAddr).1.sent (c.registerService serviceName serviceAddr).2
        ↔ (commandParts eRouteCmdChannelServiceRegister
          (serialize (⟨serviceName, serviceAddr⟩ : ChannelServiceRegister))).Fits) ∧
    (∀ (c : RpcServerRouteClient) sockets rpcMeta body,
      SendsAcceptable (replyParts sockets rpcMeta body) c.sent (c.sendTo sockets rpcMeta body).1.sent
        (c.sendTo sockets rpcMeta body).2 ↔ sockets = [] ∨ (replyParts sockets rpcMeta body).Fits) ∧
    ∀ (c : RpcServerRouteClient) cmd cmdInfo,
      SendsAcceptable (commandParts cmd cmdInfo) c.sent (c.sendRouteCmd cmd cmdInfo).1.sent
        (c.sendRouteCmd cmd cmdInfo).2 ↔ (commandParts cmd cmdInfo).Fits := by
  refine ⟨fun c rpcMeta body => ?_, fun c serviceName serviceAddr => ?_, sendTo_acceptable_iff,
    fun c cmd cmdInfo => ?_⟩
  · exact sendsAcceptable_send rfl
  · exact sendsAcceptable_send rfl
  · exact sendsAcceptable_send rfl

end

/-! ## A large request -/

/-- The meta of a first request. -/
def firstMeta : RpcMeta := ⟨"S", 0, some ⟨1⟩, none, 0⟩

/-- Its frame, with a body of 4096 bytes. -/
def largeRequest : FrameParts := requestParts firstMeta (List.replicate netPacketMaxSize 0)

theorem largeRequest_size : largeRequest.size = 20 + netPacketMaxSize := by
  have hnet : byteSize (RpcChannelRoute.sendNetInfo firstMeta) = 9 := by decide
  have hmeta : byteSize firstMeta = 7 := by decide
  rw [largeRequest, requestParts_size, hnet, hmeta, List.length_replicate]
  rfl

section

attribute [local instance] networkUp

/-- **A request that is too large is reported as sent, and the peer closes the connection on it.** -/
theorem largeRequest_sent :
    (RpcChannelRoute.send ⟨[], []⟩ firstMeta (List.replicate netPacketMaxSize 0))
      = (⟨[], [largeRequest.bytes]⟩, true) ∧
    getAndCheckPacketSize largeRequest.bytes 0 = .error .refused ∧
    ¬ SendsAcceptable largeRequest [] [largeRequest.bytes] true := by
  have hlarge : ¬ largeRequest.Fits := by
    rw [FrameParts.Fits, largeRequest_size]
    decide
  have hnet : byteSize (RpcChannelRoute.sendNetInfo firstMeta) < 2 ^ 16 := by decide
  have hmeta : byteSize firstMeta < 2 ^ 16 := by decide
  refine ⟨rfl, rejected_of_large ⟨hnet, ?_, ?_⟩ hlarge, fun h => ?_⟩
  · rintro _ ⟨⟩
    exact hmeta
  · rw [largeRequest_size]
    decide
  · exact hlarge ((sendsAcceptable_send (List.nil_append _).symm).mp h)

end

end Frrpc
