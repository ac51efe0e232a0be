import Frrpc.Deployment.Correctness.Frames

/-!
# `Deployment.Correctness.Lengths` — how long the frames are

A meta and a route info are little longer than the names and lists in them. So a message for some thousand
sockets can be framed, and a call with a name and a body of some thousand bytes stays below the packet limit
on its whole way (`requestParts_fits`, `stampedParts_fits`, `replyParts_fits`).
-/

namespace Frrpc

open Lib

/-! ## Fields and messages -/

/-- A number takes at most ten bytes, and one before it. -/
theorem varintField_length_le (number : Nat) {n : Nat} (hnumber : number < 16) (hn : n < 2 ^ 64) :
    (encodeFields (varintField number n)).length ≤ 11 := by
  have htag : varintSize (8 * number) ≤ 0 + 1 := varintSize_le (by omega) (by omega)
  have hvalue : varintSize n ≤ 9 + 1 := varintSize_le (Nat.le_refl 9) (hn.trans_le (by decide))
  rw [varintField_length]
  split
  · omega
  · omega

/-- What stands before bytes that are not too many. -/
theorem prefix_length_le {number n : Nat} (hnumber : number < 16) (hn : n < 2 ^ 28) :
    varintSize (8 * number + 2) + varintSize n ≤ 5 := by
  have htag : varintSize (8 * number + 2) ≤ 0 + 1 := varintSize_le (by omega) (by omega)
  have hlength : varintSize n ≤ 3 + 1 := varintSize_le (by omega) (by omega)
  omega

/-- A field of bytes takes a few bytes more. -/
theorem bytesField_length_le (number : Nat) {bs : Bytes} {n : Nat} (hnumber : number < 16) (hle : bs.length ≤ n)
    (hlt : n < 2 ^ 28) : (encodeFields (bytesField number bs)).length ≤ n + 5 := by
  have hprefix := prefix_length_le hnumber (hle.trans_lt hlt)
  rw [bytesField_length]
  split
  · omega
  · omega

/-- So does a sub-message. -/
theorem messageField_length_le (number : Nat) {bs : Option Bytes} {n : Nat} (hnumber : number < 16)
    (hle : ∀ b ∈ bs, b.length ≤ n) (hlt : n < 2 ^ 28) :
    (encodeFields (messageField number bs)).length ≤ n + 5 := by
  cases bs with
  | none => exact Nat.zero_le _
  | some bs =>
    have hle := hle bs rfl
    have hprefix := prefix_length_le hnumber (hle.trans_lt hlt)
    have hlength : (encodeFields (messageField number (some bs))).length = _ := encodeFields_bytes_length number bs
    simp only [varintSize] at hprefix
    omega

/-- A socket takes at most ten bytes. -/
theorem packed_length_le (sockets : List Socket) : (packed sockets).length ≤ 10 * sockets.length := by
  induction sockets with
  | nil => exact Nat.le_refl 0
  | cons socket sockets ih =>
    have hvarint : varintSize (int32Bits socket) ≤ 9 + 1 :=
      varintSize_le (Nat.le_refl 9) ((int32Bits_lt socket).trans_le (by decide))
    have hcons : (packed (socket :: sockets)).length = varintSize (int32Bits socket) + (packed sockets).length := by
      rw [packed, List.flatMap_cons, List.length_append]
      rfl
    rw [hcons, List.length_cons]
    omega

theorem NetInfo.byteSize_le (netInfo : NetInfo) {n : Nat} (hbinary : netInfo.netBinary.length ≤ n)
    (hn : n < 2 ^ 28) : byteSize netInfo ≤ n + 16 := by
  have htype := varintField_length_le 1 (by decide) (int32Bits_lt netInfo.netType)
  have hbytes := bytesField_length_le 2 (by decide) hbinary hn
  show (encodeFields netInfo.fields).length ≤ _
  rw [NetInfo.fields, encodeFields_append, List.length_append, List.append_nil]
  omega

theorem RouteNetInfo.byteSize_le (routeNetInfo : RouteNetInfo) {n k : Nat}
    (hname : (utf8 routeNetInfo.serviceName).length ≤ n) (hsockets : routeNetInfo.targetSockets.length ≤ k)
    (hn : n < 2 ^ 28) (hk : 10 * k < 2 ^ 28) : byteSize routeNetInfo ≤ n + 10 * k + 32 := by
  have hflag : (encodeFields (varintField 1 routeNetInfo.isChannelPacket.toNat)).length ≤ 11 :=
    varintField_length_le 1 (by decide) (by cases routeNetInfo.isChannelPacket <;> decide)
  have hstring := bytesField_length_le 2 (by decide) hname hn
  have hpacked := (packed_length_le routeNetInfo.targetSockets).trans (Nat.mul_le_mul_left 10 hsockets)
  have hlist := bytesField_length_le 3 (by decide) hpacked hk
  have hsource := varintField_length_le 4 (by decide) (int32Bits_lt routeNetInfo.sourceSocket)
  show (encodeFields routeNetInfo.fields).length ≤ _
  rw [RouteNetInfo.fields, encodeFields_append, encodeFields_append, encodeFields_append, List.append_nil,
    List.length_append, List.length_append, List.length_append]
  omega

theorem RpcMeta.byteSize_le (rpcMeta : RpcMeta) {n e : Nat} (hname : (utf8 rpcMeta.serviceName).length ≤ n)
    (herror : (utf8 rpcMeta.rpcResponseMeta.error).length ≤ e) (hn : n < 2 ^ 28) (he : e < 2 ^ 27) :
    byteSize rpcMeta ≤ n + e + 64 := by
  have hstring := bytesField_length_le 1 (by decide) hname hn
  have hindex := varintField_length_le 2 (by decide) (int32Bits_lt rpcMeta.methodIndex)
  have hcompress := varintField_length_le 5 (by decide) (int32Bits_lt rpcMeta.compressType)
  have hrequest : (encodeFields (messageField 3
      (rpcMeta.requestMeta.map fun r => encodeFields r.fields))).length ≤ 11 + 5 := by
    refine messageField_length_le 3 (by decide) (fun b hb => ?_) (by decide)
    obtain ⟨requestMeta, _, rfl⟩ := Option.map_eq_some_iff.mp hb
    rw [RpcRequestMeta.fields, List.append_nil]
    exact varintField_length_le 1 (by decide) (UInt64.toNat_lt _)
  have hresponse : (encodeFields (messageField 4
      (rpcMeta.responseMeta.map fun r => encodeFields r.fields))).length ≤ e + 16 + 5 := by
    refine messageField_length_le 4 (by decide) (fun b hb => ?_) (by omega)
    obtain ⟨responseMeta, hmeta, rfl⟩ := Option.map_eq_some_iff.mp hb
    rw [RpcMeta.rpcResponseMeta, hmeta] at herror
    have htext : (encodeFields (bytesField 1 (utf8 responseMeta.error))).length ≤ e + 5 :=
      bytesField_length_le 1 (by decide) herror (he.trans (by decide))
    have hfailed : (encodeFields (varintField 2 responseMeta.failed.toNat)).length ≤ 11 :=
      varintField_length_le 2 (by decide) (by cases responseMeta.failed <;> decide)
    rw [RpcResponseMeta.fields, encodeFields_append, List.length_append, List.append_nil]
    omega
  show (encodeFields rpcMeta.fields).length ≤ _
  rw [RpcMeta.fields, encodeFields_append, encodeFields_append, encodeFields_append, encodeFields_append,
    List.append_nil, List.length_append, List.length_append, List.length_append, List.length_append]
  omega

/-! ## Messages and commands -/

/-- **A message to some thousand sockets can be framed.** -/
theorem replyParts_representable {sockets : List Socket} {rpcMeta : RpcMeta} {body : Bytes}
    (hsockets : sockets.length ≤ 6000) (hmeta : byteSize rpcMeta < 2 ^ 16) (hbody : body.length < 2 ^ 31) :
    (replyParts sockets rpcMeta body).Representable := by
  have hname : (utf8 "").length ≤ 0 := by decide
  have hroute := RouteNetInfo.byteSize_le ⟨false, "", sockets, socketNull⟩ hname hsockets (by decide) (by decide)
  have hnet := NetInfo.byteSize_le (replyParts sockets rpcMeta body).netInfo hroute (by decide)
  refine ⟨by omega, ?_, ?_⟩
  · rintro _ ⟨⟩
    exact hmeta
  · show sizeofNetInfoSize + byteSize (replyParts sockets rpcMeta body).netInfo
      + (sizeofRpcMetaSize + byteSize rpcMeta + body.length) < 2 ^ 32
    simp only [sizeofNetInfoSize, sizeofRpcMetaSize]
    omega

/-- A command is little longer than its info. -/
theorem byteSize_command_le {cmd : ERouteCmd} {cmdInfo : Bytes} {n : Nat} (hinfo : cmdInfo.length ≤ n)
    (hn : n ≤ 60000) : byteSize (commandParts cmd cmdInfo).netInfo ≤ n + 32 := by
  have hcommand : (serialize (⟨cmd, cmdInfo⟩ : RouteCmdRequest)).length ≤ n + 16 := by
    have hcmd := varintField_length_le 1 (by decide) (int32Bits_lt cmd)
    have hbytes := bytesField_length_le 2 (by decide) hinfo (by omega)
    show (encodeFields (varintField 1 (int32Bits cmd) ++ (bytesField 2 cmdInfo ++ []))).length ≤ n + 16
    rw [encodeFields_append, List.length_append, List.append_nil]
    omega
  exact NetInfo.byteSize_le (commandParts cmd cmdInfo).netInfo hcommand (by omega)

/-- **A command that is not too long can be framed.** -/
theorem commandParts_representable {cmd : ERouteCmd} {cmdInfo : Bytes} (hinfo : cmdInfo.length ≤ 60000) :
    (commandParts cmd cmdInfo).Representable := by
  have hnet : byteSize (commandParts cmd cmdInfo).netInfo ≤ 60000 + 32 := byteSize_command_le hinfo (Nat.le_refl _)
  refine ⟨by omega, nofun, ?_⟩
  show sizeofNetInfoSize + byteSize _ + 0 < 2 ^ 32
  rw [sizeofNetInfoSize]
  omega

/-- A shorter one stays below the packet limit. -/
theorem commandParts_fits {cmd : ERouteCmd} {cmdInfo : Bytes} (hinfo : cmdInfo.length ≤ 4000) :
    (commandParts cmd cmdInfo).Fits := by
  have hnet : byteSize (commandParts cmd cmdInfo).netInfo ≤ 4000 + 32 := byteSize_command_le hinfo (by decide)
  show sizeofNetInfoSize + byteSize (commandParts cmd cmdInfo).netInfo + 0 < netPacketMaxSize
  rw [sizeofNetInfoSize, netPacketMaxSize]
  omega

/-- What a server tells of a service. -/
theorem serviceInfo_length_le {serviceName : ServiceName} {serviceAddr : ServiceAddr}
    (h : (utf8 serviceName).length + (utf8 serviceAddr).length ≤ 3900) :
    (serialize (⟨serviceName, serviceAddr⟩ : RouteServiceInfo)).length ≤ 4000 := by
  have hname := bytesField_length_le 1 (by decide) (Nat.le_refl (utf8 serviceName).length) (by omega)
  have haddr := bytesField_length_le 2 (by decide) (Nat.le_refl (utf8 serviceAddr).length) (by omega)
  show (encodeFields (bytesField 1 (utf8 serviceName) ++ (bytesField 2 (utf8 serviceAddr) ++ []))).length ≤ 4000
  rw [encodeFields_append, List.length_append, List.append_nil]
  omega

/-! ## The frames of a call -/

/-- A name, an error and a body that go into one packet. -/
def Short (serviceName : ServiceName) (error : String) (body : Bytes) : Prop :=
  2 * (utf8 serviceName).length + (utf8 error).length + body.length ≤ 3900

instance (serviceName : ServiceName) (error : String) (body : Bytes) : Decidable (Short serviceName error body) :=
  inferInstanceAs (Decidable (_ ≤ _))

/-- A route frame with such a meta and body, to one socket at most. -/
theorem fits_of_short {netInfo : NetInfo} (routeNetInfo : RouteNetInfo) {rpcMeta : RpcMeta} {body : Bytes}
    (hbinary : netInfo.netBinary = serialize routeNetInfo)
    (hname : (utf8 routeNetInfo.serviceName).length ≤ (utf8 rpcMeta.serviceName).length)
    (hsockets : routeNetInfo.targetSockets.length ≤ 1)
    (hshort : Short rpcMeta.serviceName rpcMeta.rpcResponseMeta.error body) :
    FrameParts.Fits ⟨netInfo, some (rpcMeta, body)⟩ := by
  unfold Short at hshort
  have hroute := routeNetInfo.byteSize_le hname hsockets (by omega) (by decide)
  have hlength : netInfo.netBinary.length = byteSize routeNetInfo := congrArg List.length hbinary
  have hnet := netInfo.byteSize_le (hlength.trans_le hroute) (by omega)
  have hmeta := rpcMeta.byteSize_le (Nat.le_refl _) (Nat.le_refl _) (by omega) (by omega)
  show sizeofNetInfoSize + byteSize netInfo + (sizeofRpcMetaSize + byteSize rpcMeta + body.length) < netPacketMaxSize
  simp only [sizeofNetInfoSize, sizeofRpcMetaSize, netPacketMaxSize]
  omega

section

variable {rpcMeta : RpcMeta} {body : Bytes}
  (hshort : Short rpcMeta.serviceName rpcMeta.rpcResponseMeta.error body)

include hshort

theorem byteSize_of_short : byteSize rpcMeta ≤ 4000 ∧ body.length ≤ 3900 := by
  unfold Short at hshort
  have hmeta := rpcMeta.byteSize_le (Nat.le_refl _) (Nat.le_refl _) (by omega) (by omega)
  omega

/-- To few sockets it can be sent. -/
theorem representable_of_short {sockets : List Socket} (hsockets : sockets.length ≤ 1) :
    (replyParts sockets rpcMeta body).Representable := by
  obtain ⟨hmeta, hbody⟩ := byteSize_of_short hshort
  exact replyParts_representable (hsockets.trans (by decide)) (hmeta.trans_lt (by decide))
    (hbody.trans_lt (by decide))

theorem requestParts_fits : (requestParts rpcMeta body).Fits :=
  fits_of_short (channelRouteInfo rpcMeta) rfl (Nat.le_refl _) (Nat.zero_le 1) hshort

theorem stampedParts_fits (source : Socket) : (stampedParts rpcMeta body source).Fits :=
  fits_of_short { channelRouteInfo rpcMeta with sourceSocket := source } rfl (Nat.le_refl _) (Nat.zero_le 1) hshort

theorem replyParts_fits (socket : Socket) : (replyParts [socket] rpcMeta body).Fits :=
  fits_of_short ⟨false, "", [socket], socketNull⟩ rfl (Nat.zero_le _) (Nat.le_refl 1) hshort

end

end Frrpc
