import Frrpc.Pb.Message

/-!
# `Pb.Wire` — the generated codecs (`net.pb.cc`, `route.pb.cc`, `frrpc.pb.cc`)

For each message, its fields in the order of the `.proto` declaration and how the generated parser takes
one field in; with the round trips, `wire` is an instance of `Protobuf`.
-/

namespace Frrpc

open Lib

/-! ## `net.proto` -/

def NetInfo.fields (m : NetInfo) : List Field :=
  varintField 1 (int32Bits m.netType) ++ (bytesField 2 m.netBinary ++ [])

def NetInfo.merge (m : NetInfo) (f : Field) : Option NetInfo :=
  match f.number, f.value with
  | 1, .varint n => some { m with netType := ofInt32Bits n }
  | 2, .bytes bs => some { m with netBinary := bs }
  | _, _ => some m

theorem NetInfo.merge_fields (m : NetInfo) : m.fields.foldlM NetInfo.merge default = some m := by
  rw [fields, foldlM_varintField ⟨m.netType, []⟩, foldlM_bytesField m]
  · rfl
  · intro h; rw [← h]
  · intro _; rfl
  · intro h; rw [int32Bits_eq_zero h]; rfl
  · intro _; simp only [merge, ofInt32Bits_int32Bits]; rfl

/-- A net info is at least as long as its binary. -/
theorem NetInfo.netBinary_length_le (m : NetInfo) :
    m.netBinary.length ≤ (encodeFields m.fields).length := by
  by_cases hnil : m.netBinary = []
  · rw [hnil]; exact Nat.zero_le _
  · have hmem : ⟨2, .bytes m.netBinary⟩ ∈ m.fields := by simp [fields, bytesField, hnil]
    exact bytes_length_le_encodeFields hmem

theorem NetInfo.legal_fields (m : NetInfo) : ∀ f ∈ m.fields, Legal f :=
  legal_append (legal_varintField (by decide) (by decide) (int32Bits_lt _))
    (legal_append (legal_bytesField _ (by decide) (by decide)) legal_nil)

/-! ## `route.proto` -/

def RouteNetInfo.fields (m : RouteNetInfo) : List Field :=
  varintField 1 m.isChannelPacket.toNat ++ (bytesField 2 (utf8 m.serviceName) ++
    (bytesField 3 (packed m.targetSockets) ++ (varintField 4 (int32Bits m.sourceSocket) ++ [])))

def RouteNetInfo.merge (m : RouteNetInfo) (f : Field) : Option RouteNetInfo :=
  match f.number, f.value with
  | 1, .varint n => some { m with isChannelPacket := n != 0 }
  | 2, .bytes bs => (ofUtf8 bs).map (fun s => { m with serviceName := s })
  | 3, .bytes bs => (unpack bs).map (fun xs => { m with targetSockets := m.targetSockets ++ xs })
  | 3, .varint n => some { m with targetSockets := m.targetSockets ++ [ofInt32Bits n] }
  | 4, .varint n => some { m with sourceSocket := ofInt32Bits n }
  | _, _ => some m

theorem RouteNetInfo.merge_fields (m : RouteNetInfo) :
    m.fields.foldlM RouteNetInfo.merge default = some m := by
  rw [fields, foldlM_varintField ⟨m.isChannelPacket, "", [], 0⟩,
    foldlM_bytesField ⟨m.isChannelPacket, m.serviceName, [], 0⟩,
    foldlM_bytesField ⟨m.isChannelPacket, m.serviceName, m.targetSockets, 0⟩, foldlM_varintField m]
  · rfl
  · intro h; rw [← int32Bits_eq_zero h]
  · intro _; simp only [merge, ofInt32Bits_int32Bits]
  · intro h; rw [packed_eq_nil h]
  · intro _; simp [merge, unpack_packed]
  · intro h; rw [utf8_eq_nil h]
  · intro _; simp [merge, ofUtf8_utf8]
  · intro h; rw [Bool.toNat_eq_zero.mp h]; rfl
  · intro h
    cases hb : m.isChannelPacket with
    | false => exact absurd (Bool.toNat_eq_zero.mpr hb) h
    | true => rfl

theorem RouteNetInfo.legal_fields (m : RouteNetInfo) : ∀ f ∈ m.fields, Legal f :=
  legal_append (legal_varintField (by decide) (by decide) (by cases m.isChannelPacket <;> decide))
    (legal_append (legal_bytesField _ (by decide) (by decide))
      (legal_append (legal_bytesField _ (by decide) (by decide))
        (legal_append (legal_varintField (by decide) (by decide) (int32Bits_lt _)) legal_nil)))

def RouteCmdRequest.fields (m : RouteCmdRequest) : List Field :=
  varintField 1 (int32Bits m.cmd) ++ (bytesField 2 m.requestBinary ++ [])

def RouteCmdRequest.merge (m : RouteCmdRequest) (f : Field) : Option RouteCmdRequest :=
  match f.number, f.value with
  | 1, .varint n => some { m with cmd := ofInt32Bits n }
  | 2, .bytes bs => some { m with requestBinary := bs }
  | _, _ => some m

theorem RouteCmdRequest.merge_fields (m : RouteCmdRequest) :
    m.fields.foldlM RouteCmdRequest.merge default = some m := by
  rw [fields, foldlM_varintField ⟨m.cmd, []⟩, foldlM_bytesField m]
  · rfl
  · intro h; rw [← h]
  · intro _; rfl
  · intro h; rw [int32Bits_eq_zero h]; rfl
  · intro _; simp only [merge, ofInt32Bits_int32Bits]; rfl

theorem RouteCmdRequest.legal_fields (m : RouteCmdRequest) : ∀ f ∈ m.fields, Legal f :=
  legal_append (legal_varintField (by decide) (by decide) (int32Bits_lt _))
    (legal_append (legal_bytesField _ (by decide) (by decide)) legal_nil)

def RouteCmdResponse.fields (m : RouteCmdResponse) : List Field :=
  varintField 1 (int32Bits m.cmd) ++ []

def RouteCmdResponse.merge (m : RouteCmdResponse) (f : Field) : Option RouteCmdResponse :=
  match f.number, f.value with
  | 1, .varint n => some { m with cmd := ofInt32Bits n }
  | _, _ => some m

theorem RouteCmdResponse.merge_fields (m : RouteCmdResponse) :
    m.fields.foldlM RouteCmdResponse.merge default = some m := by
  rw [fields, foldlM_varintField m]
  · rfl
  · intro h; cases m; exact congrArg RouteCmdResponse.mk (int32Bits_eq_zero h)
  · intro _; simp only [merge, ofInt32Bits_int32Bits]

theorem RouteCmdResponse.legal_fields (m : RouteCmdResponse) : ∀ f ∈ m.fields, Legal f :=
  legal_append (legal_varintField (by decide) (by decide) (int32Bits_lt _)) legal_nil

/-- Two `string` fields numbered 1 and 2: `ChannelServiceRegister` and `RouteServiceInfo`. -/
def twoStrings (s t : String) : List Field :=
  bytesField 1 (utf8 s) ++ (bytesField 2 (utf8 t) ++ [])

theorem legal_twoStrings (s t : String) : ∀ f ∈ twoStrings s t, Legal f :=
  legal_append (legal_bytesField _ (by decide) (by decide))
    (legal_append (legal_bytesField _ (by decide) (by decide)) legal_nil)

def ChannelServiceRegister.fields (m : ChannelServiceRegister) : List Field :=
  twoStrings m.serviceName m.serviceAddr

def ChannelServiceRegister.merge (m : ChannelServiceRegister) (f : Field) :
    Option ChannelServiceRegister :=
  match f.number, f.value with
  | 1, .bytes bs => (ofUtf8 bs).map (fun s => { m with serviceName := s })
  | 2, .bytes bs => (ofUtf8 bs).map (fun s => { m with serviceAddr := s })
  | _, _ => some m

theorem ChannelServiceRegister.merge_fields (m : ChannelServiceRegister) :
    m.fields.foldlM ChannelServiceRegister.merge default = some m := by
  rw [fields, twoStrings, foldlM_bytesField ⟨m.serviceName, ""⟩, foldlM_bytesField m]
  · rfl
  · intro h; rw [← utf8_eq_nil h]
  · intro _; simp [merge, ofUtf8_utf8]
  · intro h; rw [utf8_eq_nil h]; rfl
  · intro _; simp only [merge, ofUtf8_utf8]; rfl

def RouteServiceInfo.fields (m : RouteServiceInfo) : List Field := twoStrings m.name m.addr

def RouteServiceInfo.merge (m : RouteServiceInfo) (f : Field) : Option RouteServiceInfo :=
  match f.number, f.value with
  | 1, .bytes bs => (ofUtf8 bs).map (fun s => { m with name := s })
  | 2, .bytes bs => (ofUtf8 bs).map (fun s => { m with addr := s })
  | _, _ => some m

theorem RouteServiceInfo.merge_fields (m : RouteServiceInfo) :
    m.fields.foldlM RouteServiceInfo.merge default = some m := by
  rw [fields, twoStrings, foldlM_bytesField ⟨m.name, ""⟩, foldlM_bytesField m]
  · rfl
  · intro h; rw [← utf8_eq_nil h]
  · intro _; simp [merge, ofUtf8_utf8]
  · intro h; rw [utf8_eq_nil h]; rfl
  · intro _; simp only [merge, ofUtf8_utf8]; rfl

def ServerDisconnectChannel.fields (m : ServerDisconnectChannel) : List Field :=
  bytesField 1 (packed m.channelSocket) ++ []

def ServerDisconnectChannel.merge (m : ServerDisconnectChannel) (f : Field) :
    Option ServerDisconnectChannel :=
  match f.number, f.value with
  | 1, .bytes bs => (unpack bs).map (fun xs => { m with channelSocket := m.channelSocket ++ xs })
  | 1, .varint n => some { m with channelSocket := m.channelSocket ++ [ofInt32Bits n] }
  | _, _ => some m

theorem ServerDisconnectChannel.merge_fields (m : ServerDisconnectChannel) :
    m.fields.foldlM ServerDisconnectChannel.merge default = some m := by
  rw [fields, foldlM_bytesField m]
  · rfl
  · intro h; cases m; exact congrArg ServerDisconnectChannel.mk (packed_eq_nil h)
  · intro _; simp only [merge, unpack_packed]; rfl

theorem ServerDisconnectChannel.legal_fields (m : ServerDisconnectChannel) :
    ∀ f ∈ m.fields, Legal f :=
  legal_append (legal_bytesField _ (by decide) (by decide)) legal_nil

def RouteNotify.fields (m : RouteNotify) : List Field :=
  varintField 1 (int32Bits m.type) ++ (bytesField 2 m.data ++ [])

def RouteNotify.merge (m : RouteNotify) (f : Field) : Option RouteNotify :=
  match f.number, f.value with
  | 1, .varint n => some { m with type := ofInt32Bits n }
  | 2, .bytes bs => some { m with data := bs }
  | _, _ => some m

theorem RouteNotify.merge_fields (m : RouteNotify) :
    m.fields.foldlM RouteNotify.merge default = some m := by
  rw [fields, foldlM_varintField ⟨m.type, []⟩, foldlM_bytesField m]
  · rfl
  · intro h; rw [← h]
  · intro _; rfl
  · intro h; rw [int32Bits_eq_zero h]; rfl
  · intro _; simp only [merge, ofInt32Bits_int32Bits]; rfl

theorem RouteNotify.legal_fields (m : RouteNotify) : ∀ f ∈ m.fields, Legal f :=
  legal_append (legal_varintField (by decide) (by decide) (int32Bits_lt _))
    (legal_append (legal_bytesField _ (by decide) (by decide)) legal_nil)

def NotifyTypeDisconnect.fields (m : NotifyTypeDisconnect) : List Field :=
  varintField 1 (int32Bits m.socket) ++ []

def NotifyTypeDisconnect.merge (m : NotifyTypeDisconnect) (f : Field) : Option NotifyTypeDisconnect :=
  match f.number, f.value with
  | 1, .varint n => some { m with socket := ofInt32Bits n }
  | _, _ => some m

theorem NotifyTypeDisconnect.merge_fields (m : NotifyTypeDisconnect) :
    m.fields.foldlM NotifyTypeDisconnect.merge default = some m := by
  rw [fields, foldlM_varintField m]
  · rfl
  · intro h; cases m; exact congrArg NotifyTypeDisconnect.mk (int32Bits_eq_zero h)
  · intro _; simp only [merge, ofInt32Bits_int32Bits]

theorem NotifyTypeDisconnect.legal_fields (m : NotifyTypeDisconnect) : ∀ f ∈ m.fields, Legal f :=
  legal_append (legal_varintField (by decide) (by decide) (int32Bits_lt _)) legal_nil

/-! ## `frrpc.proto` -/

def RpcRequestMeta.fields (m : RpcRequestMeta) : List Field :=
  varintField 1 m.requestId.toNat ++ []

def RpcRequestMeta.merge (m : RpcRequestMeta) (f : Field) : Option RpcRequestMeta :=
  match f.number, f.value with
  | 1, .varint n => some { m with requestId := UInt64.ofNat n }
  | _, _ => some m

theorem RpcRequestMeta.merge_fields (m : RpcRequestMeta) :
    m.fields.foldlM RpcRequestMeta.merge default = some m := by
  rw [fields, foldlM_varintField m]
  · rfl
  · intro h; cases m; exact congrArg RpcRequestMeta.mk (UInt64.toNat_inj.mp h)
  · intro _; simp only [merge, UInt64.ofNat_toNat]

theorem RpcRequestMeta.legal_fields (m : RpcRequestMeta) : ∀ f ∈ m.fields, Legal f :=
  legal_append (legal_varintField (by decide) (by decide) (UInt64.toNat_lt _)) legal_nil

def RpcResponseMeta.fields (m : RpcResponseMeta) : List Field :=
  bytesField 1 (utf8 m.error) ++ (varintField 2 m.failed.toNat ++ [])

def RpcResponseMeta.merge (m : RpcResponseMeta) (f : Field) : Option RpcResponseMeta :=
  match f.number, f.value with
  | 1, .bytes bs => (ofUtf8 bs).map (fun s => { m with error := s })
  | 2, .varint n => some { m with failed := n != 0 }
  | _, _ => some m

theorem RpcResponseMeta.merge_fields (m : RpcResponseMeta) :
    m.fields.foldlM RpcResponseMeta.merge default = some m := by
  rw [fields, foldlM_bytesField ⟨m.error, false⟩, foldlM_varintField m]
  · rfl
  · intro h; rw [← Bool.toNat_eq_zero.mp h]
  · intro h
    cases hb : m.failed with
    | false => exact absurd (Bool.toNat_eq_zero.mpr hb) h
    | true => rw [← hb]; cases m; simp_all [merge]
  · intro h; rw [utf8_eq_nil h]; rfl
  · intro _; simp only [merge, ofUtf8_utf8]; rfl

theorem RpcResponseMeta.legal_fields (m : RpcResponseMeta) : ∀ f ∈ m.fields, Legal f :=
  legal_append (legal_bytesField _ (by decide) (by decide))
    (legal_append (legal_varintField (by decide) (by decide) (by cases m.failed <;> decide)) legal_nil)

def RpcMeta.fields (m : RpcMeta) : List Field :=
  bytesField 1 (utf8 m.serviceName) ++ (varintField 2 (int32Bits m.methodIndex) ++
    (messageField 3 (m.requestMeta.map (fun r => encodeFields r.fields)) ++
      (messageField 4 (m.responseMeta.map (fun r => encodeFields r.fields)) ++
        (varintField 5 (int32Bits m.compressType) ++ []))))

/-- A sub-message that occurs again is merged into what is already there. -/
def RpcMeta.merge (m : RpcMeta) (f : Field) : Option RpcMeta :=
  match f.number, f.value with
  | 1, .bytes bs => (ofUtf8 bs).map (fun s => { m with serviceName := s })
  | 2, .varint n => some { m with methodIndex := ofInt32Bits n }
  | 3, .bytes bs =>
    (parseInto RpcRequestMeta.merge m.rpcRequestMeta bs).map (fun r => { m with requestMeta := some r })
  | 4, .bytes bs =>
    (parseInto RpcResponseMeta.merge m.rpcResponseMeta bs).map
      (fun r => { m with responseMeta := some r })
  | 5, .varint n => some { m with compressType := ofInt32Bits n }
  | _, _ => some m

theorem RpcMeta.legal_fields (m : RpcMeta) : ∀ f ∈ m.fields, Legal f :=
  legal_append (legal_bytesField _ (by decide) (by decide))
    (legal_append (legal_varintField (by decide) (by decide) (int32Bits_lt _))
      (legal_append (legal_messageField _ (by decide) (by decide))
        (legal_append (legal_messageField _ (by decide) (by decide))
          (legal_append (legal_varintField (by decide) (by decide) (int32Bits_lt _)) legal_nil))))

theorem RpcMeta.merge_fields (m : RpcMeta) (hlen : (encodeFields m.fields).length < 2 ^ 31) :
    m.fields.foldlM RpcMeta.merge default = some m := by
  have hrequest : ∀ r, m.requestMeta = some r →
      parseInto RpcRequestMeta.merge default (encodeFields r.fields) = some r := by
    intro r hr
    have hmem : ⟨3, .bytes (encodeFields r.fields)⟩ ∈ m.fields := by
      simp [fields, messageField, hr]
    exact parseInto_subMessage hlen hmem r.legal_fields r.merge_fields
  have hresponse : ∀ r, m.responseMeta = some r →
      parseInto RpcResponseMeta.merge default (encodeFields r.fields) = some r := by
    intro r hr
    have hmem : ⟨4, .bytes (encodeFields r.fields)⟩ ∈ m.fields := by
      simp [fields, messageField, hr]
    exact parseInto_subMessage hlen hmem r.legal_fields r.merge_fields
  rw [fields, foldlM_bytesField ⟨m.serviceName, 0, none, none, 0⟩,
    foldlM_varintField ⟨m.serviceName, m.methodIndex, none, none, 0⟩,
    foldlM_messageField ⟨m.serviceName, m.methodIndex, m.requestMeta, none, 0⟩,
    foldlM_messageField ⟨m.serviceName, m.methodIndex, m.requestMeta, m.responseMeta, 0⟩,
    foldlM_varintField m]
  · rfl
  · intro h; rw [← int32Bits_eq_zero h]
  · intro _; simp only [merge, ofInt32Bits_int32Bits]
  · intro h; rw [Option.map_eq_none_iff.mp h]
  · intro bs h
    obtain ⟨r, hr, rfl⟩ := Option.map_eq_some_iff.mp h
    simp only [merge, rpcResponseMeta, Option.getD_none, hresponse r hr, Option.map_some, hr]
  · intro h; rw [Option.map_eq_none_iff.mp h]
  · intro bs h
    obtain ⟨r, hr, rfl⟩ := Option.map_eq_some_iff.mp h
    simp only [merge, rpcRequestMeta, Option.getD_none, hrequest r hr, Option.map_some, hr]
  · intro h; rw [int32Bits_eq_zero h]
  · intro _; simp only [merge, ofInt32Bits_int32Bits]
  · intro h; rw [utf8_eq_nil h]; rfl
  · intro _; simp only [merge, ofUtf8_utf8]; rfl

/-! ## The generated library -/

/-- **The codecs of the generated code.** -/
@[reducible] instance wire : Protobuf where
  netInfo := .ofFields _ _ NetInfo.legal_fields fun m _ => m.merge_fields
  routeNetInfo := .ofFields _ _ RouteNetInfo.legal_fields fun m _ => m.merge_fields
  routeCmdRequest := .ofFields _ _ RouteCmdRequest.legal_fields fun m _ => m.merge_fields
  routeCmdResponse := .ofFields _ _ RouteCmdResponse.legal_fields fun m _ => m.merge_fields
  channelServiceRegister :=
    .ofFields _ _ (fun m => legal_twoStrings m.serviceName m.serviceAddr) fun m _ => m.merge_fields
  serverDisconnectChannel := .ofFields _ _ ServerDisconnectChannel.legal_fields fun m _ => m.merge_fields
  routeServiceInfo := .ofFields _ _ (fun m => legal_twoStrings m.name m.addr) fun m _ => m.merge_fields
  routeNotify := .ofFields _ _ RouteNotify.legal_fields fun m _ => m.merge_fields
  notifyTypeDisconnect := .ofFields _ _ NotifyTypeDisconnect.legal_fields fun m _ => m.merge_fields
  rpcMeta := .ofFields _ _ RpcMeta.legal_fields RpcMeta.merge_fields
  netBinary_length_le := NetInfo.netBinary_length_le

end Frrpc
