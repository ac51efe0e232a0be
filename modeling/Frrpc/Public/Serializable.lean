import Frrpc.Pb.Wire

/-!
# `Public.Serializable` — frames (`rpc_serializable.h`, `rpc_serializable.cpp`)

A frame is `packet_size (4) + net_info_size (2) + net_info`, and for a net type up to `eNetType_Special`
then `+ meta_size (2) + meta + binary`; `packet_size` counts what follows it. A `Message` enters only by
its serialized bytes, and `BinaryMemory` is the byte string that `add` and `CopyMemoryFromOut` extend.
-/

namespace Frrpc

open Lib

structure RpcPacket where
  linkId : LinkID
  netEvent : ERpcEvent
  rpcMeta : RpcMeta
  binary : Option Bytes
deriving DecidableEq, Repr

/-- The constructor leaves the meta empty and the binary null. -/
def RpcPacket.new (linkId : LinkID) (netEvent : ERpcEvent) : RpcPacket := ⟨linkId, netEvent, default, none⟩

/-- The copy constructor copies through `ref.binary` without a check. -/
def RpcPacket.copy (ref : RpcPacket) : Except Failure RpcPacket := do
  let binary ← orUndefined ref.binary
  return { ref with binary := some binary }

/-- Whether the messages of a frame of the `n`-th client serialize. Where one does not,
    `BuildBinaryFromMessage` returns a null pointer. -/
class Serializer where
  serializes : (n : Nat) → NetInfo → RpcMeta → Bytes → Bool

/-- Everything serializes. -/
@[reducible] def serializesAll : Serializer := ⟨fun _ _ _ _ => true⟩

variable [Protobuf]

def buildBinaryFromMessageNet (netInfo : NetInfo) : Bytes :=
  let netInfoSize := uint16 (byteSize netInfo)
  let packetSize := uint32 (sizeofNetInfoSize + netInfoSize)
  le sizeofPacketSize packetSize ++ (le sizeofNetInfoSize netInfoSize ++ serialize netInfo)

def buildBinaryFromMessage (netInfo : NetInfo) (rpcMeta : RpcMeta) (body : Bytes) : Bytes :=
  let netInfoSize := uint16 (byteSize netInfo)
  let rpcMetaSize := uint16 (byteSize rpcMeta)
  let packetSize :=
    uint32 (sizeofNetInfoSize + netInfoSize + sizeofRpcMetaSize + rpcMetaSize + body.length)
  le sizeofPacketSize packetSize ++ (le sizeofNetInfoSize netInfoSize ++ (serialize netInfo ++
    (le sizeofRpcMetaSize rpcMetaSize ++ (serialize rpcMeta ++ body))))

def buildBinaryFromMessageCmd (cmd : ERouteCmd) (cmdInfo : Bytes) : Bytes :=
  buildBinaryFromMessageNet ⟨eNetTypeRouteCmd, serialize (⟨cmd, cmdInfo⟩ : RouteCmdRequest)⟩

/-- `ParseFromArray(binary.buffer(off), n)`. -/
def parseFromArray {α : Type} [Inhabited α] [PbMessage α] (binary : Bytes) (off : Int) (n : Nat) :
    Except Failure α := do
  let bytes ← readBytes binary off n
  orRefuse (parse bytes)

/-- The part of `getMessageFromBinary` for net types up to `eNetType_Special`, at the offset behind the net
    info: a meta must be there, and the body is what the other sizes leave of the packet size. -/
def getMetaAndBinary (binary : Bytes) (curOffset packetSize netSize : Nat) (packet : RpcPacket) :
    Except Failure RpcPacket := do
  let metaSize ← readNumber sizeofRpcMetaSize binary curOffset
  let curOffset := uint32 (curOffset + sizeofRpcMetaSize)
  if 0 < metaSize then
    let rpcMeta ← parseFromArray binary curOffset metaSize
    let curOffset := uint32 (curOffset + metaSize)
    let bodySize := uint32 (packetSize - sizeofNetInfoSize - netSize - sizeofRpcMetaSize - metaSize)
    if 0 < bodySize then
      let body ← readBytes binary curOffset bodySize
      return { packet with rpcMeta, binary := some body }
    else return { packet with rpcMeta }
  else throw .refused

/-- The net info is parsed over the one passed in; a zero size leaves that one as it is. -/
def getNetInfoOver (binary : Bytes) (curOffset netSize : Nat) (netInfo : NetInfo) :
    Except Failure NetInfo :=
  if 0 < netSize then parseFromArray binary curOffset netSize else .ok netInfo

/-- The offset is an `uint32_t` once past the packet size. -/
def getMessageFromBinary (binary : Bytes) (offset : Int) (netInfo : NetInfo)
    (packet : Option RpcPacket) : Except Failure (NetInfo × Option RpcPacket) := do
  let packetSize ← readNumber sizeofPacketSize binary offset
  let curOffset := uint32 (sizeofPacketSize + offset)
  let netSize ← readNumber sizeofNetInfoSize binary curOffset
  let curOffset := uint32 (curOffset + sizeofNetInfoSize)
  let netInfo ← getNetInfoOver binary curOffset netSize netInfo
  let curOffset := uint32 (curOffset + netSize)
  if netInfo.netType ≤ eNetTypeSpecial then
    let packet ← orRefuse packet
    let packet ← getMetaAndBinary binary curOffset packetSize netSize packet
    return (netInfo, some packet)
  else return (netInfo, packet)

end Frrpc
