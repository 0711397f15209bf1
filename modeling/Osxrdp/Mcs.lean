import Osxrdp.FastPath

/-! `tpkt.rs`, `tpdu.rs`, `x224.rs` and `mcs.rs`: the messages of a multipoint
communication service, in the data units of the transport. An error that names
no field is told as one of its context. -/
namespace Osxrdp.Mcs
open FastPath (Found bigEndian16 lengthBytes lengthBytes_length readLength readLength_safe sizeofLength tpkt
  tpkt_found writeLength)
open Bytes (bigEndian bigEndian_length)
open WireDecoding (Decoding)
open WireDecoding.Decoding
open WireEncoding (Encoding)

section Per

/-- A PER error of a field. -/
def perError (field : String) : WireDecoding.DecodeError := .invalidField field "PER"

/-- `ensure_size!` with an error of its own. -/
def room (field : String) (count : Nat) : Decoding Unit := fun src =>
  if count ≤ src.length then some (.ok ((), src)) else some (.error (perError field))

/-- `per::read_u16`: the least value is added, which may not overflow. -/
def perReadU16 (field : String) (least : UInt16) : Decoding UInt16 := do
  room field 2
  let value ← readU16Be
  if least.toNat + value.toNat < UInt16.size then return least + value else fail (perError field)

/-- `per::write_u16` -/
def perWriteU16 (field : String) (value least : UInt16) : Encoding :=
  if least ≤ value then .write (bigEndian 2 (value - least).toNat) else .fail (.invalidField field)

/-- `per::read_u32`, by the length in front of it. -/
def perReadU32 (field : String) : Decoding UInt32 := do
  let (length, _) ← readLength (perError field)
  match length with
  | 0 => return 0
  | 1 => do
    room field 1
    return (← readU8).toUInt32
  | 2 => do
    room field 2
    return (← readU16Be).toUInt32
  | 4 => do
    room field 4
    readU32Be
  | _ => fail (perError field)

/-- What `write_u32` writes: as few bytes as hold the value. -/
def perU32Bytes (value : UInt32) : Bytes :=
  if value ≤ 0xFF then [1] ++ [value.toUInt8]
  else if value ≤ 0xFFFF then [2] ++ bigEndian 2 value.toUInt16.toNat
  else [4] ++ bigEndian 4 value.toNat

/-- `per::sizeof_u32` -/
def perSizeofU32 (value : UInt32) : Nat := if value ≤ 0xFF then 2 else if value ≤ 0xFFFF then 3 else 5

/-- `per::read_enum`: a number below the count. -/
def perReadEnum (field : String) (count : UInt8) : Decoding UInt8 := do
  room field 1
  let enumerated ← readU8
  if enumerated ≥ count then fail (perError field) else return enumerated

end Per

/-- The kinds of messages of a domain. -/
inductive DomainMcsPdu where
  | erectDomainRequest
  | disconnectProviderUltimatum
  | attachUserRequest
  | attachUserConfirm
  | channelJoinRequest
  | channelJoinConfirm
  | sendDataRequest
  | sendDataIndication
  deriving DecidableEq, Repr

namespace DomainMcsPdu

/-- The number of a kind. -/
def asU8 : DomainMcsPdu → UInt8
  | .erectDomainRequest => 1
  | .disconnectProviderUltimatum => 8
  | .attachUserRequest => 10
  | .attachUserConfirm => 11
  | .channelJoinRequest => 14
  | .channelJoinConfirm => 15
  | .sendDataRequest => 25
  | .sendDataIndication => 26

/-- `DomainMcsPdu::from_u8` -/
def fromU8 : UInt8 → Option DomainMcsPdu
  | 1 => some .erectDomainRequest
  | 8 => some .disconnectProviderUltimatum
  | 10 => some .attachUserRequest
  | 11 => some .attachUserConfirm
  | 14 => some .channelJoinRequest
  | 15 => some .channelJoinConfirm
  | 25 => some .sendDataRequest
  | 26 => some .sendDataIndication
  | _ => none

/-- The kind in a first byte, above its two bits for options. -/
def fromChoice (choice : UInt8) : Option DomainMcsPdu := fromU8 (choice >>> 2)

/-- The first byte of a kind. -/
def toChoice (pdu : DomainMcsPdu) : UInt8 := pdu.asU8 <<< 2

end DomainMcsPdu

/-- `ErectDomainPdu` -/
structure ErectDomainPdu where
  subHeight : UInt32
  subInterval : UInt32
  deriving DecidableEq, Repr

/-- `AttachUserConfirm` -/
structure AttachUserConfirm where
  result : UInt8
  initiatorId : UInt16
  deriving DecidableEq, Repr

/-- `ChannelJoinRequest` -/
structure ChannelJoinRequest where
  initiatorId : UInt16
  channelId : UInt16
  deriving DecidableEq, Repr

/-- `ChannelJoinConfirm` -/
structure ChannelJoinConfirm where
  result : UInt8
  initiatorId : UInt16
  requestedChannelId : UInt16
  channelId : UInt16
  deriving DecidableEq, Repr

/-- The fields of a `SendDataRequest` and of a `SendDataIndication`. -/
structure SendData where
  initiatorId : UInt16
  channelId : UInt16
  userData : Bytes
  deriving DecidableEq, Repr

/-- Why a connection is given up. -/
inductive DisconnectReason where
  | domainDisconnected
  | providerInitiated
  | tokenPurged
  | userRequested
  | channelPurged
  deriving DecidableEq, Repr

namespace DisconnectReason

def asU8 : DisconnectReason → UInt8
  | .domainDisconnected => 0
  | .providerInitiated => 1
  | .tokenPurged => 2
  | .userRequested => 3
  | .channelPurged => 4

def fromU8 : UInt8 → Option DisconnectReason
  | 0 => some .domainDisconnected
  | 1 => some .providerInitiated
  | 2 => some .tokenPurged
  | 3 => some .userRequested
  | 4 => some .channelPurged
  | _ => none

end DisconnectReason

/-- A message of the multipoint service. -/
inductive McsMessage where
  | erectDomainRequest (pdu : ErectDomainPdu)
  | attachUserRequest
  | attachUserConfirm (pdu : AttachUserConfirm)
  | channelJoinRequest (pdu : ChannelJoinRequest)
  | channelJoinConfirm (pdu : ChannelJoinConfirm)
  | sendDataRequest (data : SendData)
  | sendDataIndication (data : SendData)
  | disconnectProviderUltimatum (reason : DisconnectReason)
  deriving DecidableEq, Repr

section Encode

def baseChannelId : UInt16 := 1001

def resultEnumLength : UInt8 := 16

def sendDataPduDataPriorityAndSegmentation : UInt8 := 0x70

/-- The first byte, with its options. -/
def writeMcspduHeader (domainMcspdu : DomainMcsPdu) (options : UInt8) : Encoding :=
  .write [domainMcspdu.toChoice ||| options]

def ErectDomainPdu.encode (pdu : ErectDomainPdu) : Encoding :=
  .andThen (writeMcspduHeader .erectDomainRequest 0) <|
    .andThen (.write (perU32Bytes pdu.subHeight)) (.write (perU32Bytes pdu.subInterval))

def AttachUserConfirm.encode (pdu : AttachUserConfirm) : Encoding :=
  .andThen (writeMcspduHeader .attachUserConfirm 2) <|
    .andThen (.write [pdu.result]) (perWriteU16 "initiator" pdu.initiatorId baseChannelId)

def ChannelJoinRequest.encode (pdu : ChannelJoinRequest) : Encoding :=
  .andThen (writeMcspduHeader .channelJoinRequest 0) <|
    .andThen (perWriteU16 "initiator" pdu.initiatorId baseChannelId) (perWriteU16 "channelId" pdu.channelId 0)

def ChannelJoinConfirm.encode (pdu : ChannelJoinConfirm) : Encoding :=
  .andThen (writeMcspduHeader .channelJoinConfirm 2) <|
    .andThen (.write [pdu.result]) <|
      .andThen (perWriteU16 "initiator" pdu.initiatorId baseChannelId) <|
        .andThen (perWriteU16 "requested" pdu.requestedChannelId 0) (perWriteU16 "channelId" pdu.channelId 0)

/-- A request and an indication differ in the names of two fields. -/
def SendData.encode (domainMcspdu : DomainMcsPdu) (channelField lengthField : String) (data : SendData) : Encoding :=
  .andThen (writeMcspduHeader domainMcspdu 0) <|
    .andThen (perWriteU16 "initiator" data.initiatorId baseChannelId) <|
      .andThen (perWriteU16 channelField data.channelId 0) <|
        .andThen (.write [sendDataPduDataPriorityAndSegmentation]) <|
          if data.userData.length < UInt16.size then
            .andThen (writeLength data.userData.length.toUInt16) (.write data.userData)
          else .fail (.invalidField lengthField)

/-- The three bits of the reason lie across two bytes. -/
def ultimatumBytes (reason : DisconnectReason) : Bytes :=
  [DomainMcsPdu.disconnectProviderUltimatum.toChoice ||| (reason.asU8 >>> 1 &&& 0x03), reason.asU8 <<< 7]

namespace McsMessage

/-- `McsMessage::encode` -/
def encode : McsMessage → Encoding
  | .erectDomainRequest pdu => pdu.encode
  | .attachUserRequest => writeMcspduHeader .attachUserRequest 0
  | .attachUserConfirm pdu => pdu.encode
  | .channelJoinRequest pdu => pdu.encode
  | .channelJoinConfirm pdu => pdu.encode
  | .sendDataRequest data => data.encode .sendDataRequest "channelID" "user-data-length"
  | .sendDataIndication data => data.encode .sendDataIndication "channelId" "userDataLength"
  | .disconnectProviderUltimatum reason => .write (ultimatumBytes reason)

/-- `McsMessage::size` -/
def size : McsMessage → Nat
  | .erectDomainRequest pdu => 1 + perSizeofU32 pdu.subHeight + perSizeofU32 pdu.subInterval
  | .attachUserRequest => 1
  | .attachUserConfirm _ => 1 + 1 + 2
  | .channelJoinRequest _ => 1 + 2 * 2
  | .channelJoinConfirm _ => 1 + 1 + 2 * 3
  | .sendDataRequest data | .sendDataIndication data =>
    1 + 2 * 2 + 1 + sizeofLength data.userData.length + data.userData.length
  | .disconnectProviderUltimatum _ => 2

end McsMessage

/-- Version, padding and length. -/
def tpktHeader (packetLength : UInt16) : Bytes := [3, 0] ++ bigEndian16 packetLength

/-- Length indicator, code and `EOT` of a data TPDU. -/
def tpduHeader (li : UInt8) : Bytes := [li, 0xF0, 0x80]

namespace X224

/-- The size with the two headers in front of it. -/
def size (message : McsMessage) : Nat := 4 + 3 + message.size

/-- `X224::encode` -/
def encode (message : McsMessage) : Encoding :=
  .ensureSize "X224" (size message) <|
    if size message < UInt16.size then
      .andThen (.write (tpktHeader (size message).toUInt16)) <|
        .andThen (.write (tpduHeader 2)) message.encode
    else .fail (.invalidField "packet length")

end X224
end Encode

section Decode

/-- The kind of the message that follows. -/
def readMcspduHeader : Decoding DomainMcsPdu := do
  room "domain-mcspdu" 1
  let choice ← readU8
  match DomainMcsPdu.fromChoice choice with
  | some pdu => return pdu
  | none => fail (.invalidField "domain-mcspdu" "unexpected application tag for CHOICE")

/-- `read_mcspdu_header` and `check_expected`. -/
def expectHeader (expected : DomainMcsPdu) : Decoding Unit := do
  let pdu ← readMcspduHeader
  if pdu = expected then return () else fail (.invalidField "domain-mcspdu" "unexpected message type")

/-- What the header would be, without taking it. -/
def peekMcspduHeader : Decoding DomainMcsPdu := fun src => match readMcspduHeader src with
  | some (.ok (pdu, _)) => some (.ok (pdu, src))
  | some (.error error) => some (.error error)
  | none => none

def ErectDomainPdu.decode : Decoding ErectDomainPdu := do
  expectHeader .erectDomainRequest
  let subHeight ← perReadU32 "subHeight"
  let subInterval ← perReadU32 "subInterval"
  return { subHeight, subInterval }

def AttachUserConfirm.decode : Decoding AttachUserConfirm := do
  expectHeader .attachUserConfirm
  let result ← perReadEnum "result" resultEnumLength
  let initiatorId ← perReadU16 "userId" baseChannelId
  return { result, initiatorId }

def ChannelJoinRequest.decode : Decoding ChannelJoinRequest := do
  expectHeader .channelJoinRequest
  let initiatorId ← perReadU16 "initiator" baseChannelId
  let channelId ← perReadU16 "channelID" 0
  return { initiatorId, channelId }

def ChannelJoinConfirm.decode : Decoding ChannelJoinConfirm := do
  expectHeader .channelJoinConfirm
  let result ← perReadEnum "result" resultEnumLength
  let initiatorId ← perReadU16 "initiator" baseChannelId
  let requestedChannelId ← perReadU16 "requested" 0
  let channelId ← perReadU16 "channelId" 0
  return { result, initiatorId, requestedChannelId, channelId }

/-- `SendData::decode`: what is left of the data unit is the user's data. -/
def SendData.decode (domainMcspdu : DomainMcsPdu) (tpduUserDataSize : Nat) : Decoding SendData := do
  let before ← remaining
  expectHeader domainMcspdu
  let initiatorId ← perReadU16 "initiator" baseChannelId
  let channelId ← perReadU16 "channelId" 0
  ensureSize 1
  let _ ← readSlice 1
  let (length, _) ← readLength (perError "userDataLength")
  let after ← remaining
  if length.toNat > tpduUserDataSize - (before - after) then
    fail (.invalidField "userDataLength" "inconsistent with user data size advertised in TPDU")
  else
    ensureSize length.toNat
    let userData ← readSlice length.toNat
    return { initiatorId, channelId, userData }

/-- The reason of an ultimatum, in bits over two bytes. -/
def decodeUltimatum : Decoding DisconnectReason := do
  ensureSize 2
  let b1 ← readU8
  let b2 ← readU8
  match DomainMcsPdu.fromU8 (b1 >>> 2) with
  | none => fail (.invalidField "domain-mcspdu" "unexpected application tag for CHOICE")
  | some pdu =>
    if pdu = .disconnectProviderUltimatum then
      match DisconnectReason.fromU8 ((b1 &&& 0x03) <<< 1 ||| b2 >>> 7) with
      | some reason => return reason
      | none => fail (.invalidField "reason" "unknown variant")
    else fail (.invalidField "domain-mcspdu" "unexpected message type")

/-- `McsMessage::decode` -/
def McsMessage.decode (tpduUserDataSize : Nat) : Decoding McsMessage := do
  match ← peekMcspduHeader with
  | .erectDomainRequest => return .erectDomainRequest (← ErectDomainPdu.decode)
  | .attachUserRequest => do
    expectHeader .attachUserRequest
    return .attachUserRequest
  | .attachUserConfirm => return .attachUserConfirm (← AttachUserConfirm.decode)
  | .channelJoinRequest => return .channelJoinRequest (← ChannelJoinRequest.decode)
  | .channelJoinConfirm => return .channelJoinConfirm (← ChannelJoinConfirm.decode)
  | .sendDataRequest => return .sendDataRequest (← SendData.decode .sendDataRequest tpduUserDataSize)
  | .sendDataIndication => return .sendDataIndication (← SendData.decode .sendDataIndication tpduUserDataSize)
  | .disconnectProviderUltimatum => return .disconnectProviderUltimatum (← decodeUltimatum)

/-- `TpktHeader::read`: the version is checked, the length is taken as it is. -/
def readTpktHeader : Decoding UInt16 := do
  ensureSize 4
  let version ← readU8
  if version ≠ 3 then fail (.invalidField "TPKT version" "unsupported version")
  else
    let _ ← readSlice 1
    readU16Be

/-- The length indicator and the code. -/
def readTpduHeader (packetLength : UInt16) : Decoding (UInt8 × UInt8) := do
  ensureSize 3
  let li ← readU8
  let code ← readU8
  if li.toNat + 1 + 4 > packetLength.toNat then
    fail (.invalidField "li" "tpdu length greater than tpkt length")
  else if li = 0xFF then
    fail (.invalidField "li" "unsupported X.224 extension (suggested by LI field set to 255)")
  else if code = 0xF0 then
    let _ ← readSlice 1
    return (li, code)
  else
    ensureSize 5
    let _ ← readSlice 5
    return (li, code)

/-- `X224::decode`, by the decoder of the message. -/
def readX224 {α : Type} (body : Nat → Decoding α) : Decoding α := do
  let packetLength ← readTpktHeader
  ensureSize (packetLength.toNat - 4)
  let (li, code) ← readTpduHeader packetLength
  if code ≠ 0xF0 then fail (.invalidField "TpduHeader" "unexpected message type")
  else if li.toNat + 1 < 3 then fail (.invalidField "li" "fixed part bigger than total header size")
  else
    let withoutTpkt ← subtract packetLength.toNat 4
    let tpduUserDataSize ← subtract withoutTpkt (li.toNat + 1)
    body tpduUserDataSize

/-- `X224::decode` -/
def X224.decode : Decoding McsMessage := readX224 McsMessage.decode

/-- The message has to be a request to send data. -/
def X224.decodeSendDataRequest : Decoding SendData := readX224 (SendData.decode .sendDataRequest)

end Decode

section PerRoundTrip
variable {field : String}

private theorem room_reads {α : Type} {d : Decoding α} {bytes : Bytes} {a : α} {count : Nat} (reads : Reads d bytes a)
    (enough : count ≤ bytes.length) : Reads (do room field count; d) bytes a := by
  intro rest
  have checked : room field count (bytes ++ rest) = some (.ok ((), bytes ++ rest)) := by
    rw [room, if_pos (by rw [List.length_append]; omega)]
  rw [bind_of_ok checked]
  exact reads rest

private theorem perReadU16_reads {value least : UInt16} (above : least ≤ value) :
    Reads (perReadU16 field least) (bigEndian 2 (value - least).toNat) value := by
  have difference : (value - least).toNat = value.toNat - least.toNat := UInt16.toNat_sub_of_le _ _ above
  have ordered := UInt16.le_iff_toNat_le.mp above
  have small := value.toNat_lt
  have sum : least + (value - least) = value := by
    rw [← UInt16.toNat_inj, UInt16.toNat_add, difference]
    change (least.toNat + (value.toNat - least.toNat)) % 65536 = _
    omega
  have read : Reads (do
      let read ← readU16Be
      if least.toNat + read.toNat < UInt16.size then return least + read else fail (perError field))
      (bigEndian 2 (value - least).toNat ++ []) value := by
    apply (readU16Be_reads (value - least)).bind
    rw [if_pos (by rw [difference]; change _ < 65536; omega), sum]
    exact pure_reads value
  rw [List.append_nil] at read
  exact room_reads read (Nat.le_of_eq (bigEndian_length ..).symm)

private theorem perWriteU16_writes (field : String) {value least : UInt16} (above : least ≤ value) :
    (perWriteU16 field value least).Writes (bigEndian 2 (value - least).toNat) := by
  rw [perWriteU16, if_pos above]
  exact Encoding.write_writes _

/-- A number is read back. -/
theorem perReadU32_reads (value : UInt32) : Reads (perReadU32 field) (perU32Bytes value) value := by
  have length : ∀ {n : UInt16}, n.toNat ≤ 0x7F →
      Reads (readLength (perError field)) [n.toUInt8] (n, sizeofLength n.toNat) := by
    intro n short
    have reads := FastPath.readLength_reads (perError field) (Nat.lt_of_le_of_lt short (by decide) : n.toNat < 32768)
    rwa [lengthBytes, if_neg (Nat.not_lt_of_le short)] at reads
  unfold perU32Bytes
  split
  · rename_i byte
    apply (length (by decide : (1 : UInt16).toNat ≤ 0x7F)).bind
    have small := UInt32.le_iff_toNat_le.mp byte
    have same : value.toUInt8.toUInt32 = value := by
      rw [← UInt32.toNat_inj, UInt8.toNat_toUInt32, UInt32.toNat_toUInt8]
      exact Nat.mod_eq_of_lt (Nat.lt_succ_of_le small)
    exact room_reads (((readU8_reads _).map _).of_eq same) (Nat.le_refl 1)
  · split
    · rename_i short
      apply (length (by decide : (2 : UInt16).toNat ≤ 0x7F)).bind
      have small := UInt32.le_iff_toNat_le.mp short
      have same : value.toUInt16.toUInt32 = value := by
        rw [← UInt32.toNat_inj, UInt16.toNat_toUInt32, UInt32.toNat_toUInt16]
        exact Nat.mod_eq_of_lt (Nat.lt_succ_of_le small)
      exact room_reads (((readU16Be_reads _).map _).of_eq same) (Nat.le_of_eq (bigEndian_length ..).symm)
    · apply (length (by decide : (4 : UInt16).toNat ≤ 0x7F)).bind
      exact room_reads (readU32Be_reads value) (Nat.le_of_eq (bigEndian_length ..).symm)

private theorem perU32Bytes_length (value : UInt32) : (perU32Bytes value).length = perSizeofU32 value := by
  unfold perU32Bytes perSizeofU32
  split
  · rfl
  · split
    · rw [List.length_append, bigEndian_length]
      rfl
    · rw [List.length_append, bigEndian_length]
      rfl

private theorem perReadEnum_reads {enumerated count : UInt8} (small : enumerated < count) :
    Reads (perReadEnum field count) [enumerated] enumerated := by
  apply room_reads _ (Nat.le_refl 1)
  apply (readU8_reads enumerated).bind
  rw [if_neg (UInt8.not_le.mpr small)]
  exact pure_reads enumerated

end PerRoundTrip

section RoundTrip
variable {rest : Bytes} {data : SendData} {message : McsMessage}

/-- The bytes of an identifier that is no user's. -/
def idBytes (id : UInt16) : Bytes := bigEndian 2 (id - 0).toNat

/-- The bytes of a user's identifier. -/
def userBytes (id : UInt16) : Bytes := bigEndian 2 (id - baseChannelId).toNat

/-- What is in front of the user's data. -/
def SendData.headerBytes (data : SendData) (domainMcspdu : DomainMcsPdu) : Bytes :=
  [domainMcspdu.toChoice ||| 0] ++ (userBytes data.initiatorId ++ (idBytes data.channelId ++
    ([sendDataPduDataPriorityAndSegmentation] ++ lengthBytes data.userData.length.toUInt16)))

namespace McsMessage

/-- What `encode` writes of a message. -/
def bytes : McsMessage → Bytes
  | .erectDomainRequest pdu =>
    [DomainMcsPdu.erectDomainRequest.toChoice ||| 0] ++ (perU32Bytes pdu.subHeight ++ perU32Bytes pdu.subInterval)
  | .attachUserRequest => [DomainMcsPdu.attachUserRequest.toChoice ||| 0]
  | .attachUserConfirm pdu =>
    [DomainMcsPdu.attachUserConfirm.toChoice ||| 2] ++ ([pdu.result] ++ userBytes pdu.initiatorId)
  | .channelJoinRequest pdu =>
    [DomainMcsPdu.channelJoinRequest.toChoice ||| 0] ++ (userBytes pdu.initiatorId ++ idBytes pdu.channelId)
  | .channelJoinConfirm pdu =>
    [DomainMcsPdu.channelJoinConfirm.toChoice ||| 2] ++ ([pdu.result] ++ (userBytes pdu.initiatorId ++
      (idBytes pdu.requestedChannelId ++ idBytes pdu.channelId)))
  | .sendDataRequest data => data.headerBytes .sendDataRequest ++ data.userData
  | .sendDataIndication data => data.headerBytes .sendDataIndication ++ data.userData
  | .disconnectProviderUltimatum reason => ultimatumBytes reason

/-- Users have identifiers from 1001 on, results are below sixteen, and a length
has fifteen bits, although the encoder takes sixteen of them. -/
def Fits : McsMessage → Prop
  | .erectDomainRequest _ | .attachUserRequest | .disconnectProviderUltimatum _ => True
  | .attachUserConfirm pdu => pdu.result < resultEnumLength ∧ baseChannelId ≤ pdu.initiatorId
  | .channelJoinRequest pdu => baseChannelId ≤ pdu.initiatorId
  | .channelJoinConfirm pdu => pdu.result < resultEnumLength ∧ baseChannelId ≤ pdu.initiatorId
  | .sendDataRequest data | .sendDataIndication data =>
    baseChannelId ≤ data.initiatorId ∧ data.userData.length < 32768

end McsMessage

private theorem userData_toNat (small : data.userData.length < 32768) :
    data.userData.length.toUInt16.toNat = data.userData.length :=
  UInt16.toNat_ofNat_of_lt' (Nat.lt_trans small (by decide))

theorem SendData.headerBytes_length (domainMcspdu : DomainMcsPdu) (small : data.userData.length < 32768) :
    (data.headerBytes domainMcspdu).length = 1 + 2 * 2 + 1 + sizeofLength data.userData.length := by
  simp only [headerBytes, userBytes, idBytes, List.length_append, List.length_singleton, bigEndian_length,
    lengthBytes_length, userData_toNat small]
  omega

/-- A message takes its size. -/
theorem McsMessage.bytes_length (fits : message.Fits) : message.bytes.length = message.size := by
  have sized : ∀ {data : SendData} {pdu : DomainMcsPdu}, data.userData.length < 32768 →
      (data.headerBytes pdu ++ data.userData).length =
        1 + 2 * 2 + 1 + sizeofLength data.userData.length + data.userData.length := by
    intro data pdu small
    rw [List.length_append, SendData.headerBytes_length pdu small]
  cases message with
  | erectDomainRequest pdu =>
    simp only [bytes, size, List.length_append, List.length_singleton, perU32Bytes_length]
    omega
  | attachUserRequest => rfl
  | attachUserConfirm pdu => simp [bytes, size, userBytes]
  | channelJoinRequest pdu => simp [bytes, size, userBytes, idBytes]
  | channelJoinConfirm pdu => simp [bytes, size, userBytes, idBytes]
  | sendDataRequest data => exact sized fits.2
  | sendDataIndication data => exact sized fits.2
  | disconnectProviderUltimatum reason => rfl

private theorem id_above (id : UInt16) : 0 ≤ id := UInt16.le_iff_toNat_le.mpr (Nat.zero_le _)

/-- What `encode` writes of data, where its length fits. -/
theorem SendData.encode_writes (domainMcspdu : DomainMcsPdu) (channelField lengthField : String)
    (user : baseChannelId ≤ data.initiatorId) (small : data.userData.length < 32768) :
    (data.encode domainMcspdu channelField lengthField).Writes (data.headerBytes domainMcspdu ++ data.userData) := by
  have tail : (Encoding.andThen (writeLength data.userData.length.toUInt16) (.write data.userData)).Writes
      (lengthBytes data.userData.length.toUInt16 ++ data.userData) :=
    (FastPath.writeLength_writes _).andThen (Encoding.write_writes _)
  have whole := (Encoding.write_writes [domainMcspdu.toChoice ||| 0]).andThen
    ((perWriteU16_writes "initiator" user).andThen
      ((perWriteU16_writes channelField (id_above data.channelId)).andThen
        ((Encoding.write_writes [sendDataPduDataPriorityAndSegmentation]).andThen tail)))
  rw [SendData.encode, if_pos (Nat.lt_trans small (by decide))]
  simp only [headerBytes, List.append_assoc]
  exact whole

/-- What `encode` writes of a message that fits. -/
theorem McsMessage.encode_writes (fits : message.Fits) : message.encode.Writes message.bytes := by
  cases message with
  | erectDomainRequest pdu =>
    exact (Encoding.write_writes _).andThen ((Encoding.write_writes _).andThen (Encoding.write_writes _))
  | attachUserRequest => exact Encoding.write_writes _
  | attachUserConfirm pdu =>
    exact (Encoding.write_writes _).andThen ((Encoding.write_writes _).andThen (perWriteU16_writes _ fits.2))
  | channelJoinRequest pdu =>
    exact (Encoding.write_writes _).andThen ((perWriteU16_writes _ fits).andThen (perWriteU16_writes _ (id_above _)))
  | channelJoinConfirm pdu =>
    exact (Encoding.write_writes _).andThen ((Encoding.write_writes _).andThen ((perWriteU16_writes _ fits.2).andThen
      ((perWriteU16_writes _ (id_above _)).andThen (perWriteU16_writes _ (id_above _)))))
  | sendDataRequest data => exact data.encode_writes _ _ _ fits.1 fits.2
  | sendDataIndication data => exact data.encode_writes _ _ _ fits.1 fits.2
  | disconnectProviderUltimatum reason => exact Encoding.write_writes _

theorem userBytes_reads {field : String} {id : UInt16} (user : baseChannelId ≤ id) :
    Reads (perReadU16 field baseChannelId) (userBytes id) id := perReadU16_reads user

theorem idBytes_reads {field : String} (id : UInt16) : Reads (perReadU16 field 0) (idBytes id) id :=
  perReadU16_reads (id_above id)

private theorem fromChoice_options (pdu : DomainMcsPdu) : ∀ options < 4,
    DomainMcsPdu.fromChoice (pdu.toChoice ||| UInt8.ofNat options) = some pdu := by
  cases pdu <;> decide

/-- The choice of a message is read whatever options stand behind it. -/
theorem header_reads (pdu : DomainMcsPdu) {options : UInt8} (few : options < 4) :
    Reads readMcspduHeader [pdu.toChoice ||| options] pdu := by
  have choice := fromChoice_options pdu options.toNat (UInt8.lt_iff_toNat_lt.mp few)
  rw [UInt8.ofNat_toNat] at choice
  apply room_reads _ (Nat.le_refl 1)
  apply (readU8_reads _).bind
  simp only [choice]
  exact pure_reads pdu

/-- The first byte is the one expected. -/
theorem expectHeader_reads (pdu : DomainMcsPdu) {options : UInt8} (few : options < 4) :
    Reads (expectHeader pdu) [pdu.toChoice ||| options] () := by
  have read : Reads (expectHeader pdu) ([pdu.toChoice ||| options] ++ []) () := by
    apply (header_reads pdu few).bind
    rw [if_pos rfl]
    exact pure_reads ()
  rwa [List.append_nil] at read

private theorem peekMcspduHeader_spec (pdu : DomainMcsPdu) {options : UInt8} (few : options < 4) (rest : Bytes) :
    peekMcspduHeader ([pdu.toChoice ||| options] ++ rest) =
      some (.ok (pdu, [pdu.toChoice ||| options] ++ rest)) := by
  rw [peekMcspduHeader, header_reads pdu few rest]

/-- What the message after the header is comes from the arm of its choice. -/
theorem peek_reads {α : Type} {d : DomainMcsPdu → Decoding α} {a : α} {bytes : Bytes} (pdu : DomainMcsPdu)
    {options : UInt8} (few : options < 4) (reads : Reads (d pdu) ([pdu.toChoice ||| options] ++ bytes) a) :
    Reads (peekMcspduHeader >>= d) ([pdu.toChoice ||| options] ++ bytes) a := by
  intro rest
  rw [List.append_assoc, bind_of_ok (peekMcspduHeader_spec pdu few _), ← List.append_assoc]
  exact reads rest

/-- The length of the user data is checked against what is left of the data unit behind the header. -/
theorem SendData.decode_reads (domainMcspdu : DomainMcsPdu) (user : baseChannelId ≤ data.initiatorId)
    (small : data.userData.length < 32768) (tpduUserDataSize : Nat)
    (fits : (data.headerBytes domainMcspdu ++ data.userData).length ≤ tpduUserDataSize) :
    Reads (SendData.decode domainMcspdu tpduUserDataSize) (data.headerBytes domainMcspdu ++ data.userData) data := by
  intro rest
  have count := userData_toNat small
  have header : (data.headerBytes domainMcspdu).length = _ := headerBytes_length domainMcspdu small
  rw [List.length_append, header] at fits
  have whole : (data.headerBytes domainMcspdu ++ data.userData ++ rest) =
      [domainMcspdu.toChoice ||| 0] ++ (userBytes data.initiatorId ++ (idBytes data.channelId ++
        ([sendDataPduDataPriorityAndSegmentation] ++ (lengthBytes data.userData.length.toUInt16 ++
          (data.userData ++ rest))))) := by
    simp only [headerBytes, List.append_assoc]
  have before : (data.headerBytes domainMcspdu ++ data.userData ++ rest).length =
      1 + 2 * 2 + 1 + sizeofLength data.userData.length + (data.userData ++ rest).length := by
    rw [List.append_assoc, List.length_append, header]
  have checked : ensureSize 1 ([sendDataPduDataPriorityAndSegmentation] ++
      (lengthBytes data.userData.length.toUInt16 ++ (data.userData ++ rest))) = some (.ok ((), _)) :=
    if_pos (Nat.succ_le_succ (Nat.zero_le _))
  have priority : Reads (readSlice 1) [sendDataPduDataPriorityAndSegmentation] _ :=
    readSlice_reads [sendDataPduDataPriorityAndSegmentation]
  rw [SendData.decode, bind_of_ok (rfl : remaining _ = some (.ok (_, _))), before, whole,
    bind_of_ok (expectHeader_reads domainMcspdu (by decide : (0 : UInt8) < 4) _), bind_of_ok (userBytes_reads user _),
    bind_of_ok (idBytes_reads data.channelId _), bind_of_ok checked,
    bind_of_ok (priority _),
    bind_of_ok (FastPath.readLength_reads _ (by rw [count]; exact small) _)]
  dsimp only
  rw [bind_of_ok (rfl : remaining _ = some (.ok (_, _))), count, if_neg (by omega)]
  have room : ensureSize data.userData.length (data.userData ++ rest) = some (.ok ((), data.userData ++ rest)) :=
    if_pos (by rw [List.length_append]; omega)
  rw [bind_of_ok room, bind_of_ok (readSlice_reads data.userData rest)]
  rfl

private theorem ultimatum_reads (reason : DisconnectReason) :
    Reads decodeUltimatum (ultimatumBytes reason) reason := by
  intro rest
  cases reason <;> rfl

/-- A message that fits is read back, from any data unit that holds it. -/
theorem McsMessage.decode_reads (fits : message.Fits) (tpduUserDataSize : Nat)
    (sized : message.size ≤ tpduUserDataSize) : Reads (McsMessage.decode tpduUserDataSize) message.bytes message := by
  have length := bytes_length fits
  have none : (0 : UInt8) < 4 := by decide
  have some : (2 : UInt8) < 4 := by decide
  cases message with
  | erectDomainRequest pdu =>
    have read : Reads ErectDomainPdu.decode (McsMessage.erectDomainRequest pdu).bytes pdu :=
      (expectHeader_reads .erectDomainRequest none).bind
      ((perReadU32_reads pdu.subHeight).bind ((perReadU32_reads pdu.subInterval).map _))
    exact peek_reads .erectDomainRequest none (Reads.map read McsMessage.erectDomainRequest)
  | attachUserRequest =>
    exact peek_reads .attachUserRequest none ((expectHeader_reads .attachUserRequest none).map _)
  | attachUserConfirm pdu =>
    have read : Reads AttachUserConfirm.decode (McsMessage.attachUserConfirm pdu).bytes pdu :=
      (expectHeader_reads .attachUserConfirm some).bind
      ((perReadEnum_reads fits.1).bind ((userBytes_reads fits.2).map _))
    exact peek_reads .attachUserConfirm some (Reads.map read McsMessage.attachUserConfirm)
  | channelJoinRequest pdu =>
    have read : Reads ChannelJoinRequest.decode (McsMessage.channelJoinRequest pdu).bytes pdu :=
      (expectHeader_reads .channelJoinRequest none).bind
      ((userBytes_reads fits).bind ((idBytes_reads pdu.channelId).map _))
    exact peek_reads .channelJoinRequest none (Reads.map read McsMessage.channelJoinRequest)
  | channelJoinConfirm pdu =>
    have read : Reads ChannelJoinConfirm.decode (McsMessage.channelJoinConfirm pdu).bytes pdu :=
      (expectHeader_reads .channelJoinConfirm some).bind ((perReadEnum_reads fits.1).bind
      ((userBytes_reads fits.2).bind ((idBytes_reads pdu.requestedChannelId).bind
        ((idBytes_reads pdu.channelId).map _))))
    exact peek_reads .channelJoinConfirm some (Reads.map read McsMessage.channelJoinConfirm)
  | sendDataRequest data =>
    have read := data.decode_reads .sendDataRequest fits.1 fits.2 tpduUserDataSize (length ▸ sized)
    exact peek_reads .sendDataRequest none (Reads.map read McsMessage.sendDataRequest)
  | sendDataIndication data =>
    have read := data.decode_reads .sendDataIndication fits.1 fits.2 tpduUserDataSize (length ▸ sized)
    exact peek_reads .sendDataIndication none (Reads.map read McsMessage.sendDataIndication)
  | disconnectProviderUltimatum reason =>
    have few : (reason.asU8 >>> 1 &&& 0x03) < 4 := by cases reason <;> decide
    exact peek_reads .disconnectProviderUltimatum few
      (Reads.map (ultimatum_reads reason) McsMessage.disconnectProviderUltimatum)

private theorem McsMessage.size_small (fits : message.Fits) : X224.size message < UInt16.size := by
  have long : ∀ length : Nat, sizeofLength length ≤ 2 := by
    intro length
    unfold sizeofLength
    split <;> omega
  have sized : ∀ value : UInt32, perSizeofU32 value ≤ 5 := by
    intro value
    unfold perSizeofU32
    split
    · omega
    · split <;> omega
  change 4 + 3 + message.size < 65536
  cases message with
  | erectDomainRequest pdu =>
    have height := sized pdu.subHeight
    have interval := sized pdu.subInterval
    simp only [size]
    omega
  | sendDataRequest data | sendDataIndication data =>
    have small := fits.2
    have header := long data.userData.length
    simp only [size]
    omega
  | _ => simp [size]

private theorem bigEndian16_eq (n : UInt16) : bigEndian16 n = bigEndian 2 n.toNat := by
  rw [bigEndian, Bytes.littleEndian_two]
  rfl

theorem readTpktHeader_reads (packetLength : UInt16) :
    Reads readTpktHeader (tpktHeader packetLength) packetLength := by
  rw [tpktHeader, bigEndian16_eq]
  apply Reads.ensureSize _ (by simp)
  apply (readU8_reads 3).bind
  rw [if_neg (fun different => different rfl)]
  exact (readSlice_reads [0]).bind (readU16Be_reads packetLength)

theorem readTpduHeader_reads {packetLength : UInt16} (long : 2 + 1 + 4 ≤ packetLength.toNat) :
    Reads (readTpduHeader packetLength) (tpduHeader 2) (2, 0xF0) := by
  apply Reads.ensureSize _ (Nat.le_refl 3)
  apply (readU8_reads 2).bind
  apply (readU8_reads 0xF0).bind
  have within : ¬ (2 : UInt8).toNat + 1 + 4 > packetLength.toNat := Nat.not_lt_of_le long
  have plain : ¬ (2 : UInt8) = 0xFF := by decide
  rw [if_neg within, if_neg plain, if_pos rfl]
  exact (readSlice_reads [0x80]).map _

namespace X224

/-- A message in its data unit. -/
def bytes (message : McsMessage) : Bytes := tpkt (tpduHeader 2 ++ message.bytes)

/-- A message in its data unit takes its size. -/
theorem bytes_length (fits : message.Fits) : (bytes message).length = size message := by
  have length := McsMessage.bytes_length fits
  simp only [bytes, tpkt, bigEndian16, tpduHeader, List.length_append, List.length_cons, List.length_nil, length,
    size]
  omega

private theorem bytes_eq (fits : message.Fits) :
    bytes message = tpktHeader (size message).toUInt16 ++ (tpduHeader 2 ++ message.bytes) := by
  have length := McsMessage.bytes_length fits
  have total : 4 + (tpduHeader 2 ++ message.bytes).length = size message := by
    rw [List.length_append, length, size]
    simp only [tpduHeader, List.length_cons, List.length_nil]
    omega
  rw [bytes, tpkt, total, tpktHeader]

/-- What `encode` writes of a message in its data unit. -/
theorem encode_writes (fits : message.Fits) : (encode message).Writes (bytes message) := by
  apply Encoding.Writes.ensureSize _ _ (Nat.le_of_eq (bytes_length fits).symm)
  rw [if_pos (McsMessage.size_small fits), bytes_eq fits]
  exact (Encoding.write_writes _).andThen ((Encoding.write_writes _).andThen (McsMessage.encode_writes fits))

/-- What reads the message reads the data unit. -/
theorem readX224_reads {α : Type} {body : Nat → Decoding α} {a : α} (fits : message.Fits)
    (reads : Reads (body message.size) message.bytes a) : Reads (readX224 body) (bytes message) a := by
  have length := McsMessage.bytes_length fits
  have total : (size message).toUInt16.toNat = size message :=
    UInt16.toNat_ofNat_of_lt' (McsMessage.size_small fits)
  have sized : size message = 4 + 3 + message.size := rfl
  rw [bytes_eq fits]
  apply (readTpktHeader_reads (size message).toUInt16).bind
  rw [total]
  apply Reads.ensureSize
  · apply (readTpduHeader_reads (by rw [total]; omega)).bind
    have data : ¬ (0xF0 : UInt8) ≠ 0xF0 := fun different => different rfl
    have fixed : ¬ (2 : UInt8).toNat + 1 < 3 := Nat.lt_irrefl 3
    simp only
    rw [if_neg data, if_neg fixed, ← List.nil_append message.bytes]
    apply (subtract_reads (3 + message.size) (by omega)).bind
    rw [← List.nil_append message.bytes]
    exact (subtract_reads message.size rfl).bind reads
  · rw [List.length_append, length]
    simp only [tpduHeader, List.length_cons, List.length_nil]
    omega

/-- A message in its data unit is read back. -/
theorem decode_reads (fits : message.Fits) : Reads decode (bytes message) message :=
  readX224_reads fits (McsMessage.decode_reads fits message.size (Nat.le_refl _))

/-- Data that a client sends is read back. -/
theorem decodeSendDataRequest_reads (fits : (McsMessage.sendDataRequest data).Fits) :
    Reads decodeSendDataRequest (bytes (.sendDataRequest data)) data := by
  have length := McsMessage.bytes_length fits
  exact readX224_reads fits (data.decode_reads .sendDataRequest fits.1 fits.2 _ (Nat.le_of_eq length))

/-- `find_size` finds a message in its data unit. -/
theorem found (fits : message.Fits) : Found .x224 (bytes message) := by
  apply tpkt_found
  have length := bytes_length fits
  have small := McsMessage.size_small fits
  rw [← length, bytes] at small
  have shape : (tpkt (tpduHeader 2 ++ message.bytes)).length = 4 + (tpduHeader 2 ++ message.bytes).length := by
    simp only [tpkt, bigEndian16, List.length_append, List.length_cons, List.length_nil]
  rwa [shape] at small

end X224
end RoundTrip

section Safety
variable {field : String}

private theorem room_safe {α : Type} {d : Decoding α} {count : Nat} (safe : SafeFrom count d) :
    SafeFrom 0 (do room field count; d) := by
  intro src _
  simp only [Bind.bind, room]
  by_cases fits : count ≤ src.length
  · rw [if_pos fits]
    exact safe src fits
  · rw [if_neg fits]
    exact Option.some_ne_none _

private theorem perReadU16_safe (least : UInt16) : SafeFrom 0 (perReadU16 field least) := by
  apply room_safe
  apply readU16Be_takes.bind_safe 0
  intro value
  split
  · exact pure_safe _ 0
  · exact fail_safe _ 0

private theorem perReadU32_safe : SafeFrom 0 (perReadU32 field) := by
  apply (readLength_safe _).bind
  intro length
  dsimp only
  split
  · exact pure_safe _ 0
  · exact room_safe (readU8_takes.map _).safe
  · exact room_safe (readU16Be_takes.map _).safe
  · exact room_safe readU32Be_takes.safe
  · exact fail_safe _ 0

private theorem perReadEnum_safe (count : UInt8) : SafeFrom 0 (perReadEnum field count) := by
  apply room_safe
  apply readU8_takes.bind_safe 0
  intro enumerated
  split
  · exact fail_safe _ 0
  · exact pure_safe _ 0

private theorem readMcspduHeader_safe : SafeFrom 0 readMcspduHeader := by
  apply room_safe
  apply readU8_takes.bind_safe 0
  intro choice
  split
  · exact pure_safe _ 0
  · exact fail_safe _ 0

private theorem expectHeader_safe (expected : DomainMcsPdu) : SafeFrom 0 (expectHeader expected) := by
  apply readMcspduHeader_safe.bind
  intro pdu
  split
  · exact pure_safe _ 0
  · exact fail_safe _ 0

private theorem peekMcspduHeader_safe : SafeFrom 0 peekMcspduHeader := by
  intro src fits
  unfold peekMcspduHeader
  split
  · exact Option.some_ne_none _
  · exact Option.some_ne_none _
  · exact absurd ‹_› (readMcspduHeader_safe src fits)

/-- Data is read without a panic. -/
theorem SendData.decode_safe (domainMcspdu : DomainMcsPdu) (tpduUserDataSize : Nat) :
    SafeFrom 0 (SendData.decode domainMcspdu tpduUserDataSize) := by
  have counted : SafeFrom 0 remaining := fun _ _ => Option.some_ne_none _
  apply counted.bind
  intro before
  apply (expectHeader_safe domainMcspdu).bind
  intro _
  apply (perReadU16_safe baseChannelId).bind
  intro initiatorId
  apply (perReadU16_safe 0).bind
  intro channelId
  apply ensureSize_safe
  apply (readSlice_takes 1).bind_safe 0
  intro _
  apply (readLength_safe _).bind
  intro length
  dsimp only
  apply counted.bind
  intro after
  split
  · exact fail_safe _ 0
  · exact ensureSize_safe ((readSlice_takes _).map _).safe

private theorem decodeUltimatum_safe : SafeFrom 0 decodeUltimatum := by
  apply ensureSize_safe
  apply readU8_takes.bind_safe 1
  intro b1
  apply readU8_takes.bind_safe 0
  intro b2
  split
  · exact fail_safe _ 0
  · split
    · split
      · exact pure_safe _ 0
      · exact fail_safe _ 0
    · exact fail_safe _ 0

/-- A message is read without a panic. -/
theorem McsMessage.decode_safe (tpduUserDataSize : Nat) : SafeFrom 0 (McsMessage.decode tpduUserDataSize) := by
  apply peekMcspduHeader_safe.bind
  intro pdu
  cases pdu with
  | erectDomainRequest =>
    exact ((expectHeader_safe _).bind fun _ => perReadU32_safe.bind fun _ => perReadU32_safe.bind
      fun _ => pure_safe _ 0).bind fun _ => pure_safe _ 0
  | attachUserRequest => exact (expectHeader_safe _).bind fun _ => pure_safe _ 0
  | attachUserConfirm =>
    exact ((expectHeader_safe _).bind fun _ => (perReadEnum_safe _).bind fun _ => (perReadU16_safe _).bind
      fun _ => pure_safe _ 0).bind fun _ => pure_safe _ 0
  | channelJoinRequest =>
    exact ((expectHeader_safe _).bind fun _ => (perReadU16_safe _).bind fun _ => (perReadU16_safe _).bind
      fun _ => pure_safe _ 0).bind fun _ => pure_safe _ 0
  | channelJoinConfirm =>
    exact ((expectHeader_safe _).bind fun _ => (perReadEnum_safe _).bind fun _ => (perReadU16_safe _).bind
      fun _ => (perReadU16_safe _).bind fun _ => (perReadU16_safe _).bind
      fun _ => pure_safe _ 0).bind fun _ => pure_safe _ 0
  | sendDataRequest => exact (SendData.decode_safe _ _).bind fun _ => pure_safe _ 0
  | sendDataIndication => exact (SendData.decode_safe _ _).bind fun _ => pure_safe _ 0
  | disconnectProviderUltimatum => exact decodeUltimatum_safe.bind fun _ => pure_safe _ 0

theorem readTpktHeader_safe : SafeFrom 0 readTpktHeader := by
  apply ensureSize_safe
  apply readU8_takes.bind_safe 3
  intro version
  split
  · exact fail_safe _ 3
  · exact (readSlice_takes 1).bind_safe 2 fun _ => readU16Be_takes.safe

theorem readTpduHeader_safe (packetLength : UInt16) : SafeFrom 0 (readTpduHeader packetLength) := by
  apply ensureSize_safe
  apply readU8_takes.bind_safe 2
  intro li
  apply readU8_takes.bind_safe 1
  intro code
  split
  · exact fail_safe _ 1
  · split
    · exact fail_safe _ 1
    · split
      · exact ((readSlice_takes 1).map _).safe
      · intro src _
        exact ensureSize_safe ((readSlice_takes 5).map _).safe src (Nat.zero_le _)

/-- The header of the data unit that was read lies inside the packet. -/
theorem readTpduHeader_within {packetLength : UInt16} {src rest : Bytes} {li code : UInt8}
    (ran : readTpduHeader packetLength src = some (.ok ((li, code), rest))) :
    li.toNat + 1 + 4 ≤ packetLength.toNat := by
  unfold readTpduHeader at ran
  obtain ⟨_, _, _, ran⟩ := bind_eq_ok.mp ran
  obtain ⟨li', _, _, ran⟩ := bind_eq_ok.mp ran
  obtain ⟨code', _, _, ran⟩ := bind_eq_ok.mp ran
  by_cases long : li'.toNat + 1 + 4 > packetLength.toNat
  · rw [if_pos long] at ran
    cases ran
  · rw [if_neg long] at ran
    have same : li' = li := by
      split at ran
      · cases ran
      · split at ran
        · obtain ⟨_, _, _, ran⟩ := bind_eq_ok.mp ran
          cases ran
          rfl
        · obtain ⟨_, _, _, ran⟩ := bind_eq_ok.mp ran
          obtain ⟨_, _, _, ran⟩ := bind_eq_ok.mp ran
          cases ran
          rfl
    rw [← same]
    exact Nat.le_of_not_lt long

/-- What is subtracted from the length of a packet lies inside it. -/
theorem readX224_safe {α : Type} {body : Nat → Decoding α} (safe : ∀ size, SafeFrom 0 (body size)) :
    SafeFrom 0 (readX224 body) := by
  apply readTpktHeader_safe.bind
  intro packetLength
  apply ensureSize_safe
  intro src _
  refine ((readTpduHeader_safe packetLength).bind_read ?_) src (Nat.zero_le _)
  rintro ⟨li, code⟩ _ _ ran
  have within := readTpduHeader_within ran
  dsimp only
  split
  · exact fail_safe _ 0
  · split
    · exact fail_safe _ 0
    · apply (subtract_safe (by omega)).bind_read
      intro withoutTpkt _ _ taken
      have left := subtract_eq taken
      exact (subtract_safe (by omega)).bind safe

/-- A data unit is read without a panic. -/
theorem X224.decode_safe : SafeFrom 0 X224.decode := readX224_safe McsMessage.decode_safe

end Safety

section Accepted
variable {field : String} {src rest : Bytes} {message : McsMessage}

private theorem perReadU16_above {value least : UInt16}
    (ran : perReadU16 field least src = some (.ok (value, rest))) :
    least ≤ value := by
  obtain ⟨_, _, _, ran⟩ := bind_eq_ok.mp ran
  obtain ⟨read, _, _, ran⟩ := bind_eq_ok.mp ran
  split at ran
  · rename_i small
    cases ran
    rw [UInt16.le_iff_toNat_le, UInt16.toNat_add]
    rw [Nat.mod_eq_of_lt small]
    exact Nat.le_add_right _ _
  · cases ran

private theorem perReadEnum_below {enumerated count : UInt8}
    (ran : perReadEnum field count src = some (.ok (enumerated, rest))) : enumerated < count := by
  obtain ⟨_, _, _, ran⟩ := bind_eq_ok.mp ran
  obtain ⟨read, _, _, ran⟩ := bind_eq_ok.mp ran
  split at ran
  · cases ran
  · rename_i below
    cases ran
    exact UInt8.not_le.mp below

/-- Data that is accepted could have been sent. -/
theorem SendData.decode_fits {domainMcspdu : DomainMcsPdu} {tpduUserDataSize : Nat} {data : SendData}
    (ran : SendData.decode domainMcspdu tpduUserDataSize src = some (.ok (data, rest))) :
    baseChannelId ≤ data.initiatorId ∧ data.userData.length < 32768 := by
  obtain ⟨_, _, _, ran⟩ := bind_eq_ok.mp ran
  obtain ⟨_, _, _, ran⟩ := bind_eq_ok.mp ran
  obtain ⟨initiatorId, _, initiator, ran⟩ := bind_eq_ok.mp ran
  obtain ⟨channelId, _, _, ran⟩ := bind_eq_ok.mp ran
  obtain ⟨_, _, _, ran⟩ := bind_eq_ok.mp ran
  obtain ⟨_, _, _, ran⟩ := bind_eq_ok.mp ran
  obtain ⟨⟨length, size⟩, _, lengthRead, ran⟩ := bind_eq_ok.mp ran
  obtain ⟨_, _, _, ran⟩ := bind_eq_ok.mp ran
  split at ran
  · cases ran
  · obtain ⟨_, _, _, ran⟩ := bind_eq_ok.mp ran
    obtain ⟨userData, _, taken, ran⟩ := bind_eq_ok.mp ran
    have short := FastPath.readLength_lt lengthRead
    cases ran
    refine ⟨perReadU16_above initiator, ?_⟩
    unfold readSlice at taken
    split at taken
    · cases taken
      rw [List.length_take]
      omega
    · cases taken

/-- What is decoded can be encoded. -/
theorem McsMessage.decode_fits {tpduUserDataSize : Nat}
    (ran : McsMessage.decode tpduUserDataSize src = some (.ok (message, rest))) : message.Fits := by
  obtain ⟨pdu, _, _, ran⟩ := bind_eq_ok.mp ran
  cases pdu with
  | erectDomainRequest =>
    obtain ⟨_, _, _, ran⟩ := bind_eq_ok.mp ran
    cases ran
    trivial
  | attachUserRequest =>
    obtain ⟨_, _, _, ran⟩ := bind_eq_ok.mp ran
    cases ran
    trivial
  | attachUserConfirm =>
    obtain ⟨_, _, read, ran⟩ := bind_eq_ok.mp ran
    cases ran
    obtain ⟨_, _, _, read⟩ := bind_eq_ok.mp read
    obtain ⟨_, _, result, read⟩ := bind_eq_ok.mp read
    obtain ⟨_, _, initiator, read⟩ := bind_eq_ok.mp read
    cases read
    exact ⟨perReadEnum_below result, perReadU16_above initiator⟩
  | channelJoinRequest =>
    obtain ⟨_, _, read, ran⟩ := bind_eq_ok.mp ran
    cases ran
    obtain ⟨_, _, _, read⟩ := bind_eq_ok.mp read
    obtain ⟨_, _, initiator, read⟩ := bind_eq_ok.mp read
    obtain ⟨_, _, _, read⟩ := bind_eq_ok.mp read
    cases read
    exact perReadU16_above initiator
  | channelJoinConfirm =>
    obtain ⟨_, _, read, ran⟩ := bind_eq_ok.mp ran
    cases ran
    obtain ⟨_, _, _, read⟩ := bind_eq_ok.mp read
    obtain ⟨_, _, result, read⟩ := bind_eq_ok.mp read
    obtain ⟨_, _, initiator, read⟩ := bind_eq_ok.mp read
    obtain ⟨_, _, _, read⟩ := bind_eq_ok.mp read
    obtain ⟨_, _, _, read⟩ := bind_eq_ok.mp read
    cases read
    exact ⟨perReadEnum_below result, perReadU16_above initiator⟩
  | sendDataRequest =>
    obtain ⟨_, _, read, ran⟩ := bind_eq_ok.mp ran
    cases ran
    exact SendData.decode_fits read
  | sendDataIndication =>
    obtain ⟨_, _, read, ran⟩ := bind_eq_ok.mp ran
    cases ran
    exact SendData.decode_fits read
  | disconnectProviderUltimatum =>
    obtain ⟨_, _, _, ran⟩ := bind_eq_ok.mp ran
    cases ran
    trivial

/-- A message that is accepted could have been sent. -/
theorem X224.decode_fits (ran : X224.decode src = some (.ok (message, rest))) : message.Fits := by
  obtain ⟨packetLength, _, _, ran⟩ := bind_eq_ok.mp ran
  obtain ⟨_, _, _, ran⟩ := bind_eq_ok.mp ran
  obtain ⟨⟨li, code⟩, _, _, ran⟩ := bind_eq_ok.mp ran
  dsimp only at ran
  split at ran
  · cases ran
  · split at ran
    · cases ran
    · obtain ⟨_, _, _, ran⟩ := bind_eq_ok.mp ran
      obtain ⟨_, _, _, ran⟩ := bind_eq_ok.mp ran
      exact McsMessage.decode_fits ran

/-- A message that fits comes back out of the bytes it is encoded as, which are
the size it tells and which `find_size` cuts out of a stream; no other message
comes back, whatever bytes there are. -/
theorem round_trips_iff_fits (message : McsMessage) :
    ((∃ bytes, X224.encode message (X224.size message) = some (.ok bytes) ∧ bytes.length = X224.size message ∧
        Found .x224 bytes ∧ X224.decode bytes = some (.ok (message, []))) ↔ message.Fits) ∧
      (¬ message.Fits → ∀ bytes rest, X224.decode bytes ≠ some (.ok (message, rest))) := by
  refine ⟨⟨?_, ?_⟩, ?_⟩
  · rintro ⟨bytes, _, _, _, decoded⟩
    exact X224.decode_fits decoded
  · intro fits
    have length := X224.bytes_length fits
    have decoded := X224.decode_reads fits []
    rw [List.append_nil] at decoded
    refine ⟨X224.bytes message, ?_, length, X224.found fits, decoded⟩
    rw [← length]
    exact X224.encode_writes fits _ (Nat.le_refl _)
  · intro unfit bytes rest decoded
    exact unfit (X224.decode_fits decoded)

end Accepted
end Osxrdp.Mcs
