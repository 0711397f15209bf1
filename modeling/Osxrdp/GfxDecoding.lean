import Osxrdp.Gfx
import Osxrdp.WireDecoding

/-! The decoder of client PDUs in the vendored graphics messages, and what
`GfxServer::process` makes of a payload. -/
namespace Osxrdp.GfxDecoding
open Bytes
open WireDecoding Decoding
open Gfx (CapabilitySet CapabilityVersion GfxServer ServerPdu)

section Flags

/-! The bits that `from_bits_truncate` keeps. -/

def CapabilitiesV8Flags.all : UInt32 := 0x1 ||| 0x2
def CapabilitiesV81Flags.all : UInt32 := 0x1 ||| 0x2 ||| 0x10
def CapabilitiesV10Flags.all : UInt32 := 0x2 ||| 0x20
def CapabilitiesV103Flags.all : UInt32 := 0x20 ||| 0x40
def CapabilitiesV104Flags.all : UInt32 := 0x2 ||| 0x20 ||| 0x40
def CapabilitiesV107Flags.all : UInt32 := 0x2 ||| 0x20 ||| 0x40 ||| 0x80

end Flags

namespace CapabilityVersion

/-- `CapabilityVersion::from_u32` -/
def fromU32 : UInt32 → Option CapabilityVersion
  | 0x80004 => some .v8
  | 0x80105 => some .v8_1
  | 0xa0002 => some .v10
  | 0xa0100 => some .v10_1
  | 0xa0200 => some .v10_2
  | 0xa0301 => some .v10_3
  | 0xa0400 => some .v10_4
  | 0xa0502 => some .v10_5
  | 0xa0600 => some .v10_6
  | 0xa0601 => some .v10_6Err
  | 0xa0701 => some .v10_7
  | 0xa0702 => some .unknown
  | _ => none

/-- The versions whose data are flags: the bits that are kept, and the set. -/
def flagged : CapabilityVersion → Option (UInt32 × (UInt32 → CapabilitySet))
  | .v8 => some (CapabilitiesV8Flags.all, .v8)
  | .v8_1 => some (CapabilitiesV81Flags.all, .v8_1)
  | .v10 => some (CapabilitiesV10Flags.all, .v10)
  | .v10_2 => some (CapabilitiesV10Flags.all, .v10_2)
  | .v10_3 => some (CapabilitiesV103Flags.all, .v10_3)
  | .v10_4 => some (CapabilitiesV104Flags.all, .v10_4)
  | .v10_5 => some (CapabilitiesV104Flags.all, .v10_5)
  | .v10_6 => some (CapabilitiesV104Flags.all, .v10_6)
  | .v10_6Err => some (CapabilitiesV104Flags.all, .v10_6Err)
  | .v10_7 => some (CapabilitiesV107Flags.all, .v10_7)
  | .v10_1 | .unknown => none

end CapabilityVersion

namespace CapabilitySet

/-- The flags of a set, those of unknown meaning dropped. -/
def decodeFlags (kept : UInt32) (set : UInt32 → CapabilitySet) : Decoding CapabilitySet := do
  ensureSize 4
  return set ((← readU32) &&& kept)

/-- The arms of the decoder, over a cursor on the data of the set. -/
def decodeData (version : Option CapabilityVersion) (data : Bytes) : Decoding CapabilitySet :=
  match version.bind CapabilityVersion.flagged with
  | some (kept, set) => decodeFlags kept set
  | none =>
    if version = some .v10_1 then do
      ensureSize 16
      let _ ← readSlice 16
      return .v10_1
    else return .unknown data

/-- `CapabilitySet::decode` -/
def decode : Decoding CapabilitySet := do
  ensureSize 8
  let versionRaw ← readU32
  let dataLength ← readU32
  ensureSize dataLength.toNat
  let data ← readSlice dataLength.toNat
  within data (decodeData (CapabilityVersion.fromU32 versionRaw) data)

def size : CapabilitySet → Nat
  | .v10_1 => 8 + 16
  | .unknown data => 8 + data.length
  | _ => 8 + 4

end CapabilitySet

namespace CapabilitiesAdvertisePdu

/-- `CapabilitiesAdvertisePdu::decode` -/
def decode : Decoding (List CapabilitySet) := do
  ensureSize 2
  let capabilitiesCount ← readU16
  ensureSize (capabilitiesCount.toNat * 8)
  times capabilitiesCount.toNat CapabilitySet.decode

def size (caps : List CapabilitySet) : Nat := 2 + (caps.map CapabilitySet.size).sum

end CapabilitiesAdvertisePdu

/-- How many frames the client has not decoded yet. -/
inductive QueueDepth where
  | unavailable
  | availableBytes (count : UInt32)
  | suspend
  deriving DecidableEq, Repr

def QueueDepth.fromU32 : UInt32 → QueueDepth
  | 0 => .unavailable
  | 0xffffffff => .suspend
  | count => .availableBytes count

/-- The client's acknowledgement of a frame. -/
structure FrameAcknowledgePdu where
  queueDepth : QueueDepth
  frameId : UInt32
  totalFramesDecoded : UInt32
  deriving DecidableEq, Repr

namespace FrameAcknowledgePdu

/-- `FrameAcknowledgePdu::decode` -/
def decode : Decoding FrameAcknowledgePdu := do
  ensureSize 12
  let queueDepth ← readU32
  let frameId ← readU32
  let totalFramesDecoded ← readU32
  return { queueDepth := .fromU32 queueDepth, frameId, totalFramesDecoded }

def size : Nat := 12

end FrameAcknowledgePdu

/-- The messages of a client. -/
inductive ClientPduType where
  | frameAcknowledge
  | cacheImportOffer
  | capabilitiesAdvertise
  | qoeFrameAcknowledge
  deriving DecidableEq, Repr

/-- `ClientPduType::from_u16` -/
def ClientPduType.fromU16 : UInt16 → Option ClientPduType
  | 0x0d => some .frameAcknowledge
  | 0x10 => some .cacheImportOffer
  | 0x12 => some .capabilitiesAdvertise
  | 0x16 => some .qoeFrameAcknowledge
  | _ => none

/-- A message of a client. -/
inductive ClientPdu where
  | frameAcknowledge (pdu : FrameAcknowledgePdu)
  | capabilitiesAdvertise (caps : List CapabilitySet)
  deriving DecidableEq, Repr

namespace ClientPdu

def size : ClientPdu → Nat
  | .frameAcknowledge _ => 8 + FrameAcknowledgePdu.size
  | .capabilitiesAdvertise caps => 8 + CapabilitiesAdvertisePdu.size caps

/-- The message of a kind. -/
def decodeBody : ClientPduType → Decoding ClientPdu
  | .frameAcknowledge => do return .frameAcknowledge (← FrameAcknowledgePdu.decode)
  | .capabilitiesAdvertise => do return .capabilitiesAdvertise (← CapabilitiesAdvertisePdu.decode)
  | .cacheImportOffer | .qoeFrameAcknowledge => fail (.invalidField "pduType" "invalid pdu type")

/-- The length is checked against the size of what was decoded, once that is done. -/
def checkLength (pduLength : UInt32) (clientPdu : ClientPdu) : Decoding ClientPdu :=
  if clientPdu.size ≠ pduLength.toNat then fail (.invalidField "len" "invalid pdu length")
  else return clientPdu

/-- What follows the type of the PDU: flags, a length, and the body. -/
def decodeTyped (pduType : ClientPduType) : Decoding ClientPdu := do
  let _flags ← readU16
  let pduLength ← readU32
  let clientPdu ← decodeBody pduType
  checkLength pduLength clientPdu

/-- The reads of the header are not preceded by a check of the room. -/
def decode : Decoding ClientPdu := do
  match ClientPduType.fromU16 (← readU16) with
  | none => fail (.invalidField "clientPduType" "invalid pdu type")
  | some pduType => decodeTyped pduType

/-- An acknowledgement is only logged. -/
def handled : ClientPdu → Gfx.ClientPdu
  | .frameAcknowledge _ => .frameAcknowledge
  | .capabilitiesAdvertise caps => .capabilitiesAdvertise caps

end ClientPdu

/-- `GfxServer::process` on the bytes of a message; `none` is a panic. -/
def processPayload (gfx : GfxServer) (payload : Bytes) : Option (GfxServer × List ServerPdu) :=
  match ClientPdu.decode payload with
  | none => none
  | some (.error _) => some (gfx.process none)
  | some (.ok (pdu, _)) => some (gfx.process (some pdu.handled))

/-- A capability set as it is decoded: its version and the length of its data,
which begin with what the version has. -/
inductive SetFormat : CapabilitySet → Bytes → Prop where
  | flagged (versionRaw bits kept : UInt32) (version : CapabilityVersion) (set : UInt32 → CapabilitySet)
      (more : Bytes) (known : CapabilityVersion.fromU32 versionRaw = some version)
      (carries : CapabilityVersion.flagged version = some (kept, set)) (small : 4 + more.length < UInt32.size) :
      SetFormat (set (bits &&& kept)) (littleEndian 4 versionRaw.toNat ++
        littleEndian 4 (4 + more.length) ++ littleEndian 4 bits.toNat ++ more)
  | v10_1 (versionRaw : UInt32) (reserved more : Bytes)
      (known : CapabilityVersion.fromU32 versionRaw = some .v10_1) (whole : reserved.length = 16)
      (small : 16 + more.length < UInt32.size) :
      SetFormat .v10_1 (littleEndian 4 versionRaw.toNat ++ littleEndian 4 (16 + more.length) ++
        reserved ++ more)
  | unknown (versionRaw : UInt32) (data : Bytes)
      (unknown : ∀ version, CapabilityVersion.fromU32 versionRaw = some version → version = .unknown)
      (small : data.length < UInt32.size) :
      SetFormat (.unknown data) (littleEndian 4 versionRaw.toNat ++ littleEndian 4 data.length ++ data)

/-- A client PDU as it is decoded: a type, flags, its body, and a length that
counts of each set no more data than its version has. -/
inductive PduFormat : ClientPdu → Bytes → Prop where
  | frameAcknowledge (flags : UInt16) (queueDepth frameId totalFramesDecoded : UInt32) :
      PduFormat (.frameAcknowledge { queueDepth := .fromU32 queueDepth, frameId, totalFramesDecoded })
        (littleEndian 2 0x0d ++ littleEndian 2 flags.toNat ++ littleEndian 4 20 ++
          littleEndian 4 queueDepth.toNat ++ littleEndian 4 frameId.toNat ++
          littleEndian 4 totalFramesDecoded.toNat)
  | capabilitiesAdvertise (flags : UInt16) (caps : List CapabilitySet) (sets : List Bytes)
      (each : List.Forall₂ SetFormat caps sets) (counted : caps.length < UInt16.size)
      (small : 10 + (caps.map CapabilitySet.size).sum < UInt32.size) :
      PduFormat (.capabilitiesAdvertise caps)
        (littleEndian 2 0x12 ++ littleEndian 2 flags.toNat ++
          littleEndian 4 (10 + (caps.map CapabilitySet.size).sum) ++ littleEndian 2 caps.length ++
          sets.flatten)

/-- What the decoder finds at the front of a payload. -/
def Begins (pdu : ClientPdu) (payload : Bytes) : Prop := ∃ bytes, PduFormat pdu bytes ∧ bytes <+: payload

/-- How much data a version has. -/
def CapabilityVersion.dataSize : Option CapabilityVersion → Nat
  | some .v10_1 => 16
  | some .unknown | none => 0
  | some _ => 4

/-- A version, the length of the data, and as many data, of which there are
enough for the version. -/
inductive WellFormedSet : Bytes → Prop where
  | mk (versionRaw : UInt32) (data : Bytes)
      (enough : CapabilityVersion.dataSize (CapabilityVersion.fromU32 versionRaw) ≤ data.length)
      (small : data.length < UInt32.size) :
      WellFormedSet (littleEndian 4 versionRaw.toNat ++ littleEndian 4 data.length ++ data)

/-- The body of a PDU, by the raw type in front of it. -/
inductive WellFormedBody : UInt16 → Bytes → Prop where
  | frameAcknowledge (body : Bytes) (whole : body.length = 12) : WellFormedBody 0x0d body
  | capabilitiesAdvertise (sets : List Bytes) (each : ∀ set ∈ sets, WellFormedSet set)
      (counted : sets.length < UInt16.size) :
      WellFormedBody 0x12 (littleEndian 2 sets.length ++ sets.flatten)

/-- A payload that is one client PDU: a type, flags, the length of the whole, and
a body of the type. -/
inductive WellFormed : Bytes → Prop where
  | mk (typeRaw flags : UInt16) (body : Bytes) (carries : WellFormedBody typeRaw body)
      (small : 8 + body.length < UInt32.size) :
      WellFormed (littleEndian 2 typeRaw.toNat ++ littleEndian 2 flags.toNat ++
        littleEndian 4 (8 + body.length) ++ body)

section Safety

private theorem decodeFlags_safe (kept : UInt32) (set : UInt32 → CapabilitySet) :
    SafeFrom 0 (CapabilitySet.decodeFlags kept set) := by
  apply ensureSize_safe
  exact (readU32_takes.map fun bits => set (bits &&& kept)).safe

private theorem decodeData_safe (version : Option CapabilityVersion) (data : Bytes) :
    SafeFrom 0 (CapabilitySet.decodeData version data) := by
  unfold CapabilitySet.decodeData
  split
  · exact decodeFlags_safe _ _
  · split
    · apply ensureSize_safe
      exact (readSlice_takes 16).safe.bind fun _ => pure_safe _ 0
    · exact pure_safe _ 0

/-- A capability set is read without a panic when its header is readable. -/
theorem capabilitySet_decode_safe : SafeFrom 0 CapabilitySet.decode := by
  apply ensureSize_safe
  apply readU32_takes.bind_safe 4
  intro versionRaw
  apply readU32_takes.safe.bind
  intro dataLength
  apply ensureSize_safe
  apply (readSlice_takes _).safe.bind
  intro data
  exact within_safe data (decodeData_safe _ data)

private theorem capabilitiesAdvertise_decode_safe : SafeFrom 0 CapabilitiesAdvertisePdu.decode := by
  apply ensureSize_safe
  apply readU16_takes.safe.bind
  intro count
  apply ensureSize_safe
  intro src _
  exact times_safe capabilitySet_decode_safe _ src (Nat.zero_le _)

private theorem frameAcknowledge_decode_safe : SafeFrom 0 FrameAcknowledgePdu.decode := by
  apply ensureSize_safe
  apply readU32_takes.bind_safe 8
  intro queueDepth
  apply readU32_takes.bind_safe 4
  intro frameId
  exact readU32_takes.safe.bind fun _ => pure_safe _ 0

private theorem decodeBody_safe (pduType : ClientPduType) : SafeFrom 0 (ClientPdu.decodeBody pduType) := by
  cases pduType with
  | frameAcknowledge => exact frameAcknowledge_decode_safe.bind fun _ => pure_safe _ 0
  | capabilitiesAdvertise => exact capabilitiesAdvertise_decode_safe.bind fun _ => pure_safe _ 0
  | cacheImportOffer => exact fail_safe _ 0
  | qoeFrameAcknowledge => exact fail_safe _ 0

private theorem checkLength_safe (pduLength : UInt32) (pdu : ClientPdu) :
    SafeFrom 0 (ClientPdu.checkLength pduLength pdu) := by
  unfold ClientPdu.checkLength
  split
  · exact fail_safe _ 0
  · exact pure_safe pdu 0

/-- Six more bytes after the type are needed, and enough. -/
theorem decodeTyped_safe (pduType : ClientPduType) : SafeFrom 6 (ClientPdu.decodeTyped pduType) := by
  apply readU16_takes.bind_safe 4
  intro flags
  apply readU32_takes.safe.bind
  intro pduLength
  exact (decodeBody_safe pduType).bind fun pdu => checkLength_safe pduLength pdu

private theorem decodeTyped_needs (pduType : ClientPduType) : Needs 6 (ClientPdu.decodeTyped pduType) :=
  readU16_takes.bind_needs 4 fun _ => readU32_takes.needs.bind

/-- The type of the PDU is there, and with a known type the rest of the header. -/
def HeaderReadable (payload : Bytes) : Prop :=
  2 ≤ payload.length ∧ (ClientPduType.fromU16 (fromLittleEndian (payload.take 2)).toUInt16 = none ∨
    8 ≤ payload.length)

instance (payload : Bytes) : Decidable (HeaderReadable payload) := inferInstanceAs (Decidable (_ ∧ _))

private theorem readU16_reads {src : Bytes} (fits : 2 ≤ src.length) :
    readU16 src = some (.ok ((fromLittleEndian (src.take 2)).toUInt16, src.drop 2)) := by
  have slice : readSlice 2 src = some (.ok (src.take 2, src.drop 2)) := if_pos fits
  have nat : readNat 2 src = some (.ok (fromLittleEndian (src.take 2), src.drop 2)) := bind_of_ok slice
  exact bind_of_ok nat

/-- The decoder of a client PDU panics exactly where it cannot read the header. -/
theorem decode_returns_iff (payload : Bytes) : ClientPdu.decode payload ≠ none ↔ HeaderReadable payload := by
  unfold HeaderReadable
  by_cases typed : 2 ≤ payload.length
  · have after : (payload.drop 2).length = payload.length - 2 := List.length_drop
    have header := bind_of_ok (f := fun raw => match ClientPduType.fromU16 raw with
      | none => fail (.invalidField "clientPduType" "invalid pdu type")
      | some pduType => ClientPdu.decodeTyped pduType) (readU16_reads typed)
    have decodes : ClientPdu.decode payload = _ := header
    rw [decodes]
    cases known : ClientPduType.fromU16 (fromLittleEndian (payload.take 2)).toUInt16 with
    | none => simp [typed, fail]
    | some pduType =>
      simp only [typed, true_and, reduceCtorEq, false_or]
      constructor
      · intro returns
        by_contra short
        exact returns (decodeTyped_needs pduType _ (by omega))
      · intro whole
        exact decodeTyped_safe pduType _ (by omega)
  · have panics : ClientPdu.decode payload = none := readU16_takes.needs.bind payload (by omega)
    simp [panics, typed]

end Safety

section Format

/-- What the data of a set begin with, by its version. -/
inductive DataFormat (version : Option CapabilityVersion) (data : Bytes) :
    CapabilitySet → Bytes → Prop where
  | flagged (bits kept : UInt32) (known : CapabilityVersion) (set : UInt32 → CapabilitySet)
      (same : version = some known) (carries : CapabilityVersion.flagged known = some (kept, set)) :
      DataFormat version data (set (bits &&& kept)) (littleEndian 4 bits.toNat)
  | v10_1 (reserved : Bytes) (same : version = some .v10_1) (whole : reserved.length = 16) :
      DataFormat version data .v10_1 reserved
  | unknown (unknown : ∀ known, version = some known → known = .unknown) :
      DataFormat version data (.unknown data) []

private theorem decodeFlags_parses (kept : UInt32) (set : UInt32 → CapabilitySet) :
    Parses (CapabilitySet.decodeFlags kept set) fun made bytes =>
      ∃ bits, made = set (bits &&& kept) ∧ bytes = littleEndian 4 bits.toNat := by
  apply Parses.ensureSize
  · exact readU32_parses.map fun bits => set (bits &&& kept)
  · rintro _ _ ⟨bits, _, rfl⟩
    rw [littleEndian_length]

private theorem reserved_parses : Parses (do
    ensureSize 16
    let _ ← readSlice 16
    return CapabilitySet.v10_1) fun set bytes => set = .v10_1 ∧ bytes.length = 16 := by
  apply Parses.ensureSize
  · apply ((readSlice_parses 16).map fun _ => CapabilitySet.v10_1).congr
    intro set bytes
    constructor
    · rintro ⟨_, made, rfl, whole⟩
      exact ⟨made, whole⟩
    · rintro ⟨made, whole⟩
      exact ⟨bytes, made, rfl, whole⟩
  · rintro _ _ ⟨_, whole⟩
    exact whole.ge

private theorem flagged_none {version : CapabilityVersion} :
    CapabilityVersion.flagged version = none ↔ version = .v10_1 ∨ version = .unknown := by
  cases version <;> simp [CapabilityVersion.flagged]

private theorem decodeData_parses (version : Option CapabilityVersion) (data : Bytes) :
    Parses (CapabilitySet.decodeData version data) (DataFormat version data) := by
  unfold CapabilitySet.decodeData
  split
  next kept set carries =>
    obtain ⟨known, same, table⟩ := Option.bind_eq_some_iff.mp carries
    apply (decodeFlags_parses kept set).congr
    intro made bytes
    constructor
    · rintro ⟨bits, rfl, rfl⟩
      exact .flagged bits kept known set same table
    · intro format
      cases format with
      | flagged bits kept' known' set' same' table' =>
        cases same.symm.trans same'
        cases table.symm.trans table'
        exact ⟨bits, rfl, rfl⟩
      | v10_1 _ same' _ =>
        cases same.symm.trans same'
        cases table
      | unknown unknown =>
        cases unknown known same
        cases table
  next plain =>
    split
    next same =>
      apply reserved_parses.congr
      intro made bytes
      constructor
      · rintro ⟨rfl, whole⟩
        exact .v10_1 bytes same whole
      · intro format
        cases format with
        | flagged _ _ known _ same' table =>
          cases same.symm.trans same'
          cases table
        | v10_1 _ _ whole => exact ⟨rfl, whole⟩
        | unknown unknown => cases unknown .v10_1 same
    next other =>
      have unknown : ∀ known, version = some known → known = .unknown := by
        rintro known rfl
        obtain rfl | unknown := flagged_none.mp plain
        · exact absurd rfl other
        · exact unknown
      apply (pure_parses _).congr
      intro made bytes
      constructor
      · rintro ⟨rfl, rfl⟩
        exact .unknown unknown
      · intro format
        cases format with
        | flagged _ _ known _ same table =>
          cases unknown known same
          cases table
        | v10_1 _ same _ => cases unknown _ same
        | unknown _ => exact ⟨rfl, rfl⟩

private theorem toNat_toUInt32 {n : Nat} (small : n < UInt32.size) : n.toUInt32.toNat = n :=
  UInt32.toNat_ofNat_of_lt' small

private theorem setFormat_length {set : CapabilitySet} {bytes : Bytes} (format : SetFormat set bytes) :
    8 ≤ bytes.length := by
  cases format <;> simp only [List.length_append, littleEndian_length] <;> omega

/-- What is decoded of a set is what its format says. -/
theorem capabilitySet_decode_parses : Parses CapabilitySet.decode SetFormat := by
  apply Parses.ensureSize
  · apply (readU32_parses.bind fun versionRaw => readU32_parses.bind fun dataLength =>
      ((readSlice_parses dataLength.toNat).bind fun data =>
        (decodeData_parses (CapabilityVersion.fromU32 versionRaw) data).within data).ensureSize ?_).congr
    · intro set bytes
      constructor
      · rintro ⟨versionRaw, _, _, rfl, ⟨dataLength, _, _, rfl, ⟨data, _, _, ⟨rfl, length⟩,
          ⟨rfl, inner, format, more, rfl⟩, rfl⟩, rfl⟩, rfl⟩
        have small := dataLength.toNat_lt
        rw [← length] at small ⊢
        cases format with
        | flagged bits kept version set known carries =>
          simp only [List.length_append, littleEndian_length] at small ⊢
          simpa using SetFormat.flagged versionRaw bits kept version set more known carries small
        | v10_1 _ known whole =>
          simp only [List.length_append, whole] at small ⊢
          simpa using SetFormat.v10_1 versionRaw inner more known whole small
        | unknown unknown =>
          simpa using SetFormat.unknown versionRaw _ unknown small
      · intro format
        cases format with
        | flagged versionRaw bits kept version set more known carries small =>
          refine ⟨versionRaw, _, _, rfl, ⟨(4 + more.length).toUInt32, _, _, rfl,
            ⟨littleEndian 4 bits.toNat ++ more, _, [], ⟨rfl, ?_⟩, ⟨rfl, _,
              .flagged bits kept version set known carries, List.prefix_append ..⟩, rfl⟩, rfl⟩, ?_⟩
          · rw [toNat_toUInt32 small, List.length_append, littleEndian_length]
          · rw [toNat_toUInt32 small]
            simp
        | v10_1 versionRaw reserved more known whole small =>
          refine ⟨versionRaw, _, _, rfl, ⟨(16 + more.length).toUInt32, _, _, rfl,
            ⟨reserved ++ more, _, [], ⟨rfl, ?_⟩, ⟨rfl, _, .v10_1 reserved known whole,
              List.prefix_append ..⟩, rfl⟩, rfl⟩, ?_⟩
          · rw [toNat_toUInt32 small, List.length_append, whole]
          · rw [toNat_toUInt32 small]
            simp
        | unknown versionRaw data unknown small =>
          refine ⟨versionRaw, _, _, rfl, ⟨data.length.toUInt32, _, _, rfl,
            ⟨data, _, [], ⟨rfl, ?_⟩, ⟨rfl, _, .unknown unknown, List.nil_prefix⟩, rfl⟩, rfl⟩, ?_⟩
          · rw [toNat_toUInt32 small]
          · rw [toNat_toUInt32 small]
            simp
    · rintro set bytes ⟨data, _, _, ⟨rfl, length⟩, _, rfl⟩
      rw [List.length_append]
      omega
  · intro set bytes format
    exact setFormat_length format

private theorem sets_length {caps : List CapabilitySet} {sets : List Bytes}
    (each : List.Forall₂ SetFormat caps sets) : caps.length * 8 ≤ sets.flatten.length := by
  induction each with
  | nil => exact Nat.le_refl 0
  | cons format _ ih =>
    have first := setFormat_length format
    rw [List.length_cons, List.flatten_cons, List.length_append]
    omega

private theorem capabilitiesAdvertise_decode_parses : Parses CapabilitiesAdvertisePdu.decode fun caps bytes =>
    caps.length < UInt16.size ∧ ∃ sets, List.Forall₂ SetFormat caps sets ∧
      bytes = littleEndian 2 caps.length ++ sets.flatten := by
  apply Parses.ensureSize
  · apply (readU16_parses.bind fun count =>
      (capabilitySet_decode_parses.times count.toNat).ensureSize ?_).congr
    · intro caps bytes
      constructor
      · rintro ⟨count, _, _, rfl, ⟨length, sets, each, rfl⟩, rfl⟩
        rw [length]
        exact ⟨count.toNat_lt, sets, each, rfl⟩
      · rintro ⟨counted, sets, each, rfl⟩
        have same : caps.length.toUInt16.toNat = caps.length := UInt16.toNat_ofNat_of_lt' counted
        exact ⟨caps.length.toUInt16, _, _, rfl, ⟨same.symm, sets, each, rfl⟩, by rw [same]⟩
    · rintro caps _ ⟨length, sets, each, rfl⟩
      rw [← length]
      exact sets_length each
  · rintro caps _ ⟨_, sets, _, rfl⟩
    rw [List.length_append, littleEndian_length]
    omega

private theorem frameAcknowledge_decode_parses : Parses FrameAcknowledgePdu.decode fun pdu bytes =>
    ∃ queueDepth frameId totalFramesDecoded : UInt32,
      pdu = { queueDepth := .fromU32 queueDepth, frameId, totalFramesDecoded } ∧
      bytes = littleEndian 4 queueDepth.toNat ++ (littleEndian 4 frameId.toNat ++
        littleEndian 4 totalFramesDecoded.toNat) := by
  apply Parses.ensureSize
  · apply (readU32_parses.bind fun queueDepth => readU32_parses.bind fun frameId =>
      readU32_parses.map fun totalFramesDecoded => FrameAcknowledgePdu.mk (.fromU32 queueDepth) frameId
        totalFramesDecoded).congr
    intro pdu bytes
    constructor
    · rintro ⟨queueDepth, _, _, rfl, ⟨frameId, _, _, rfl, ⟨total, rfl, rfl⟩, rfl⟩, rfl⟩
      exact ⟨queueDepth, frameId, total, rfl, rfl⟩
    · rintro ⟨queueDepth, frameId, total, rfl, rfl⟩
      exact ⟨queueDepth, _, _, rfl, ⟨frameId, _, _, rfl, ⟨total, rfl, rfl⟩, rfl⟩, rfl⟩
  · rintro _ _ ⟨_, _, _, _, rfl⟩
    simp only [List.length_append, littleEndian_length]
    omega

/-- The body of a PDU by its type. -/
inductive BodyFormat : ClientPduType → ClientPdu → Bytes → Prop where
  | frameAcknowledge (queueDepth frameId totalFramesDecoded : UInt32) :
      BodyFormat .frameAcknowledge
        (.frameAcknowledge { queueDepth := .fromU32 queueDepth, frameId, totalFramesDecoded })
        (littleEndian 4 queueDepth.toNat ++ (littleEndian 4 frameId.toNat ++
          littleEndian 4 totalFramesDecoded.toNat))
  | capabilitiesAdvertise (caps : List CapabilitySet) (sets : List Bytes)
      (each : List.Forall₂ SetFormat caps sets) (counted : caps.length < UInt16.size) :
      BodyFormat .capabilitiesAdvertise (.capabilitiesAdvertise caps)
        (littleEndian 2 caps.length ++ sets.flatten)

private theorem decodeBody_parses (pduType : ClientPduType) :
    Parses (ClientPdu.decodeBody pduType) (BodyFormat pduType) := by
  cases pduType with
  | frameAcknowledge =>
    apply (frameAcknowledge_decode_parses.map ClientPdu.frameAcknowledge).congr
    intro pdu bytes
    constructor
    · rintro ⟨_, rfl, queueDepth, frameId, total, rfl, rfl⟩
      exact .frameAcknowledge queueDepth frameId total
    · rintro ⟨queueDepth, frameId, total⟩
      exact ⟨_, rfl, queueDepth, frameId, total, rfl, rfl⟩
  | capabilitiesAdvertise =>
    apply (capabilitiesAdvertise_decode_parses.map ClientPdu.capabilitiesAdvertise).congr
    intro pdu bytes
    constructor
    · rintro ⟨caps, rfl, counted, sets, each, rfl⟩
      exact .capabilitiesAdvertise caps sets each counted
    · intro format
      cases format with
      | capabilitiesAdvertise caps sets each counted => exact ⟨caps, rfl, counted, sets, each, rfl⟩
  | cacheImportOffer =>
    apply fail_parses_nothing
    intro pdu bytes format
    cases format
  | qoeFrameAcknowledge =>
    apply fail_parses_nothing
    intro pdu bytes format
    cases format

private theorem checkLength_parses (pduLength : UInt32) (pdu : ClientPdu) :
    Parses (ClientPdu.checkLength pduLength pdu) fun made bytes =>
      made = pdu ∧ pdu.size = pduLength.toNat ∧ bytes = [] := by
  unfold ClientPdu.checkLength
  split
  next wrong =>
    apply fail_parses_nothing
    rintro made bytes ⟨_, size, _⟩
    exact wrong size
  next right =>
    apply (pure_parses pdu).congr
    intro made bytes
    exact ⟨fun format => ⟨format.1, not_not.mp right, format.2⟩, fun format => ⟨format.1, format.2.2⟩⟩

private theorem decodeTyped_parses (pduType : ClientPduType) :
    Parses (ClientPdu.decodeTyped pduType) fun pdu bytes =>
      ∃ (flags : UInt16) (body : Bytes), BodyFormat pduType pdu body ∧ pdu.size < UInt32.size ∧
        bytes = littleEndian 2 flags.toNat ++ (littleEndian 4 pdu.size ++ body) := by
  apply (readU16_parses.bind fun flags => readU32_parses.bind fun pduLength =>
    (decodeBody_parses pduType).bind fun pdu => checkLength_parses pduLength pdu).congr
  intro pdu bytes
  constructor
  · rintro ⟨flags, _, _, rfl, ⟨pduLength, _, _, rfl, ⟨_, body, _, format, ⟨rfl, size, rfl⟩, rfl⟩, rfl⟩, rfl⟩
    have small := pduLength.toNat_lt
    rw [← size] at small ⊢
    exact ⟨flags, body, format, small, by rw [List.append_nil]⟩
  · rintro ⟨flags, body, format, small, rfl⟩
    have same := (toNat_toUInt32 small).symm
    exact ⟨flags, _, _, rfl, ⟨pdu.size.toUInt32, _, _, rfl, ⟨pdu, body, [], format,
      ⟨rfl, same, rfl⟩, rfl⟩, rfl⟩, by rw [← same, List.append_nil]⟩

private theorem frameAcknowledge_type {raw : UInt16} :
    ClientPduType.fromU16 raw = some .frameAcknowledge ↔ raw = 0x0d := by
  unfold ClientPduType.fromU16
  split <;> simp_all

private theorem capabilitiesAdvertise_type {raw : UInt16} :
    ClientPduType.fromU16 raw = some .capabilitiesAdvertise ↔ raw = 0x12 := by
  unfold ClientPduType.fromU16
  split <;> simp_all

private theorem decode_parses_typed : Parses ClientPdu.decode fun pdu bytes =>
    ∃ (raw : UInt16) (pduType : ClientPduType) (flags : UInt16) (body : Bytes),
      ClientPduType.fromU16 raw = some pduType ∧ BodyFormat pduType pdu body ∧ pdu.size < UInt32.size ∧
      bytes = littleEndian 2 raw.toNat ++
        (littleEndian 2 flags.toNat ++ (littleEndian 4 pdu.size ++ body)) := by
  have typed : ∀ raw, Parses (match ClientPduType.fromU16 raw with
      | none => fail (.invalidField "clientPduType" "invalid pdu type")
      | some pduType => ClientPdu.decodeTyped pduType) fun pdu bytes =>
      ∃ (pduType : ClientPduType) (flags : UInt16) (body : Bytes),
        ClientPduType.fromU16 raw = some pduType ∧ BodyFormat pduType pdu body ∧ pdu.size < UInt32.size ∧
        bytes = littleEndian 2 flags.toNat ++ (littleEndian 4 pdu.size ++ body) := by
    intro raw
    cases known : ClientPduType.fromU16 raw with
    | none =>
      apply fail_parses_nothing
      rintro pdu bytes ⟨_, _, _, impossible, _⟩
      cases impossible
    | some pduType =>
      apply (decodeTyped_parses pduType).congr
      intro pdu bytes
      simp
  apply (readU16_parses.bind typed).congr
  intro pdu bytes
  constructor
  · rintro ⟨raw, _, _, rfl, ⟨pduType, flags, body, known, format, small, rfl⟩, rfl⟩
    exact ⟨raw, pduType, flags, body, known, format, small, rfl⟩
  · rintro ⟨raw, pduType, flags, body, known, format, small, rfl⟩
    exact ⟨raw, _, _, rfl, ⟨pduType, flags, body, known, format, small, rfl⟩, rfl⟩

private theorem advertise_size (caps : List CapabilitySet) :
    (ClientPdu.capabilitiesAdvertise caps).size = 10 + (caps.map CapabilitySet.size).sum := by
  simp only [ClientPdu.size, CapabilitiesAdvertisePdu.size]
  omega

/-- What is decoded of a message is what its format says. -/
theorem clientPdu_decode_parses : Parses ClientPdu.decode PduFormat := by
  apply decode_parses_typed.congr
  intro pdu bytes
  constructor
  · rintro ⟨raw, pduType, flags, body, known, format, small, rfl⟩
    cases format with
    | frameAcknowledge queueDepth frameId total =>
      cases frameAcknowledge_type.mp known
      simpa [ClientPdu.size, FrameAcknowledgePdu.size] using
        PduFormat.frameAcknowledge flags queueDepth frameId total
    | capabilitiesAdvertise caps sets each counted =>
      cases capabilitiesAdvertise_type.mp known
      rw [advertise_size] at small ⊢
      simpa using PduFormat.capabilitiesAdvertise flags caps sets each counted small
  · intro format
    cases format with
    | frameAcknowledge flags queueDepth frameId total =>
      refine ⟨0x0d, _, flags, _, rfl, .frameAcknowledge queueDepth frameId total, ?_, ?_⟩
      · simp [ClientPdu.size, FrameAcknowledgePdu.size, UInt32.size]
      · simp [ClientPdu.size, FrameAcknowledgePdu.size]
    | capabilitiesAdvertise flags caps sets each counted small =>
      refine ⟨0x12, _, flags, _, rfl, .capabilitiesAdvertise caps sets each counted, ?_, ?_⟩
      · rwa [advertise_size]
      · rw [advertise_size]
        simp

/-- A buffer begins with a message of the format exactly when the decoder takes one off it. -/
theorem begins_iff {pdu : ClientPdu} {payload : Bytes} :
    Begins pdu payload ↔ ∃ rest, ClientPdu.decode payload = some (.ok (pdu, rest)) := by
  constructor
  · rintro ⟨bytes, format, rest, rfl⟩
    exact ⟨rest, (clientPdu_decode_parses _ pdu rest).mpr ⟨bytes, format, rfl⟩⟩
  · rintro ⟨rest, decoded⟩
    obtain ⟨bytes, format, rfl⟩ := (clientPdu_decode_parses _ pdu rest).mp decoded
    exact ⟨bytes, format, List.prefix_append bytes rest⟩

private theorem flagged_size {version : CapabilityVersion} {kept : UInt32} {set : UInt32 → CapabilitySet}
    (carries : CapabilityVersion.flagged version = some (kept, set)) (bits : UInt32) :
    CapabilityVersion.dataSize (some version) = 4 ∧ CapabilitySet.size (set bits) = 12 := by
  cases version with
  | v10_1 => cases carries
  | unknown => cases carries
  | _ =>
    cases carries
    exact ⟨rfl, rfl⟩

private theorem setFormat_wellFormed {set : CapabilitySet} {bytes : Bytes} (format : SetFormat set bytes) :
    WellFormedSet bytes ∧ CapabilitySet.size set ≤ bytes.length := by
  cases format with
  | flagged versionRaw bits kept version set more known carries small =>
    obtain ⟨needed, size⟩ := flagged_size carries (bits &&& kept)
    have length : (littleEndian 4 bits.toNat ++ more).length = 4 + more.length := by
      rw [List.length_append, littleEndian_length]
    constructor
    · have made := WellFormedSet.mk versionRaw (littleEndian 4 bits.toNat ++ more)
        (by rw [known, needed, length]; exact Nat.le_add_right ..) (by rwa [length])
      rwa [length, ← List.append_assoc] at made
    · simp only [size, List.length_append, littleEndian_length]
      omega
  | v10_1 versionRaw reserved more known whole small =>
    have length : (reserved ++ more).length = 16 + more.length := by rw [List.length_append, whole]
    constructor
    · have made := WellFormedSet.mk versionRaw (reserved ++ more)
        (by rw [known, length]; exact Nat.le_add_right ..) (by rwa [length])
      rwa [length, ← List.append_assoc] at made
    · simp only [CapabilitySet.size, List.length_append, littleEndian_length, whole]
      omega
  | unknown versionRaw data unknown small =>
    constructor
    · apply WellFormedSet.mk versionRaw data _ small
      cases known : CapabilityVersion.fromU32 versionRaw with
      | none => exact Nat.zero_le _
      | some version =>
        cases unknown version known
        exact Nat.zero_le _
    · simp only [CapabilitySet.size, List.length_append, littleEndian_length]
      omega

private theorem sets_wellFormed {caps : List CapabilitySet} {sets : List Bytes}
    (each : List.Forall₂ SetFormat caps sets) :
    (∀ set ∈ sets, WellFormedSet set) ∧ (caps.map CapabilitySet.size).sum ≤ sets.flatten.length := by
  induction each with
  | nil => exact ⟨List.forall_mem_nil _, Nat.le_refl 0⟩
  | cons format _ ih =>
    obtain ⟨first, size⟩ := setFormat_wellFormed format
    refine ⟨List.forall_mem_cons.mpr ⟨first, ih.1⟩, ?_⟩
    rw [List.map_cons, List.sum_cons, List.flatten_cons, List.length_append]
    exact Nat.add_le_add size ih.2

/-- The parts of what is decoded: its body, and the length in front of it. -/
theorem pduFormat_parts {pdu : ClientPdu} {bytes : Bytes} (format : PduFormat pdu bytes) :
    ∃ (typeRaw flags : UInt16) (body : Bytes), WellFormedBody typeRaw body ∧ pdu.size ≤ 8 + body.length ∧
      pdu.size < UInt32.size ∧
      bytes = littleEndian 2 typeRaw.toNat ++ littleEndian 2 flags.toNat ++ littleEndian 4 pdu.size ++ body := by
  cases format with
  | frameAcknowledge flags queueDepth frameId total =>
    refine ⟨0x0d, flags, littleEndian 4 queueDepth.toNat ++ littleEndian 4 frameId.toNat ++
      littleEndian 4 total.toNat, .frameAcknowledge _ ?_, ?_, (by decide : 20 < UInt32.size), ?_⟩
    · simp only [List.length_append, littleEndian_length]
    · simp only [ClientPdu.size, FrameAcknowledgePdu.size, List.length_append, littleEndian_length]
      omega
    · simp [ClientPdu.size, FrameAcknowledgePdu.size]
  | capabilitiesAdvertise flags caps sets each counted small =>
    obtain ⟨wellFormed, size⟩ := sets_wellFormed each
    have length := each.length_eq
    refine ⟨0x12, flags, littleEndian 2 sets.length ++ sets.flatten,
      .capabilitiesAdvertise sets wellFormed (length ▸ counted), ?_, ?_, ?_⟩
    · rw [advertise_size, List.length_append, littleEndian_length]
      omega
    · rwa [advertise_size]
    · rw [advertise_size, length]
      simp

/-- What the decoder finds is a well-formed payload when it is all of it. -/
theorem wellFormed_iff_size {pdu : ClientPdu} {payload : Bytes} (begins : Begins pdu payload) :
    WellFormed payload ↔ pdu.size = payload.length := by
  obtain ⟨bytes, format, rest, rfl⟩ := begins
  obtain ⟨typeRaw, flags, body, carries, size, small, rfl⟩ := pduFormat_parts format
  constructor
  · intro wellFormed
    generalize whole : littleEndian 2 typeRaw.toNat ++ littleEndian 2 flags.toNat ++ littleEndian 4 pdu.size ++
      body ++ rest = payload at wellFormed
    obtain ⟨otherType, otherFlags, otherBody, _, otherSmall⟩ := wellFormed
    simp only [List.append_assoc] at whole
    have typed := List.append_inj whole (by simp)
    have flagged := List.append_inj typed.2 (by simp)
    have lengths := (List.append_inj flagged.2 (by simp)).1
    have here : fromLittleEndian (littleEndian 4 pdu.size) = pdu.size := fromLittleEndian_littleEndian small
    have there : fromLittleEndian (littleEndian 4 (8 + otherBody.length)) = 8 + otherBody.length :=
      fromLittleEndian_littleEndian otherSmall
    rw [← here, lengths, there]
    simp only [List.length_append, littleEndian_length]
  · intro all
    simp only [List.length_append, littleEndian_length] at all
    have nothing : rest = [] := List.eq_nil_of_length_eq_zero (by omega)
    have exactly : pdu.size = 8 + body.length := by omega
    rw [exactly] at small ⊢
    rw [nothing, List.append_nil]
    exact .mk typeRaw flags body carries small

end Format

/-- The handler returns, and a payload that is no client PDU changes nothing. -/
def Handled (gfx : GfxServer) (payload : Bytes) : Prop :=
  ∃ next messages, processPayload gfx payload = some (next, messages) ∧
    (¬ WellFormed payload → next = gfx ∧ messages = [])

/-- The PDU tells the server nothing new, and nothing waits to be sent. -/
def TellsNothing (gfx : GfxServer) : ClientPdu → Prop
  | .frameAcknowledge _ => gfx.pending = []
  | .capabilitiesAdvertise caps => gfx.pending = [] ∧ gfx.clientCaps = some caps ∧ gfx.avc420Enabled = false ∧
      caps.any CapabilitySet.permitsAvc420 = false

/-- What is at the front of the payload is all of it, or it does not matter. -/
def FrontSettles (gfx : GfxServer) (payload : Bytes) : Prop :=
  ∀ pdu, Begins pdu payload → pdu.size = payload.length ∨ TellsNothing gfx pdu

private theorem process_unchanged_iff (gfx : GfxServer) (pdu : ClientPdu) :
    gfx.process (some pdu.handled) = (gfx, []) ↔ TellsNothing gfx pdu := by
  cases pdu with
  | frameAcknowledge pdu =>
    constructor
    · intro unchanged
      exact congrArg Prod.snd unchanged
    · exact GfxServer.process_frameAcknowledge
  | capabilitiesAdvertise caps =>
    constructor
    · intro unchanged
      cases supported : caps.any CapabilitySet.permitsAvc420 with
      | true =>
        rw [ClientPdu.handled, GfxServer.process,
          GfxServer.handleCapabilitiesAdvertise_supported supported] at unchanged
        have queued := congrArg Prod.snd unchanged
        simp [GfxServer.drainPending] at queued
      | false =>
        rw [ClientPdu.handled, GfxServer.process,
          GfxServer.handleCapabilitiesAdvertise_refused supported] at unchanged
        have empty : gfx.pending = [] := congrArg Prod.snd unchanged
        have known : some caps = gfx.clientCaps := congrArg (·.1.clientCaps) unchanged
        have off : false = gfx.avc420Enabled := congrArg (·.1.avc420Enabled) unchanged
        exact ⟨empty, known.symm, off.symm, supported⟩
    · rintro ⟨empty, known, off, refused⟩
      rw [ClientPdu.handled, GfxServer.process_refused empty refused, ← known, ← off]

/-- **Input handling.** A payload is handled when its header can be read, and
when a PDU at its front is followed by nothing or tells the server nothing. -/
theorem client_input_handled_iff (gfx : GfxServer) (payload : Bytes) :
    Handled gfx payload ↔ HeaderReadable payload ∧ FrontSettles gfx payload := by
  rw [← decode_returns_iff]
  unfold Handled FrontSettles processPayload
  simp only [begins_iff]
  cases decoded : ClientPdu.decode payload with
  | none => simp
  | some result =>
    cases result with
    | error error => simp [GfxServer.process]
    | ok done =>
      obtain ⟨pdu, rest⟩ := done
      have size := wellFormed_iff_size (begins_iff.mpr ⟨rest, decoded⟩)
      have unchanged := process_unchanged_iff gfx pdu
      simp only [Option.some.injEq, Except.ok.injEq, Prod.mk.injEq, ne_eq, reduceCtorEq, not_false_eq_true, true_and]
      constructor
      · rintro ⟨next, messages, processed, settles⟩ found ⟨_, rfl, _⟩
        rw [size] at settles
        by_cases whole : pdu.size = payload.length
        · exact .inl whole
        · obtain ⟨rfl, rfl⟩ := settles whole
          exact .inr (unchanged.mp processed)
      · intro settles
        obtain whole | nothing := settles pdu ⟨rest, rfl, rfl⟩
        · exact ⟨_, _, rfl, fun malformed => absurd (size.mpr whole) malformed⟩
        · exact ⟨gfx, [], unchanged.mpr nothing, fun _ => ⟨rfl, rfl⟩⟩

/-- A byte behind an advertisement of nothing is not noticed. -/
example : (processPayload (GfxServer.new 1024 768) [0x12, 0, 0, 0, 10, 0, 0, 0, 0, 0, 0xff]).map (·.1.clientCaps) =
    some (some []) := by decide

/-- The first two bytes of an advertisement are enough for a panic. -/
theorem truncated_header_panics :
    processPayload (GfxServer.new 1024 768) [0x12, 0x00] = none ∧
      ¬ Handled (GfxServer.new 1024 768) [0x12, 0x00] := by
  have panics : processPayload (GfxServer.new 1024 768) [0x12, 0x00] = none := rfl
  refine ⟨panics, ?_⟩
  rintro ⟨next, messages, returned, _⟩
  rw [panics] at returned
  cases returned

end Osxrdp.GfxDecoding
