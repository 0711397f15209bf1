import Osxrdp.Bitflags
import Osxrdp.CodeUnits
import Osxrdp.Mcs

/-! `nego.rs`: the request a connection starts with and the answer to it, each in
the variable part of a header of the transport. The text of a request ends with
the first carriage return that a line feed follows. -/
namespace Osxrdp.Nego
open Bitflags (Flags)
open CodeUnits (utf8)
open FastPath (Found tpkt tpkt_found)
open Mcs (readTpduHeader readTpktHeader tpktHeader)
open Bytes (littleEndian littleEndian_length)
open WireDecoding (Decoding)
open WireDecoding.Decoding
open WireEncoding (EncodeError Encoding)

/-- The security protocols that a client offers. -/
abbrev SecurityProtocol := Flags (0x1F : BitVec 32)
/-- The flags of a request. -/
abbrev RequestFlags := Flags (0x0B : BitVec 8)
/-- The flags of a response. -/
abbrev ResponseFlags := Flags (0x1F : BitVec 8)

def correlationInfoPresent : BitVec 8 := 0x08

/-- The bytes of a text. -/
def text (value : String) : Bytes := utf8.encode value.toList

section Data

/-- What a request may begin with: a routing token or a cookie. -/
inductive NegoRequestData where
  | routingToken (value : String)
  | cookie (value : String)
  deriving DecidableEq, Repr

def Cookie.lead : Bytes := text "Cookie: mstshash="
def RoutingToken.lead : Bytes := text "Cookie: msts="

/-- `peek_u16` panics where less than two bytes are left. -/
def readIdentifier : Decoding Bytes
  | first :: second :: rest =>
    if first = 0x0D ∧ second = 0x0A then some (.ok ([], rest))
    else if rest = [] then some (.error (.notEnoughBytes 1 2))
    else match readIdentifier (second :: rest) with
      | some (.ok (later, left)) => some (.ok (first :: later, left))
      | failed => failed
  | _ => none

/-- Where the text does not start with `lead`, nothing is read. -/
def readNegoData (lead : Bytes) : Decoding (Option String) := fun src =>
  if src.length < lead.length + 2 then some (.ok (none, src))
  else if src.take lead.length ≠ lead then some (.ok (none, src))
  else (do
    let _ ← readSlice lead.length
    let identifier ← readIdentifier
    match utf8.decode identifier with
    | some data => return some (String.ofList data)
    | none => fail (.invalidField "identifier" "not valid UTF-8")) src

/-- A text with what leads it in, and its line end. -/
def writeNegoData (ctx : String) (lead : Bytes) (value : String) : Encoding :=
  .ensureSize ctx (lead.length + (text value).length + 2) <|
    .andThen (.write lead) (.andThen (.write (text value)) (.write (littleEndian 2 0x0A0D)))

namespace NegoRequestData

/-- `NegoRequestData::read`: neither may be there. -/
def read : Decoding (Option NegoRequestData) := do
  match ← readNegoData RoutingToken.lead with
  | some token => return some (.routingToken token)
  | none => return (← readNegoData Cookie.lead).map .cookie

/-- `NegoRequestData::write` -/
def write : NegoRequestData → Encoding
  | .routingToken token => writeNegoData "RoutingToken" RoutingToken.lead token
  | .cookie value => writeNegoData "Cookie" Cookie.lead value

/-- `NegoRequestData::size` -/
def size : NegoRequestData → Nat
  | .routingToken token => RoutingToken.lead.length + (text token).length + 2
  | .cookie value => Cookie.lead.length + (text value).length + 2

end NegoRequestData
end Data

section Transport

def connectionRequestCode : UInt8 := 0xE0
def connectionConfirmCode : UInt8 := 0xD0

/-- Length indicator, code, `DST-REF`, `SRC-REF` and class. -/
def tpduHeader (li code : UInt8) : Bytes := [li, code, 0, 0, 0, 0, 0]

/-- `X224::encode` of a data unit that has no user data. -/
def encodeX224 (code : UInt8) (variablePartSize : Nat) (body : Encoding) : Encoding :=
  .ensureSize "X224" (4 + 7 + variablePartSize) <|
    if 4 + 7 + variablePartSize < UInt16.size then
      .andThen (.write (tpktHeader (4 + 7 + variablePartSize).toUInt16)) <|
        if 7 + variablePartSize - 1 < UInt8.size then
          .andThen (.write (tpduHeader (7 + variablePartSize - 1).toUInt8 code)) body
        else .fail (.invalidField "length indicator")
    else .fail (.invalidField "packet length")

/-- `X224::decode`, by the decoder of the body from the size of the variable part. -/
def readX224 {α : Type} (expected : UInt8) (body : Nat → Decoding α) : Decoding α := do
  let packetLength ← readTpktHeader
  ensureSize (packetLength.toNat - 4)
  let (li, code) ← readTpduHeader packetLength
  if code ≠ expected then fail (.invalidField "TpduHeader" "unexpected message type")
  else if li.toNat + 1 < 7 then fail (.invalidField "li" "fixed part bigger than total header size")
  else
    let variablePartSize ← subtract (li.toNat + 1) 7
    body variablePartSize

end Transport

section Messages

/-- The client's request for a connection. -/
structure ConnectionRequest where
  negoData : Option NegoRequestData
  flags : RequestFlags
  protocol : SecurityProtocol
  deriving DecidableEq

/-- The server's answer to a request. -/
inductive ConnectionConfirm where
  | response (flags : ResponseFlags) (protocol : SecurityProtocol)
  | failure (code : UInt32)
  deriving DecidableEq

/-- Kind, flags, length and value of a negotiation message. -/
def negoMessage (msgType flags : UInt8) (value : UInt32) : Bytes :=
  [msgType, flags] ++ (littleEndian 2 8 ++ littleEndian 4 value.toNat)

namespace ConnectionRequest

def negoSize (request : ConnectionRequest) : Nat := request.negoData.elim 0 NegoRequestData.size

/-- The length that the header tells. -/
def variablePartSize (request : ConnectionRequest) : Nat := request.negoSize + 8

/-- The flag that is not supported is noticed when all is written. -/
def encodeBody (request : ConnectionRequest) : Encoding :=
  .andThen (request.negoData.elim (.write []) NegoRequestData.write) <|
    .andThen (.write (negoMessage 1 (.ofBitVec request.flags.bits) (.ofBitVec request.protocol.bits))) <|
      if request.flags.contains correlationInfoPresent then .fail (.invalidField "flags") else .write []

/-- The request behind its header. -/
def decodeBody (variablePartSize : Nat) : Decoding ConnectionRequest := do
  ensureSize variablePartSize
  let negoData ← NegoRequestData.read
  let negoSize := negoData.elim 0 NegoRequestData.size
  if variablePartSize < negoSize then
    fail (.invalidField "TPDU header variable part" "advertised size too small")
  else if 8 ≤ variablePartSize - negoSize then do
    let msgType ← readU8
    if msgType ≠ 1 then fail (.invalidField "Client X.224 Connection Request" "unexpected message type")
    else
      let flags : RequestFlags := .fromBitsTruncate (← readU8).toBitVec
      if flags.contains correlationInfoPresent then
        fail (.invalidField "flags" "CORRECTION_INFO_PRESENT flag is set, but not supported by IronRDP")
      else
        let _ ← readU16
        let protocol : SecurityProtocol := .fromBitsTruncate (← readU32).toBitVec
        return { negoData, flags, protocol }
  else return { negoData, flags := .empty, protocol := .empty }

/-- `ConnectionRequest::encode` -/
def encode (request : ConnectionRequest) : Encoding :=
  encodeX224 connectionRequestCode request.variablePartSize request.encodeBody

/-- `ConnectionRequest::decode` -/
def decode : Decoding ConnectionRequest := readX224 connectionRequestCode decodeBody

def size (request : ConnectionRequest) : Nat := 4 + 7 + request.variablePartSize

end ConnectionRequest

namespace ConnectionConfirm

/-- What `encode` writes of an answer. -/
def bodyBytes : ConnectionConfirm → Bytes
  | .response flags protocol => negoMessage 2 (.ofBitVec flags.bits) (.ofBitVec protocol.bits)
  | .failure code => negoMessage 3 0 code

/-- The answer behind its header. -/
def decodeBody (variablePartSize : Nat) : Decoding ConnectionConfirm := do
  ensureSize variablePartSize
  if 0 < variablePartSize then do
    ensureSize 8
    let msgType ← readU8
    if msgType = 2 then
      let flags : ResponseFlags := .fromBitsTruncate (← readU8).toBitVec
      let _ ← readU16
      let protocol : SecurityProtocol := .fromBitsTruncate (← readU32).toBitVec
      return .response flags protocol
    else if msgType = 3 then
      let _ ← readU8
      let _ ← readU16
      return .failure (← readU32)
    else fail (.invalidField "Server X.224 Connection Confirm" "unexpected message type")
  else return .response .empty .empty

/-- `ConnectionConfirm::encode` -/
def encode (confirm : ConnectionConfirm) : Encoding :=
  encodeX224 connectionConfirmCode 8 (.write confirm.bodyBytes)

/-- `ConnectionConfirm::decode` -/
def decode : Decoding ConnectionConfirm := readX224 connectionConfirmCode decodeBody

end ConnectionConfirm
end Messages

section Text
variable {identifier src rest lead : Bytes} {value : String}

/-- No line feed follows a carriage return. -/
def OneLine (bytes : Bytes) : Prop := ¬ [0x0D, 0x0A] <:+: bytes

private theorem readIdentifier_cons {first second : UInt8} (plain : ¬ (first = 0x0D ∧ second = 0x0A))
    (more : rest ≠ []) :
    readIdentifier (first :: second :: rest) = match readIdentifier (second :: rest) with
      | some (.ok (later, left)) => some (.ok (first :: later, left))
      | failed => failed := by
  rw [readIdentifier, if_neg plain, if_neg more]

private theorem readIdentifier_reads (oneLine : OneLine identifier) :
    Reads readIdentifier (identifier ++ [0x0D, 0x0A]) identifier := by
  intro rest
  induction identifier with
  | nil => rfl
  | cons first later ih =>
    obtain ⟨starts, inside⟩ := not_or.mp (fun here => oneLine (List.infix_cons_iff.mpr here))
    have read := ih inside
    cases later with
    | nil =>
      have plain : ¬ (first = 0x0D ∧ (0x0D : UInt8) = 0x0A) := fun both => absurd both.2 (by decide)
      exact (readIdentifier_cons plain (List.cons_ne_nil 0x0A rest)).trans (by rw [readIdentifier]; rfl)
    | cons second later =>
      have plain : ¬ (first = 0x0D ∧ second = 0x0A) := by
        rintro ⟨rfl, rfl⟩
        exact starts ⟨later, rfl⟩
      simp only [List.cons_append] at read ⊢
      rw [readIdentifier_cons plain (by simp), read]

private theorem readIdentifier_taken (ran : readIdentifier src = some (.ok (identifier, rest))) :
    OneLine identifier ∧ src = identifier ++ ([0x0D, 0x0A] ++ rest) := by
  induction src generalizing identifier with
  | nil => cases ran
  | cons first tail ih => cases tail with
    | nil => cases ran
    | cons second more =>
      by_cases ends : first = 0x0D ∧ second = 0x0A
      · rw [readIdentifier, if_pos ends] at ran
        cases ran
        obtain ⟨rfl, rfl⟩ := ends
        exact ⟨fun inside => by simp at inside, rfl⟩
      by_cases empty : more = []
      · rw [readIdentifier, if_neg ends, if_pos empty] at ran
        cases ran
      rw [readIdentifier_cons ends empty] at ran
      cases tail : readIdentifier (second :: more) with
      | none =>
        rw [tail] at ran
        cases ran
      | some result => cases result with
        | error error =>
          rw [tail] at ran
          cases ran
        | ok done =>
          rw [tail] at ran
          cases ran
          obtain ⟨oneLine, same⟩ := ih tail
          refine ⟨?_, by rw [same]; rfl⟩
          intro inside
          rcases List.infix_cons_iff.mp inside with ⟨later, starts⟩ | inside
          · injection starts with carriage starts
            rw [← starts] at same
            exact ends ⟨carriage.symm, (List.cons.inj same).1⟩
          · exact oneLine inside

private theorem readIdentifier_safe : SafeFrom 2 readIdentifier := by
  intro src
  induction src with
  | nil => intro short; cases short
  | cons first tail ih => cases tail with
    | nil => intro short; exact absurd short (Nat.lt_irrefl 1)
    | cons second more =>
      intro _
      by_cases ends : first = 0x0D ∧ second = 0x0A
      · rw [readIdentifier, if_pos ends]
        exact Option.some_ne_none _
      by_cases empty : more = []
      · rw [readIdentifier, if_neg ends, if_pos empty]
        exact Option.some_ne_none _
      have later := ih (by have := List.length_pos_of_ne_nil empty; rw [List.length_cons]; omega)
      rw [readIdentifier_cons ends empty]
      split
      · exact Option.some_ne_none _
      · exact later

/-- The text of a request as it is written. -/
def dataBytes (lead : Bytes) (value : String) : Bytes := lead ++ (text value ++ [0x0D, 0x0A])

private theorem dataBytes_length (lead : Bytes) (value : String) :
    (dataBytes lead value).length = lead.length + (text value).length + 2 := by
  simp only [dataBytes, List.length_append, List.length_cons, List.length_nil, Nat.add_assoc]

private theorem text_decoded (value : String) : utf8.decode (text value) = some value.toList := utf8.decode_encode _

private theorem readNegoData_reads (lead : Bytes) (oneLine : OneLine (text value)) :
    Reads (readNegoData lead) (dataBytes lead value) (some value) := by
  intro rest
  have long : ¬ (dataBytes lead value ++ rest).length < lead.length + 2 := by
    rw [List.length_append, dataBytes_length]
    omega
  have starts : ¬ (dataBytes lead value ++ rest).take lead.length ≠ lead := by
    rw [dataBytes, List.append_assoc, List.take_left]
    exact fun different => different rfl
  rw [readNegoData, if_neg long, if_neg starts]
  refine (readSlice_reads lead).bind ?_ rest
  rw [← List.append_nil (text value ++ [0x0D, 0x0A])]
  apply (readIdentifier_reads oneLine).bind
  rw [text_decoded]
  exact (pure_reads (some (String.ofList value.toList))).of_eq (by rw [String.ofList_toList])

private theorem readNegoData_other (other : src.take lead.length ≠ lead) :
    readNegoData lead src = some (.ok (none, src)) := by
  unfold readNegoData
  split
  · rfl
  · rfl

/-- What is read is what was written; where nothing is read all is left. -/
theorem readNegoData_taken {data : Option String} (ran : readNegoData lead src = some (.ok (data, rest))) :
    data.elim (src = rest) fun value => OneLine (text value) ∧ src = dataBytes lead value ++ rest := by
  unfold readNegoData at ran
  split at ran
  · cases ran
    rfl
  split at ran
  · cases ran
    rfl
  rename_i long starts
  obtain ⟨_, left, sliced, ran⟩ := bind_eq_ok.mp ran
  obtain ⟨identifier, after, read, decoding⟩ := bind_eq_ok.mp ran
  obtain ⟨oneLine, whole⟩ := readIdentifier_taken read
  have fits : lead.length ≤ src.length := by omega
  rw [readSlice, if_pos fits] at sliced
  cases sliced
  cases decoded : utf8.decode identifier with
  | none =>
    rw [decoded] at decoding
    cases decoding
  | some value =>
    rw [decoded] at decoding
    cases decoding
    have same : text (String.ofList value) = identifier := by
      rw [text, String.toList_ofList]
      exact utf8.encode_of_decode _ _ decoded
    refine ⟨by rwa [same], ?_⟩
    rw [dataBytes, same, List.append_assoc, List.append_assoc, ← whole]
    conv_lhs => rw [← List.take_append_drop lead.length src, not_not.mp starts]

private theorem readNegoData_safe (lead : Bytes) : SafeFrom 0 (readNegoData lead) := by
  intro src _
  unfold readNegoData
  split
  · exact Option.some_ne_none _
  split
  · exact Option.some_ne_none _
  rename_i long _
  refine ((readSlice_takes lead.length).bind_safe 2 fun _ => readIdentifier_safe.bind fun identifier => ?_) src
    (by omega)
  split
  · exact pure_safe _ 0
  · exact fail_safe _ 0

end Text

section NegoData
namespace NegoRequestData

/-- What leads the text in. -/
def lead : NegoRequestData → Bytes
  | .routingToken _ => RoutingToken.lead
  | .cookie _ => Cookie.lead

/-- The text. -/
def value : NegoRequestData → String
  | .routingToken value | .cookie value => value

def bytes (data : NegoRequestData) : Bytes := dataBytes data.lead data.value

variable {data : NegoRequestData} {src rest : Bytes}

/-- The token or cookie takes its size. -/
theorem bytes_length (data : NegoRequestData) : data.bytes.length = data.size := by
  cases data with
  | routingToken value => exact dataBytes_length _ value
  | cookie value => exact dataBytes_length _ value

/-- What `write` writes. -/
theorem write_writes (data : NegoRequestData) : data.write.Writes data.bytes := by
  have writes (ctx : String) (lead : Bytes) (value : String) :
      (writeNegoData ctx lead value).Writes (dataBytes lead value) := by
    apply Encoding.Writes.ensureSize _ _ (Nat.le_of_eq (dataBytes_length lead value).symm)
    exact (Encoding.write_writes _).andThen ((Encoding.write_writes _).andThen (Encoding.write_writes [0x0D, 0x0A]))
  cases data with
  | routingToken value => exact writes _ _ value
  | cookie value => exact writes _ _ value

/-- The two leads are told apart in their thirteenth byte. -/
theorem cookie_no_token (rest : Bytes) :
    (Cookie.lead ++ rest).take RoutingToken.lead.length ≠ RoutingToken.lead := by
  rw [List.take_append_of_le_length (by decide)]
  decide

private theorem read_reads (oneLine : OneLine (text data.value)) : Reads read data.bytes (some data) := by
  cases data with
  | routingToken value =>
    rw [← List.append_nil (bytes _)]
    exact (readNegoData_reads RoutingToken.lead oneLine).bind (pure_reads _)
  | cookie value =>
    intro rest
    have other : readNegoData RoutingToken.lead (dataBytes Cookie.lead value ++ rest) =
        some (.ok (none, dataBytes Cookie.lead value ++ rest)) := by
      apply readNegoData_other
      rw [dataBytes, List.append_assoc]
      exact cookie_no_token _
    have later := (readNegoData_reads Cookie.lead oneLine).map (Option.map NegoRequestData.cookie)
    exact (bind_of_ok other).trans (later rest)

/-- Before a negotiation message there is no text. -/
theorem read_none (message : Bytes) : read (1 :: message) = some (.ok (none, 1 :: message)) := by
  have other (lead : Bytes) (letter : UInt8) (later : Bytes) (shape : lead = letter :: later)
      (different : 1 ≠ letter) :
      readNegoData lead (1 :: message) = some (.ok (none, 1 :: message)) := by
    apply readNegoData_other
    rw [shape, List.length_cons, List.take_succ_cons]
    exact fun same => different (List.cons.inj same).1
  have token := other RoutingToken.lead 0x43 RoutingToken.lead.tail (by decide) (by decide)
  have cookie := other Cookie.lead 0x43 Cookie.lead.tail (by decide) (by decide)
  exact (bind_of_ok token).trans (bind_of_ok cookie)

private theorem read_taken {data : Option NegoRequestData} (ran : read src = some (.ok (data, rest))) :
    (∀ some, data = .some some → OneLine (text some.value)) ∧ src = data.elim [] bytes ++ rest := by
  obtain ⟨token, left, readToken, ran⟩ := bind_eq_ok.mp ran
  have taken := readNegoData_taken readToken
  cases token with
  | some token =>
    cases ran
    exact ⟨fun _ same => by cases same; exact taken.1, taken.2⟩
  | none =>
    obtain ⟨cookie, left', readCookie, ran⟩ := bind_eq_ok.mp ran
    have taken' := readNegoData_taken readCookie
    have same : src = left := taken
    cases ran
    cases cookie with
    | some cookie => exact ⟨fun _ same => by cases same; exact taken'.1, same.trans taken'.2⟩
    | none => exact ⟨fun _ told => (Option.some_ne_none _ told.symm).elim, same.trans taken'⟩

private theorem read_safe : SafeFrom 0 read := by
  apply (readNegoData_safe _).bind
  intro token
  cases token with
  | some token => exact pure_safe _ 0
  | none => exact (readNegoData_safe _).bind fun _ => pure_safe _ 0

end NegoRequestData
end NegoData

section Packet
variable {α : Type} {code li : UInt8} {body : Nat → Decoding α} {a : α} {variablePart src rest : Bytes}

/-- The bytes of a data unit with this variable part. -/
def packet (code : UInt8) (variablePart : Bytes) : Bytes :=
  tpkt (tpduHeader (6 + variablePart.length).toUInt8 code ++ variablePart)

private theorem packet_length (code : UInt8) (variablePart : Bytes) :
    (packet code variablePart).length = 4 + 7 + variablePart.length := by
  simp only [packet, tpkt, FastPath.bigEndian16, tpduHeader, List.length_append, List.length_cons, List.length_nil]
  omega

private theorem packet_eq (code : UInt8) (variablePart : Bytes) : packet code variablePart =
    tpktHeader (4 + 7 + variablePart.length).toUInt16 ++
      (tpduHeader (6 + variablePart.length).toUInt8 code ++ variablePart) := by
  have total : 4 + (tpduHeader (6 + variablePart.length).toUInt8 code ++ variablePart).length =
      4 + 7 + variablePart.length := by
    simp only [tpduHeader, List.length_append, List.length_cons, List.length_nil]
    omega
  rw [packet, tpkt, total, tpktHeader]

private theorem packet_found (code : UInt8) (small : variablePart.length ≤ 248) :
    Found .x224 (packet code variablePart) := by
  apply tpkt_found
  simp only [tpduHeader, List.length_append, List.length_cons, List.length_nil]
  change _ < 65536
  omega

private theorem encodeX224_writes {body : Encoding} (small : variablePart.length ≤ 248)
    (writes : body.Writes variablePart) :
    (encodeX224 code variablePart.length body).Writes (packet code variablePart) := by
  have total : 4 + 7 + variablePart.length < UInt16.size := by change _ < 65536; omega
  have indicator : 7 + variablePart.length - 1 = 6 + variablePart.length := by omega
  have octet : 6 + variablePart.length < UInt8.size := by change _ < 256; omega
  apply Encoding.Writes.ensureSize _ _ (Nat.le_of_eq (packet_length code variablePart).symm)
  rw [if_pos total, indicator, if_pos octet, packet_eq]
  exact (Encoding.write_writes _).andThen ((Encoding.write_writes _).andThen writes)

/-- A header is read back. -/
theorem readTpduHeader_reads {packetLength : UInt16} (within : li.toNat + 1 + 4 ≤ packetLength.toNat)
    (plain : li ≠ 0xFF) (other : code ≠ 0xF0) :
    Reads (readTpduHeader packetLength) (tpduHeader li code) (li, code) := by
  apply Reads.ensureSize _ (by decide : 3 ≤ 7)
  apply (readU8_reads li).bind
  apply (readU8_reads code).bind
  rw [if_neg (Nat.not_lt_of_le within), if_neg plain, if_neg other]
  exact ((readSlice_reads [0, 0, 0, 0, 0]).map _).ensureSize (Nat.le_refl 5)

/-- What reads the variable part reads the data unit. -/
theorem readX224_reads (other : code ≠ 0xF0) (small : variablePart.length ≤ 248)
    (reads : Reads (body variablePart.length) variablePart a) :
    Reads (readX224 code body) (packet code variablePart) a := by
  have total : (4 + 7 + variablePart.length).toUInt16.toNat = 4 + 7 + variablePart.length :=
    UInt16.toNat_ofNat_of_lt' (by change _ < 65536; omega)
  have octet : (6 + variablePart.length).toUInt8.toNat = 6 + variablePart.length :=
    UInt8.toNat_ofNat_of_lt' (by change _ < 256; omega)
  have plain : (6 + variablePart.length).toUInt8 ≠ 0xFF := by
    intro reserved
    have value := congrArg UInt8.toNat reserved
    rw [octet] at value
    change _ = 255 at value
    omega
  rw [packet_eq]
  apply (Mcs.readTpktHeader_reads _).bind
  rw [total]
  apply Reads.ensureSize
  · apply (readTpduHeader_reads (by rw [octet, total]; omega) plain other).bind
    simp only
    rw [if_neg (not_not.mpr rfl), octet, if_neg (by omega)]
    change Reads _ ([] ++ variablePart) a
    exact (subtract_reads variablePart.length (by omega)).bind reads
  · simp only [tpduHeader, List.length_append, List.length_cons, List.length_nil]
    omega

private theorem readX224_body (ran : readX224 code body src = some (.ok (a, rest))) :
    ∃ size left, body size left = some (.ok (a, rest)) := by
  obtain ⟨packetLength, _, _, ran⟩ := bind_eq_ok.mp ran
  obtain ⟨_, _, _, ran⟩ := bind_eq_ok.mp ran
  obtain ⟨⟨li, read⟩, _, _, ran⟩ := bind_eq_ok.mp ran
  dsimp only at ran
  split at ran
  · cases ran
  split at ran
  · cases ran
  obtain ⟨size, left, _, ran⟩ := bind_eq_ok.mp ran
  exact ⟨size, left, ran⟩

/-- The length indicator 255 is reserved. -/
theorem readX224_reserved (packetLength : UInt16) (code' : UInt8) (tail : Bytes) :
    readX224 code body (tpktHeader packetLength ++ (tpduHeader 0xFF code' ++ tail)) ≠ some (.ok (a, rest)) := by
  intro ran
  obtain ⟨length, left, header, ran⟩ := bind_eq_ok.mp ran
  rw [Mcs.readTpktHeader_reads packetLength] at header
  cases header
  obtain ⟨_, same, checked, ran⟩ := bind_eq_ok.mp ran
  unfold ensureSize at checked
  split at checked
  · cases checked
    obtain ⟨⟨li, read⟩, _, header, ran⟩ := bind_eq_ok.mp ran
    obtain ⟨_, same, checked, header⟩ := bind_eq_ok.mp header
    unfold ensureSize at checked
    split at checked
    · cases checked
      obtain ⟨li, _, taken, header⟩ := bind_eq_ok.mp header
      cases taken
      obtain ⟨read, _, taken, header⟩ := bind_eq_ok.mp header
      cases taken
      split at header
      · cases header
      · cases header
    · cases checked
  · cases checked

/-- A data unit is read without a panic when its body is. -/
theorem readX224_safe (safe : ∀ size, SafeFrom 0 (body size)) : SafeFrom 0 (readX224 code body) := by
  apply Mcs.readTpktHeader_safe.bind
  intro packetLength
  apply ensureSize_safe
  intro src _
  refine ((Mcs.readTpduHeader_safe packetLength).bind ?_) src (Nat.zero_le _)
  rintro ⟨li, read⟩
  dsimp only
  split
  · exact fail_safe _ 0
  split
  · exact fail_safe _ 0
  · exact (subtract_safe (by omega)).bind safe

end Packet

section Requests
namespace ConnectionRequest
variable {request : ConnectionRequest} {src rest : Bytes}

def negoBytes (request : ConnectionRequest) : Bytes := request.negoData.elim [] NegoRequestData.bytes

/-- What `encode` writes behind the header. -/
def bodyBytes (request : ConnectionRequest) : Bytes :=
  request.negoBytes ++ negoMessage 1 (.ofBitVec request.flags.bits) (.ofBitVec request.protocol.bits)

/-- What `encode` writes of a request. -/
def bytes (request : ConnectionRequest) : Bytes := packet connectionRequestCode request.bodyBytes

/-- The request can be told: its text is one line, the length indicator can tell
the size, and no correlation information is announced. -/
structure Fits (request : ConnectionRequest) : Prop where
  oneLine : ∀ data, request.negoData = some data → OneLine (text data.value)
  small : request.negoSize ≤ 240
  plain : request.flags.contains correlationInfoPresent = false

private theorem negoMessage_length (msgType flags : UInt8) (value : UInt32) :
    (negoMessage msgType flags value).length = 8 := by
  simp only [negoMessage, List.length_append, littleEndian_length, List.length_cons, List.length_nil]

private theorem negoBytes_length (request : ConnectionRequest) : request.negoBytes.length = request.negoSize := by
  unfold negoBytes negoSize
  cases request.negoData with
  | none => rfl
  | some data => exact data.bytes_length

/-- The request takes the length that its header tells. -/
theorem bodyBytes_length (request : ConnectionRequest) :
    request.bodyBytes.length = request.variablePartSize := by
  rw [bodyBytes, List.length_append, negoMessage_length, negoBytes_length, variablePartSize]

/-- What `encode` writes, when no correlation is claimed. -/
theorem encodeBody_writes (plain : request.flags.contains correlationInfoPresent = false) :
    request.encodeBody.Writes request.bodyBytes := by
  have data : (request.negoData.elim (Encoding.write []) NegoRequestData.write).Writes request.negoBytes := by
    unfold negoBytes
    cases request.negoData with
    | none => exact Encoding.write_writes []
    | some data => exact data.write_writes
  rw [encodeBody, plain, if_neg (by decide), bodyBytes,
    ← List.append_nil (negoMessage 1 (.ofBitVec request.flags.bits) (.ofBitVec request.protocol.bits))]
  exact data.andThen ((Encoding.write_writes _).andThen (Encoding.write_writes []))

/-- What `encode` writes of a request that fits. -/
theorem encode_writes (fits : request.Fits) : request.encode.Writes request.bytes := by
  have small := fits.small
  rw [encode, ← bodyBytes_length]
  apply encodeX224_writes _ (encodeBody_writes fits.plain)
  rw [bodyBytes_length, variablePartSize]
  omega

private theorem negoData_read (oneLine : ∀ data, request.negoData = some data → OneLine (text data.value))
    (flags : UInt8)
    (value : UInt32) (rest : Bytes) :
    NegoRequestData.read (request.negoBytes ++ (negoMessage 1 flags value ++ rest)) =
      some (.ok (request.negoData, negoMessage 1 flags value ++ rest)) := by
  unfold negoBytes
  cases told : request.negoData with
  | none => exact NegoRequestData.read_none _
  | some data => exact NegoRequestData.read_reads (oneLine data told) _

/-- A request that fits is read back behind its header. -/
theorem decodeBody_reads (fits : request.Fits) :
    Reads (decodeBody request.variablePartSize) request.bodyBytes request := by
  have long := bodyBytes_length request
  have flags : (Flags.fromBitsTruncate (UInt8.ofBitVec request.flags.bits).toBitVec : RequestFlags) =
    request.flags := Flags.fromBitsTruncate_bits _
  have protocol : (Flags.fromBitsTruncate (UInt32.ofBitVec request.protocol.bits).toBitVec : SecurityProtocol) =
    request.protocol := Flags.fromBitsTruncate_bits _
  have size : request.negoData.elim 0 NegoRequestData.size = request.negoSize := rfl
  apply Reads.ensureSize _ (Nat.le_of_eq long.symm)
  intro rest
  rw [bodyBytes, List.append_assoc]
  refine (bind_of_ok (negoData_read fits.oneLine _ _ rest)).trans ?_
  dsimp only
  rw [size, variablePartSize, if_neg (by omega), if_pos (by omega)]
  refine (?message : Reads _ (negoMessage 1 (.ofBitVec request.flags.bits)
    (.ofBitVec request.protocol.bits)) request) rest
  apply (readU8_reads 1).bind
  rw [if_neg (not_not.mpr rfl)]
  apply (readU8_reads _).bind
  rw [flags, fits.plain, if_neg (by decide)]
  apply (readU16_reads 8).bind
  apply (readU32_reads _).map _ |>.of_eq
  rw [protocol]

/-- A request that fits is read back. -/
theorem decode_reads (fits : request.Fits) : Reads decode request.bytes request := by
  have small := fits.small
  have long := bodyBytes_length request
  apply readX224_reads (by decide) (by rw [long, variablePartSize]; omega)
  rw [long]
  exact decodeBody_reads fits

/-- What is decoded fits but for its size. -/
theorem decodeBody_taken {size : Nat} (ran : decodeBody size src = some (.ok (request, rest))) :
    (∀ data, request.negoData = some data → OneLine (text data.value)) ∧
      request.flags.contains correlationInfoPresent = false := by
  obtain ⟨_, _, _, ran⟩ := bind_eq_ok.mp ran
  obtain ⟨negoData, _, read, ran⟩ := bind_eq_ok.mp ran
  have oneLine := (NegoRequestData.read_taken read).1
  dsimp only at ran
  split at ran
  · cases ran
  split at ran
  · obtain ⟨msgType, _, _, ran⟩ := bind_eq_ok.mp ran
    split at ran
    · cases ran
    obtain ⟨flags, _, _, ran⟩ := bind_eq_ok.mp ran
    split at ran
    · cases ran
    rename_i plain
    obtain ⟨_, _, _, ran⟩ := bind_eq_ok.mp ran
    obtain ⟨_, _, _, ran⟩ := bind_eq_ok.mp ran
    cases ran
    exact ⟨oneLine, Bool.eq_false_iff.mpr plain⟩
  · cases ran
    exact ⟨oneLine, (by decide : (Flags.empty : RequestFlags).contains correlationInfoPresent = false)⟩

private theorem encode_header {room : Nat} {written : Bytes} (ran : request.encode room = some (.ok written)) :
    request.negoSize ≤ 241 ∧ ∃ packetLength tail, written = tpktHeader packetLength ++
      (tpduHeader (request.negoSize + 14).toUInt8 connectionRequestCode ++ tail) := by
  obtain ⟨_, sized⟩ := Encoding.ensureSize_eq_ok ran
  split at sized
  · obtain ⟨header, later, head, headed, rfl⟩ := Encoding.andThen_eq_ok sized
    split at headed
    · rename_i octet
      obtain ⟨unit, tail, head', _, rfl⟩ := Encoding.andThen_eq_ok headed
      have indicator : 7 + request.variablePartSize - 1 = request.negoSize + 14 := by
        rw [variablePartSize]
        omega
      rw [indicator] at octet head'
      rw [Encoding.write_eq_ok head, Encoding.write_eq_ok head']
      exact ⟨by change _ < 256 at octet; omega, _, tail, rfl⟩
    · cases headed
  · cases sized

private theorem fits_of_read_back {room : Nat} {written : Bytes} (encoded : request.encode room = some (.ok written))
    (decoded : decode written = some (.ok (request, rest))) : request.Fits := by
  obtain ⟨size, left, ran⟩ := readX224_body decoded
  obtain ⟨oneLine, plain⟩ := decodeBody_taken ran
  obtain ⟨small, packetLength, tail, rfl⟩ := encode_header encoded
  refine ⟨oneLine, ?_, plain⟩
  by_contra large
  have reserved : request.negoSize + 14 = 255 := by omega
  rw [reserved] at decoded
  exact readX224_reserved packetLength connectionRequestCode tail decoded

/-- A request is read without a panic behind its header. -/
theorem decodeBody_safe (size : Nat) : SafeFrom 0 (decodeBody size) := by
  apply ensureSize_safe
  apply (NegoRequestData.read_safe.weaken (Nat.zero_le size)).bind_left
  intro negoData src rest fits read
  have taken := congrArg List.length (NegoRequestData.read_taken read).2
  have length : (negoData.elim [] NegoRequestData.bytes).length = negoData.elim 0 NegoRequestData.size := by
    cases negoData with
    | none => rfl
    | some data => exact data.bytes_length
  rw [List.length_append, length] at taken
  dsimp only
  split
  · exact Option.some_ne_none _
  split
  · refine (readU8_takes.bind_safe 7 fun msgType => ?_) rest (by omega)
    split
    · exact fail_safe _ 7
    · apply readU8_takes.bind_safe 6
      intro flags
      split
      · exact fail_safe _ 6
      · exact readU16_takes.bind_safe 4 fun _ => readU32_takes.bind_safe 0 fun _ => pure_safe _ 0
  · exact Option.some_ne_none _

/-- A request is read without a panic. -/
theorem decode_safe : SafeFrom 0 decode := readX224_safe decodeBody_safe

end ConnectionRequest
end Requests

section Confirms
namespace ConnectionConfirm

def bytes (confirm : ConnectionConfirm) : Bytes := packet connectionConfirmCode confirm.bodyBytes

theorem bodyBytes_length (confirm : ConnectionConfirm) : confirm.bodyBytes.length = 8 := by
  cases confirm with
  | response flags protocol => exact ConnectionRequest.negoMessage_length _ _ _
  | failure code => exact ConnectionRequest.negoMessage_length _ _ _

/-- What `encode` writes of an answer. -/
theorem encode_writes (confirm : ConnectionConfirm) : confirm.encode.Writes confirm.bytes := by
  have long := confirm.bodyBytes_length
  rw [encode, ← long]
  exact encodeX224_writes (by omega) (Encoding.write_writes _)

/-- An answer is read back behind its header. -/
theorem decodeBody_reads (confirm : ConnectionConfirm) : Reads (decodeBody 8) confirm.bodyBytes confirm := by
  have long := Nat.le_of_eq confirm.bodyBytes_length.symm
  apply Reads.ensureSize _ long
  rw [if_pos (by decide)]
  apply Reads.ensureSize _ long
  cases confirm with
  | response flags protocol =>
    have same : (Flags.fromBitsTruncate (UInt8.ofBitVec flags.bits).toBitVec : ResponseFlags) = flags :=
      Flags.fromBitsTruncate_bits _
    have told : (Flags.fromBitsTruncate (UInt32.ofBitVec protocol.bits).toBitVec : SecurityProtocol) = protocol :=
      Flags.fromBitsTruncate_bits _
    apply (readU8_reads 2).bind
    rw [if_pos rfl]
    apply (readU8_reads _).bind
    apply (readU16_reads 8).bind
    apply ((readU32_reads (.ofBitVec protocol.bits)).map _).of_eq
    rw [same, told]
  | failure code =>
    apply (readU8_reads 3).bind
    rw [if_neg (by decide), if_pos rfl]
    apply (readU8_reads 0).bind
    apply (readU16_reads 8).bind
    exact (readU32_reads code).map _

/-- An answer is read back. -/
theorem decode_reads (confirm : ConnectionConfirm) : Reads decode confirm.bytes confirm := by
  have long := confirm.bodyBytes_length
  apply readX224_reads (by decide) (by omega)
  rw [long]
  exact decodeBody_reads confirm

end ConnectionConfirm
end Confirms

/-- The server reads a request back out of its bytes just where it fits, and no
bytes make it panic; the client reads back every answer. -/
theorem negotiation_round_trips :
    (∀ request : ConnectionRequest, (∃ bytes, request.encode request.size = some (.ok bytes) ∧
      bytes.length = request.size ∧ Found .x224 bytes ∧
      ConnectionRequest.decode bytes = some (.ok (request, []))) ↔ request.Fits) ∧
    (∀ bytes, ConnectionRequest.decode bytes ≠ none) ∧
    ∀ confirm : ConnectionConfirm, ∃ bytes, confirm.encode 19 = some (.ok bytes) ∧ bytes.length = 19 ∧
      Found .x224 bytes ∧ ConnectionConfirm.decode bytes = some (.ok (confirm, [])) := by
  refine ⟨fun request => ⟨?_, ?_⟩, ?_, ?_⟩
  · rintro ⟨bytes, encoded, _, _, decoded⟩
    exact ConnectionRequest.fits_of_read_back encoded decoded
  · intro fits
    have small := fits.small
    have long := request.bodyBytes_length
    have length : request.bytes.length = request.size := by
      rw [ConnectionRequest.bytes, packet_length, long, ConnectionRequest.size]
    have short : request.bodyBytes.length ≤ 248 := by
      rw [long, ConnectionRequest.variablePartSize]
      omega
    have decoded := (ConnectionRequest.decode_reads fits).finishes
    refine ⟨request.bytes, ?_, length, packet_found _ short, decoded⟩
    exact ConnectionRequest.encode_writes fits _ (Nat.le_of_eq length)
  · exact fun bytes => ConnectionRequest.decode_safe bytes (Nat.zero_le _)
  · intro confirm
    have length : confirm.bytes.length = 19 := by
      rw [ConnectionConfirm.bytes, packet_length, confirm.bodyBytes_length]
    have short : confirm.bodyBytes.length ≤ 248 := by
      rw [confirm.bodyBytes_length]
      decide
    have written := confirm.encode_writes _ (Nat.le_of_eq length)
    exact ⟨confirm.bytes, written, length, packet_found _ short, confirm.decode_reads.finishes⟩

end Osxrdp.Nego
