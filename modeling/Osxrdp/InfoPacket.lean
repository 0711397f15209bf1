import Osxrdp.Bitflags
import Osxrdp.CodeUnits
import Osxrdp.FastPath

/-! `client_info.rs`: what a client says of itself and of its user before it is let
in. A text is in the units of a character set that a flag names; the optional data
at the end may stop after any of its fields. -/
namespace Osxrdp.InfoPacket
open Bitflags (Flags)
open CodeUnits (nul trim utf8 utf16)
open FastPath (CompressionType)
open Bytes (littleEndian littleEndian_length)
open WireDecoding (Decoding)
open WireDecoding.Decoding
open WireEncoding (EncodeError Encoding)

section Strings

/-- How texts are written. -/
inductive CharacterSet where
  | ansi
  | unicode
  deriving DecidableEq, Repr

/-- Also the bytes that a terminator takes. -/
def CharacterSet.asU16 : CharacterSet → Nat
  | .ansi => 1
  | .unicode => 2

/-- The bytes of code units, each low byte first. -/
def unitBytes (units : List UInt16) : Bytes := units.flatMap fun unit => littleEndian 2 unit.toNat

/-- Whole units only, as `chunks_exact` gives them. -/
def chunks : Bytes → List UInt16
  | low :: high :: rest => (Bytes.fromLittleEndian [low, high]).toUInt16 :: chunks rest
  | _ => []

/-- A text in UTF-16, low bytes first. -/
def toUtf16Bytes (value : String) : Bytes := unitBytes (utf16.encode value.toList)

/-- The bytes of a text without a terminator. -/
def stringBytes : CharacterSet → String → Bytes
  | .ansi, value => utf8.encode value.toList
  | .unicode, value => toUtf16Bytes value

/-- The zeros that end a text. -/
def terminator (characterSet : CharacterSet) : Bytes := List.replicate characterSet.asU16 0

/-- The bytes of a text without its end. -/
def stringLen (value : String) (characterSet : CharacterSet) : Nat := (stringBytes characterSet value).length

/-- `decode_string`: the text is terminated, or has zeros at its end. -/
def decodeString (src : Bytes) (characterSet : CharacterSet) (readNullTerminator : Bool) : Decoding String :=
  match characterSet with
  | .unicode => match utf16.read readNullTerminator (chunks src) with
    | some text => return String.ofList text
    | none => fail (.invalidField "buffer" "Failed to decode UTF16 string")
  | .ansi => match utf8.read readNullTerminator src with
    | some text => return String.ofList text
    | none => fail (.invalidField "buffer" "Failed to decode UTF8 string")

/-- The text in the next `size` bytes. -/
def readString (size : Nat) (characterSet : CharacterSet) (readNullTerminator : Bool) : Decoding String := do
  decodeString (← readSlice size) characterSet readNullTerminator

/-- `write_string`: the text and its end. -/
def writeString (value : String) (characterSet : CharacterSet) : Encoding :=
  let context := match characterSet with
    | .unicode => "Encode string (UTF-16)"
    | .ansi => "Encode string (UTF-8)"
  .ensureSize context (stringLen value characterSet + characterSet.asU16) <|
    .write (stringBytes characterSet value ++ terminator characterSet)

end Strings

section Times

/-- The month in which daylight time begins or ends. -/
inductive Month where
  | january | february | march | april | may | june
  | july | august | september | october | november | december
  deriving DecidableEq, Repr

def Month.asU16 : Month → UInt16
  | .january => 1
  | .february => 2
  | .march => 3
  | .april => 4
  | .may => 5
  | .june => 6
  | .july => 7
  | .august => 8
  | .september => 9
  | .october => 10
  | .november => 11
  | .december => 12

def Month.fromU16 : UInt16 → Option Month
  | 1 => some .january
  | 2 => some .february
  | 3 => some .march
  | 4 => some .april
  | 5 => some .may
  | 6 => some .june
  | 7 => some .july
  | 8 => some .august
  | 9 => some .september
  | 10 => some .october
  | 11 => some .november
  | 12 => some .december
  | _ => none

/-- The day of the week on which it does. -/
inductive DayOfWeek where
  | sunday | monday | tuesday | wednesday | thursday | friday | saturday
  deriving DecidableEq, Repr

def DayOfWeek.asU16 : DayOfWeek → UInt16
  | .sunday => 0
  | .monday => 1
  | .tuesday => 2
  | .wednesday => 3
  | .thursday => 4
  | .friday => 5
  | .saturday => 6

def DayOfWeek.fromU16 : UInt16 → Option DayOfWeek
  | 0 => some .sunday
  | 1 => some .monday
  | 2 => some .tuesday
  | 3 => some .wednesday
  | 4 => some .thursday
  | 5 => some .friday
  | 6 => some .saturday
  | _ => none

/-- Which of these days of the month it is. -/
inductive DayOfWeekOccurrence where
  | first | second | third | fourth | last
  deriving DecidableEq, Repr

def DayOfWeekOccurrence.asU16 : DayOfWeekOccurrence → UInt16
  | .first => 1
  | .second => 2
  | .third => 3
  | .fourth => 4
  | .last => 5

def DayOfWeekOccurrence.fromU16 : UInt16 → Option DayOfWeekOccurrence
  | 1 => some .first
  | 2 => some .second
  | 3 => some .third
  | 4 => some .fourth
  | 5 => some .last
  | _ => none

/-- A month is known by its number. -/
theorem Month.fromU16_asU16 (month : Month) : fromU16 month.asU16 = some month := by
  cases month <;> rfl

/-- A day is known by its number. -/
theorem DayOfWeek.fromU16_asU16 (day : DayOfWeek) : fromU16 day.asU16 = some day := by
  cases day <;> rfl

/-- An occurrence is known by its number. -/
theorem DayOfWeekOccurrence.fromU16_asU16 (day : DayOfWeekOccurrence) : fromU16 day.asU16 = some day := by
  cases day <;> rfl

/-- When daylight time begins or ends. -/
structure SystemTime where
  month : Month
  dayOfWeek : DayOfWeek
  day : DayOfWeekOccurrence
  hour : UInt16
  minute : UInt16
  second : UInt16
  milliseconds : UInt16
  deriving DecidableEq, Repr

/-- There may be no such time. -/
abbrev OptionalSystemTime := Option SystemTime

/-- The year is zero, and where there is no date all is. -/
def OptionalSystemTime.bytes : OptionalSystemTime → Bytes
  | some time => [UInt16.ofNat 0, time.month.asU16, time.dayOfWeek.asU16, time.day.asU16, time.hour, time.minute,
      time.second, time.milliseconds].flatMap fun field => littleEndian 2 field.toNat
  | none => List.replicate 16 0

/-- Eight zeros stand for no time. -/
def OptionalSystemTime.encode (time : OptionalSystemTime) : Encoding :=
  .ensureSize "SystemTime" 16 (.write time.bytes)

/-- A date that is none is read as no date. -/
def OptionalSystemTime.decode : Decoding OptionalSystemTime := do
  ensureSize 16
  let _year ← readU16
  let month ← readU16
  let dayOfWeek ← readU16
  let day ← readU16
  let hour ← readU16
  let minute ← readU16
  let second ← readU16
  let milliseconds ← readU16
  match Month.fromU16 month, DayOfWeek.fromU16 dayOfWeek, DayOfWeekOccurrence.fromU16 day with
  | some month, some dayOfWeek, some day =>
    return some { month, dayOfWeek, day, hour, minute, second, milliseconds }
  | _, _, _ => return none

/-- The client's time zone. -/
structure TimezoneInfo where
  bias : Int32
  standardName : String
  standardDate : OptionalSystemTime
  standardBias : Int32
  daylightName : String
  daylightDate : OptionalSystemTime
  daylightBias : Int32
  deriving DecidableEq

/-- `Vec::resize` with zeros, which cuts off what is too long. -/
def resize (bytes : Bytes) (count : Nat) : Bytes := bytes.take count ++ List.replicate (count - bytes.length) 0

def biasBytes (bias : Int32) : Bytes := littleEndian 4 bias.toUInt32.toNat

namespace TimezoneInfo

/-- `TimezoneInfo::encode`: the names are cut or filled up to 64 bytes. -/
def encode (timezone : TimezoneInfo) : Encoding :=
  .ensureSize "TimezoneInfo" 172 <|
    .andThen (.write (biasBytes timezone.bias ++ resize (toUtf16Bytes timezone.standardName) 64)) <|
    .andThen timezone.standardDate.encode <|
    .andThen (.write (biasBytes timezone.standardBias ++ resize (toUtf16Bytes timezone.daylightName) 64)) <|
    .andThen timezone.daylightDate.encode (.write (biasBytes timezone.daylightBias))

/-- `TimezoneInfo::decode` -/
def decode : Decoding TimezoneInfo := do
  ensureSize 172
  let bias ← readI32
  let standardName ← readString 64 .unicode false
  let standardDate ← OptionalSystemTime.decode
  let standardBias ← readI32
  let daylightName ← readString 64 .unicode false
  let daylightDate ← OptionalSystemTime.decode
  let daylightBias ← readI32
  return { bias, standardName, standardDate, standardBias, daylightName, daylightDate, daylightBias }

end TimezoneInfo
end Times

section Infos

abbrev PerformanceFlags := Flags (0x800001FF : BitVec 32)
abbrev ClientInfoFlags := Flags (0x03FFE1FB : BitVec 32)
abbrev BasicSecurityHeaderFlags := Flags (0xFFFF : BitVec 16)

/-- The cookie of an automatic reconnection. -/
abbrev ReconnectCookie := { cookie : Bytes // cookie.length = 28 }

/-- No field is set without the one before it. -/
structure ExtendedClientOptionalInfo where
  timezone : Option TimezoneInfo
  sessionId : Option UInt32
  performanceFlags : Option PerformanceFlags
  reconnectCookie : Option ReconnectCookie
  session_follows : timezone = none → sessionId = none
  performance_follows : sessionId = none → performanceFlags = none
  cookie_follows : performanceFlags = none → reconnectCookie = none
  deriving DecidableEq

/-- What newer clients append. -/
structure ExtendedClientInfo where
  addressFamily : UInt16
  address : String
  dir : String
  optionalData : ExtendedClientOptionalInfo
  deriving DecidableEq

/-- The user's name, password and domain. -/
structure Credentials where
  username : String
  password : String
  domain : Option String
  deriving DecidableEq

/-- What the client tells of itself and its user. -/
structure ClientInfo where
  credentials : Credentials
  codePage : UInt32
  flags : ClientInfoFlags
  compressionType : CompressionType
  alternateShell : String
  workDir : String
  extraInfo : ExtendedClientInfo
  deriving DecidableEq

/-- The message in which the client sends its credentials. -/
structure ClientInfoPdu where
  securityHeader : BasicSecurityHeaderFlags
  clientInfo : ClientInfo
  deriving DecidableEq

/-- The bytes of a cookie. -/
def readCookie : Decoding ReconnectCookie := fun src =>
  if enough : 28 ≤ src.length then some (.ok (⟨src.take 28, List.length_take_of_le enough⟩, src.drop 28)) else none

namespace ExtendedClientOptionalInfo

def empty : ExtendedClientOptionalInfo := ⟨none, none, none, none, fun _ => rfl, fun _ => rfl, fun _ => rfl⟩

def size (info : ExtendedClientOptionalInfo) : Nat :=
  (if info.timezone.isSome then 172 else 0) + (if info.sessionId.isSome then 4 else 0) +
    (if info.performanceFlags.isSome then 4 else 0) + if info.reconnectCookie.isSome then 2 + 28 else 0

def encode (info : ExtendedClientOptionalInfo) : Encoding :=
  .ensureSize "ExtendedClientOptionalInfo" info.size <|
    .andThen (info.timezone.elim (.write []) TimezoneInfo.encode) <|
    .andThen (info.sessionId.elim (.write []) fun id => .write (littleEndian 4 id.toNat)) <|
    .andThen (info.performanceFlags.elim (.write []) fun flags => .write (littleEndian 4 flags.bits.toNat))
      (info.reconnectCookie.elim (.write []) fun cookie => .write (littleEndian 2 28 ++ cookie.val))

/-- Two reserved words may follow. -/
def skipReserved (info : ExtendedClientOptionalInfo) : Decoding ExtendedClientOptionalInfo :=
  whenLeft 4 (return info) do
    let _ ← readU16
    let _ ← readU16
    return info

/-- `decode`: each field is there when bytes are left for it. -/
def decode : Decoding ExtendedClientOptionalInfo :=
  whenLeft 172 (return empty) do
    let timezone ← TimezoneInfo.decode
    whenLeft 4 (return ⟨some timezone, none, none, none, nofun, fun _ => rfl, fun _ => rfl⟩) do
      let id ← readU32
      whenLeft 4 (return ⟨some timezone, some id, none, none, nofun, nofun, fun _ => rfl⟩) do
        match Flags.fromBits (← readU32).toBitVec with
        | none => fail (.invalidField "performanceFlags" "invalid performance flags")
        | some flags =>
          whenLeft 2 (return ⟨some timezone, some id, some flags, none, nofun, nofun, nofun⟩) do
            let cookieSize ← readU16
            if cookieSize ≠ 28 ∧ cookieSize ≠ 0 then
              fail (.invalidField "cbAutoReconnectCookie" "invalid cookie size")
            else if cookieSize ≠ 0 then
              whenLeft 28 (fail (.invalidField "cbAutoReconnectCookie" "missing cookie data")) do
                let cookie ← readCookie
                skipReserved ⟨some timezone, some id, some flags, some cookie, nofun, nofun, nofun⟩
            else skipReserved ⟨some timezone, some id, some flags, none, nofun, nofun, nofun⟩

end ExtendedClientOptionalInfo

namespace ExtendedClientInfo

/-- `ExtendedClientInfo::size` -/
def size (info : ExtendedClientInfo) (characterSet : CharacterSet) : Nat :=
  2 + 2 + stringLen info.address characterSet + characterSet.asU16 + 2 + stringLen info.dir characterSet +
    characterSet.asU16 + info.optionalData.size

/-- The length counts the terminator; the sum is not checked for overflow. -/
def writeTerminated (value : String) (characterSet : CharacterSet) : Encoding :=
  .andThen (if stringLen value characterSet + characterSet.asU16 < UInt16.size then
      .write (littleEndian 2 (stringLen value characterSet + characterSet.asU16))
    else .panic) (writeString value characterSet)

/-- `ExtendedClientInfo::encode` -/
def encode (info : ExtendedClientInfo) (characterSet : CharacterSet) : Encoding :=
  .ensureSize "ExtendedClientInfo" (info.size characterSet) <|
    if stringLen info.address characterSet < UInt16.size then
      if stringLen info.dir characterSet < UInt16.size then
        .andThen (.write (littleEndian 2 info.addressFamily.toNat)) <|
        .andThen (writeTerminated info.address characterSet) <|
        .andThen (writeTerminated info.dir characterSet) info.optionalData.encode
      else .fail (.invalidField "dir length")
    else .fail (.invalidField "address length")

/-- `ExtendedClientInfo::decode` -/
def decode (characterSet : CharacterSet) : Decoding ExtendedClientInfo := do
  ensureSize 4
  let addressFamily ← readU16
  let addressSize ← readU16
  ensureSize (addressSize.toNat + 2)
  let address ← readString addressSize.toNat characterSet false
  let dirSize ← readU16
  ensureSize dirSize.toNat
  let dir ← readString dirSize.toNat characterSet false
  let optionalData ← ExtendedClientOptionalInfo.decode
  return { addressFamily, address, dir, optionalData }

end ExtendedClientInfo

namespace ClientInfo

def unicode : BitVec 32 := 0x10
def compressionTypeMask : BitVec 32 := 0x1E00

/-- The texts are in the character set that a flag tells. -/
def characterSet (flags : ClientInfoFlags) : CharacterSet := if flags.contains unicode then .unicode else .ansi

/-- The texts in front, with the names of their lengths; no domain is an empty one. -/
def texts (info : ClientInfo) : List (String × String) :=
  [("domain length", info.credentials.domain.getD ""), ("username length", info.credentials.username),
    ("password length", info.credentials.password), ("alternate shell length", info.alternateShell),
    ("work dir length", info.workDir)]

/-- The length of a text goes without its end. -/
def writeLength (characterSet : CharacterSet) (text : String × String) : Encoding :=
  if stringLen text.2 characterSet < UInt16.size then .write (littleEndian 2 (stringLen text.2 characterSet))
  else .fail (.invalidField text.1)

/-- The compression type shares the word of the flags. -/
def flagsWithCompressionType (info : ClientInfo) : BitVec 32 :=
  info.flags.bits ||| info.compressionType.asU8.toBitVec.setWidth 32 <<< 9

def encode (info : ClientInfo) : Encoding :=
  .ensureSize "ClientInfo" 18 <|
    .andThen (.write (littleEndian 4 info.codePage.toNat ++ littleEndian 4 info.flagsWithCompressionType.toNat)) <|
    .andThen (.all (info.texts.map (writeLength (characterSet info.flags)))) <|
    .andThen (.all (info.texts.map fun text => writeString text.2 (characterSet info.flags)))
      (info.extraInfo.encode (characterSet info.flags))

def size (info : ClientInfo) : Nat :=
  18 + (info.texts.map fun text => stringLen text.2 (characterSet info.flags)).sum +
    (characterSet info.flags).asU16 * 5 + info.extraInfo.size (characterSet info.flags)

/-- `ClientInfo::decode` -/
def decode : Decoding ClientInfo := do
  ensureSize 18
  let codePage ← readU32
  let word ← readU32
  match (Flags.fromBits (word.toBitVec &&& ~~~compressionTypeMask) : Option ClientInfoFlags) with
  | none => fail (.invalidField "flags" "invalid ClientInfoFlags")
  | some flags =>
    match CompressionType.fromU8 (.ofBitVec (((word.toBitVec &&& compressionTypeMask) >>> 9).setWidth 8)) with
    | none => fail (.invalidField "flags" "invalid CompressionType")
    | some compressionType =>
      let characterSet := characterSet flags
      let domainSize := (← readU16).toNat + characterSet.asU16
      let userNameSize := (← readU16).toNat + characterSet.asU16
      let passwordSize := (← readU16).toNat + characterSet.asU16
      let alternateShellSize := (← readU16).toNat + characterSet.asU16
      let workDirSize := (← readU16).toNat + characterSet.asU16
      ensureSize (domainSize + userNameSize + passwordSize + alternateShellSize + workDirSize)
      let domain ← readString domainSize characterSet true
      let username ← readString userNameSize characterSet true
      let password ← readString passwordSize characterSet true
      let alternateShell ← readString alternateShellSize characterSet true
      let workDir ← readString workDirSize characterSet true
      let extraInfo ← ExtendedClientInfo.decode characterSet
      return {
        credentials := { username, password, domain := if domain = "" then none else some domain }
        codePage, flags, compressionType, alternateShell, workDir, extraInfo }

end ClientInfo

namespace ClientInfoPdu

def infoPkt : BitVec 16 := 0x0040

def encode (pdu : ClientInfoPdu) : Encoding :=
  .ensureSize "ClientInfoPDU" 22 <|
    .andThen (.ensureSize "BasicSecurityHeader" 4 (.write (littleEndian 2 pdu.securityHeader.bits.toNat ++ [0, 0])))
      pdu.clientInfo.encode

def size (pdu : ClientInfoPdu) : Nat := 4 + pdu.clientInfo.size

/-- `ClientInfoPdu::decode`: a message without the flag for client information is refused. -/
def decode : Decoding ClientInfoPdu := do
  ensureSize 22
  ensureSize 4
  match (Flags.fromBits (← readU16).toBitVec : Option BasicSecurityHeaderFlags) with
  | none => fail (.invalidField "securityHeader" "invalid basic security header")
  | some securityHeader =>
    let _flagsHi ← readU16
    if !securityHeader.contains infoPkt then fail (.invalidField "securityHeader" "got invalid security header")
    else return { securityHeader, clientInfo := ← ClientInfo.decode }

end ClientInfoPdu
end Infos

section StringLemmas
variable {characterSet : CharacterSet} {value : String} {src : Bytes}

private theorem unitBytes_length (units : List UInt16) : (unitBytes units).length = units.length * 2 := by
  induction units with
  | nil => rfl
  | cons unit rest ih =>
    rw [unitBytes] at ih ⊢
    rw [List.flatMap_cons, List.length_append, ih, littleEndian_length, List.length_cons]
    omega

private theorem chunks_unitBytes (units : List UInt16) : chunks (unitBytes units) = units := by
  induction units with
  | nil => rfl
  | cons unit rest ih =>
    have value := Bytes.fromLittleEndian_littleEndian (show unit.toNat < 256 ^ 2 from unit.toNat_lt)
    change (Bytes.fromLittleEndian (littleEndian 2 unit.toNat)).toUInt16 :: chunks (unitBytes rest) = _
    rw [value, ih]
    exact congrArg (· :: rest) UInt16.ofNat_toNat

private theorem chunks_length (bytes : Bytes) : (chunks bytes).length * 2 ≤ bytes.length := by
  induction bytes using chunks.induct with
  | case1 low high rest ih =>
    rw [chunks, List.length_cons, List.length_cons, List.length_cons]
    omega
  | case2 bytes short =>
    rw [chunks]
    · exact Nat.zero_le _
    · exact short

private theorem unitBytes_zeros (zeros : Nat) :
    unitBytes (List.replicate zeros 0) = List.replicate (2 * zeros) 0 := by
  induction zeros with
  | zero => rfl
  | succ zeros ih =>
    rw [unitBytes] at ih ⊢
    rw [List.replicate_succ, List.flatMap_cons, ih, Nat.mul_succ, Nat.add_comm, List.replicate_add]
    rfl

private theorem unitBytes_append (units more : List UInt16) :
    unitBytes (units ++ more) = unitBytes units ++ unitBytes more :=
  List.flatMap_append

/-- A text with its terminator. -/
def fieldBytes (value : String) (characterSet : CharacterSet) : Bytes :=
  stringBytes characterSet value ++ terminator characterSet

private theorem fieldBytes_length (value : String) (characterSet : CharacterSet) :
    (fieldBytes value characterSet).length = stringLen value characterSet + characterSet.asU16 := by
  rw [fieldBytes, terminator, List.length_append, List.length_replicate, stringLen]

private theorem decodeString_terminated (clean : nul ∉ value.toList) :
    decodeString (fieldBytes value characterSet) characterSet true = pure value := by
  cases characterSet with
  | ansi =>
    have read : utf8.read true (utf8.encode value.toList ++ [utf8.zero]) = some value.toList :=
      CodeUnits.EncodingForm.read_terminated clean
    have same : fieldBytes value .ansi = utf8.encode value.toList ++ [utf8.zero] := rfl
    simp only [decodeString, same, read, String.ofList_toList]
  | unicode =>
    have read : utf16.read true (utf16.encode value.toList ++ [utf16.zero]) = some value.toList :=
      CodeUnits.EncodingForm.read_terminated clean
    have same : fieldBytes value .unicode = unitBytes (utf16.encode value.toList ++ [utf16.zero]) := by
      rw [unitBytes_append]
      rfl
    simp only [decodeString, same, chunks_unitBytes, read, String.ofList_toList]

private theorem decodeString_padded (ends : trim value.toList = value.toList) (zeros : Nat) :
    decodeString (stringBytes characterSet value ++ List.replicate (characterSet.asU16 * zeros) 0) characterSet
      false = pure value := by
  cases characterSet with
  | ansi =>
    have read : utf8.read false (utf8.encode value.toList ++ List.replicate zeros utf8.zero) = some value.toList :=
      CodeUnits.EncodingForm.read_padded ends zeros
    have same : stringBytes .ansi value ++ List.replicate (CharacterSet.ansi.asU16 * zeros) 0 =
        utf8.encode value.toList ++ List.replicate zeros utf8.zero := by
      rw [CharacterSet.asU16, Nat.one_mul]
      rfl
    simp only [decodeString, same, read, String.ofList_toList]
  | unicode =>
    have read : utf16.read false (utf16.encode value.toList ++ List.replicate zeros utf16.zero) =
        some value.toList :=
      CodeUnits.EncodingForm.read_padded ends zeros
    have same : stringBytes .unicode value ++ List.replicate (CharacterSet.unicode.asU16 * zeros) 0 =
        unitBytes (utf16.encode value.toList ++ List.replicate zeros utf16.zero) := by
      rw [CharacterSet.asU16, unitBytes_append, ← unitBytes_zeros]
      rfl
    simp only [decodeString, same, chunks_unitBytes, read, String.ofList_toList]

private theorem decodeString_cases (src : Bytes) (characterSet : CharacterSet) (readNullTerminator : Bool) :
    (∃ value, decodeString src characterSet readNullTerminator = pure value) ∨
      ∃ error, decodeString src characterSet readNullTerminator = fail error := by
  unfold decodeString
  split
  · split
    · exact .inl ⟨_, rfl⟩
    · exact .inr ⟨_, rfl⟩
  · split
    · exact .inl ⟨_, rfl⟩
    · exact .inr ⟨_, rfl⟩

private theorem decodeString_leaves (src : Bytes) (characterSet : CharacterSet) (readNullTerminator : Bool) :
    Leaves 0 (decodeString src characterSet readNullTerminator) := by
  rcases decodeString_cases src characterSet readNullTerminator with ⟨value, decoded⟩ | ⟨error, decoded⟩
  · exact decoded ▸ pure_leaves value
  · exact decoded ▸ fail_leaves error 0

private theorem decodeString_safe (src : Bytes) (characterSet : CharacterSet) (readNullTerminator : Bool) :
    SafeFrom 0 (decodeString src characterSet readNullTerminator) := by
  rcases decodeString_cases src characterSet readNullTerminator with ⟨value, decoded⟩ | ⟨error, decoded⟩
  · exact decoded ▸ pure_safe value 0
  · exact decoded ▸ fail_safe error 0

private theorem readString_leaves (size : Nat) (characterSet : CharacterSet) (readNullTerminator : Bool) :
    Leaves size (readString size characterSet readNullTerminator) :=
  (readSlice_takes size).leaves.bind 0 fun slice => decodeString_leaves slice characterSet readNullTerminator

private theorem readString_safe (size : Nat) (characterSet : CharacterSet) (readNullTerminator : Bool) :
    SafeFrom size (readString size characterSet readNullTerminator) :=
  (readSlice_takes size).safe.bind fun slice => decodeString_safe slice characterSet readNullTerminator

/-- Where a text is decoded it is what the units of the character set say. -/
theorem text_yields {read : Option (List Char)} {error : WireDecoding.DecodeError} {P : String → Prop}
    (holds : ∀ text, read = some text → P (String.ofList text)) :
    Yields (match read with
      | some text => (return String.ofList text : Decoding String)
      | none => fail error) P := by
  cases taken : read with
  | none => exact fail_yields error
  | some text => exact pure_yields (holds text taken)

private theorem decodeString_yields_clean (src : Bytes) (characterSet : CharacterSet) :
    Yields (decodeString src characterSet true) fun value => nul ∉ value.toList := by
  cases characterSet with
  | ansi =>
    apply text_yields
    intro text read
    rw [String.toList_ofList]
    exact CodeUnits.EncodingForm.read_clean read
  | unicode =>
    apply text_yields
    intro text read
    rw [String.toList_ofList]
    exact CodeUnits.EncodingForm.read_clean read

private theorem decodeString_yields_trimmed (src : Bytes) (characterSet : CharacterSet) :
    Yields (decodeString src characterSet false) fun value =>
      trim value.toList = value.toList ∧ stringLen value characterSet ≤ src.length := by
  cases characterSet with
  | ansi =>
    apply text_yields
    intro text read
    rw [stringLen, stringBytes, String.toList_ofList]
    exact ⟨CodeUnits.EncodingForm.read_trimmed read, CodeUnits.EncodingForm.read_length read⟩
  | unicode =>
    apply text_yields
    intro text read
    rw [stringLen, stringBytes, toUtf16Bytes, String.toList_ofList, unitBytes_length]
    have short := CodeUnits.EncodingForm.read_length read
    have whole := chunks_length src
    exact ⟨CodeUnits.EncodingForm.read_trimmed read, by omega⟩

private theorem readString_yields_clean (size : Nat) (characterSet : CharacterSet) :
    Yields (readString size characterSet true) fun value => nul ∉ value.toList :=
  yields_after fun slice => decodeString_yields_clean slice characterSet

private theorem readString_yields_trimmed (size : Nat) (characterSet : CharacterSet) :
    Yields (readString size characterSet false) fun value =>
      trim value.toList = value.toList ∧ stringLen value characterSet ≤ size :=
  (readSlice_yields size).bind fun slice long => long ▸ decodeString_yields_trimmed slice characterSet

private theorem readString_terminated (clean : nul ∉ value.toList) :
    Reads (readString (stringLen value characterSet + characterSet.asU16) characterSet true)
      (fieldBytes value characterSet) value := by
  intro rest
  rw [← fieldBytes_length]
  refine (bind_of_ok (readSlice_reads _ rest)).trans ?_
  rw [decodeString_terminated clean]
  rfl

/-- A text that zeros fill up, in all the bytes of its field. -/
theorem readString_padded (ends : trim value.toList = value.toList) {bytes : Bytes} (zeros : Nat)
    (padded : bytes = stringBytes characterSet value ++ List.replicate (characterSet.asU16 * zeros) 0) :
    Reads (readString bytes.length characterSet false) bytes value := by
  intro rest
  refine (bind_of_ok (readSlice_reads bytes rest)).trans ?_
  rw [padded, decodeString_padded ends]
  rfl

private theorem writeString_writes (value : String) (characterSet : CharacterSet) :
    (writeString value characterSet).Writes (fieldBytes value characterSet) :=
  (Encoding.write_writes _).ensureSize _ (Nat.le_of_eq (fieldBytes_length value characterSet).symm)

end StringLemmas

section TimeLemmas

theorem OptionalSystemTime.bytes_length (time : OptionalSystemTime) : time.bytes.length = 16 := by
  cases time with
  | none => rfl
  | some time => rfl

theorem OptionalSystemTime.encode_writes (time : OptionalSystemTime) : time.encode.Writes time.bytes :=
  (Encoding.write_writes _).ensureSize _ (Nat.le_of_eq time.bytes_length.symm)

/-- A time is read back. -/
theorem OptionalSystemTime.decode_reads (time : OptionalSystemTime) : Reads decode time.bytes time := by
  apply Reads.ensureSize _ (Nat.le_of_eq time.bytes_length.symm)
  have word : Reads readU16 [0, 0] 0 := readU16_reads 0
  cases time with
  | none =>
    exact word.bind <| word.bind <| word.bind <| word.bind <| word.bind <| word.bind <| word.bind <|
      word.bind (pure_reads _)
  | some time =>
    refine word.bind <| (readU16_reads time.month.asU16).bind <| (readU16_reads time.dayOfWeek.asU16).bind <|
      (readU16_reads time.day.asU16).bind <| (readU16_reads time.hour).bind <| (readU16_reads time.minute).bind <|
      (readU16_reads time.second).bind <| (readU16_reads time.milliseconds).bind ?_
    rw [Month.fromU16_asU16, DayOfWeek.fromU16_asU16, DayOfWeekOccurrence.fromU16_asU16]
    exact pure_reads _

theorem OptionalSystemTime.decode_safe : SafeFrom 0 decode := by
  apply ensureSize_safe
  refine readU16_takes.bind_safe 14 fun _ => readU16_takes.bind_safe 12 fun month =>
    readU16_takes.bind_safe 10 fun dayOfWeek => readU16_takes.bind_safe 8 fun day =>
    readU16_takes.bind_safe 6 fun _ => readU16_takes.bind_safe 4 fun _ => readU16_takes.bind_safe 2 fun _ =>
    readU16_takes.bind_safe 0 fun _ => ?_
  cases Month.fromU16 month <;> cases DayOfWeek.fromU16 dayOfWeek <;> cases DayOfWeekOccurrence.fromU16 day <;>
    exact pure_safe _ 0

private theorem OptionalSystemTime.decode_leaves : Leaves 16 decode := by
  apply ensureSize_leaves
  refine readU16_takes.leaves.bind 14 fun _ => readU16_takes.leaves.bind 12 fun month =>
    readU16_takes.leaves.bind 10 fun dayOfWeek => readU16_takes.leaves.bind 8 fun day =>
    readU16_takes.leaves.bind 6 fun _ => readU16_takes.leaves.bind 4 fun _ =>
    readU16_takes.leaves.bind 2 fun _ => readU16_takes.leaves.bind 0 fun _ => ?_
  cases Month.fromU16 month <;> cases DayOfWeek.fromU16 dayOfWeek <;> cases DayOfWeekOccurrence.fromU16 day <;>
    exact pure_leaves _

private theorem biasBytes_length (bias : Int32) : (biasBytes bias).length = 4 := littleEndian_length 4 _

private theorem resize_length (bytes : Bytes) (count : Nat) : (resize bytes count).length = count := by
  rw [resize, List.length_append, List.length_take, List.length_replicate]
  omega

namespace TimezoneInfo

/-- The names of the times fit their fields, with no zeros at their end. -/
def Named (timezone : TimezoneInfo) : Prop :=
  ∀ name ∈ [timezone.standardName, timezone.daylightName],
    trim name.toList = name.toList ∧ stringLen name .unicode ≤ 64

def bytes (timezone : TimezoneInfo) : Bytes :=
  biasBytes timezone.bias ++ resize (toUtf16Bytes timezone.standardName) 64 ++ (timezone.standardDate.bytes ++
    (biasBytes timezone.standardBias ++ resize (toUtf16Bytes timezone.daylightName) 64 ++
      (timezone.daylightDate.bytes ++ biasBytes timezone.daylightBias)))

/-- A time zone takes 172 bytes. -/
theorem bytes_length (timezone : TimezoneInfo) : timezone.bytes.length = 172 := by
  simp only [bytes, List.length_append, biasBytes_length, resize_length, OptionalSystemTime.bytes_length]

theorem encode_writes (timezone : TimezoneInfo) : timezone.encode.Writes timezone.bytes := by
  apply Encoding.Writes.ensureSize _ _ (Nat.le_of_eq timezone.bytes_length.symm)
  apply (Encoding.write_writes _).andThen
  apply timezone.standardDate.encode_writes.andThen
  apply (Encoding.write_writes _).andThen
  exact timezone.daylightDate.encode_writes.andThen (Encoding.write_writes _)

private theorem name_reads {name : String} (ends : trim name.toList = name.toList)
    (short : stringLen name .unicode ≤ 64) :
    Reads (readString 64 .unicode false) (resize (toUtf16Bytes name) 64) name := by
  have even : stringLen name .unicode = (utf16.encode name.toList).length * 2 := unitBytes_length _
  have padded : resize (toUtf16Bytes name) 64 = stringBytes .unicode name ++
      List.replicate (CharacterSet.unicode.asU16 * (32 - (utf16.encode name.toList).length)) 0 := by
    have whole : CharacterSet.unicode.asU16 * (32 - (utf16.encode name.toList).length) =
        64 - (toUtf16Bytes name).length := by
      change 2 * _ = 64 - stringLen name .unicode
      omega
    rw [resize, List.take_of_length_le (show (toUtf16Bytes name).length ≤ 64 from short), whole]
    rfl
  have reads := readString_padded ends _ padded
  rwa [resize_length] at reads

/-- A time zone with names that fit is read back. -/
theorem decode_reads {timezone : TimezoneInfo} (named : timezone.Named) :
    Reads decode timezone.bytes timezone := by
  obtain ⟨standardEnds, standardShort⟩ := named timezone.standardName (by simp)
  obtain ⟨daylightEnds, daylightShort⟩ := named timezone.daylightName (by simp)
  apply Reads.ensureSize _ (Nat.le_of_eq timezone.bytes_length.symm)
  rw [bytes, List.append_assoc, List.append_assoc (biasBytes timezone.standardBias)]
  apply (readI32_reads timezone.bias).bind
  apply (name_reads standardEnds standardShort).bind
  apply timezone.standardDate.decode_reads.bind
  apply (readI32_reads timezone.standardBias).bind
  apply (name_reads daylightEnds daylightShort).bind
  apply timezone.daylightDate.decode_reads.bind
  exact (readI32_reads timezone.daylightBias).map _

/-- A time zone is read without reading beyond the buffer. -/
theorem decode_safe : SafeFrom 0 decode := by
  apply ensureSize_safe
  have date := OptionalSystemTime.decode_safe.weaken (Nat.zero_le 16)
  have name := readString_safe 64 .unicode false
  have nameLeaves := readString_leaves 64 .unicode false
  apply readI32_takes.bind_safe 168
  intro bias
  apply name.bind_leaves nameLeaves 104
  intro standardName
  apply date.bind_leaves OptionalSystemTime.decode_leaves 88
  intro standardDate
  apply readI32_takes.bind_safe 84
  intro standardBias
  apply name.bind_leaves nameLeaves 20
  intro daylightName
  apply date.bind_leaves OptionalSystemTime.decode_leaves 4
  intro daylightDate
  exact (readI32_takes.map _).safe

/-- What is read has such names. -/
theorem decode_yields : Yields decode Named := by
  refine yields_after fun _ => yields_after fun bias => ?_
  refine (readString_yields_trimmed 64 .unicode).bind fun standardName standardFits => ?_
  refine yields_after fun standardDate => yields_after fun standardBias => ?_
  refine (readString_yields_trimmed 64 .unicode).bind fun daylightName daylightFits => ?_
  refine yields_after fun daylightDate => yields_after fun daylightBias => pure_yields ?_
  intro name member
  rcases List.mem_pair.mp member with rfl | rfl
  · exact standardFits
  · exact daylightFits

end TimezoneInfo
end TimeLemmas

section OptionalData

private theorem elim_writes {α : Type} {encode : α → Encoding} {bytes : α → Bytes}
    (writes : ∀ a, (encode a).Writes (bytes a)) (field : Option α) :
    (field.elim (.write []) encode).Writes (field.elim [] bytes) := by
  cases field with
  | none => exact Encoding.write_writes []
  | some a => exact writes a

private theorem readCookie_reads (cookie : ReconnectCookie) : Reads readCookie cookie.val cookie := by
  intro rest
  obtain ⟨bytes, length⟩ := cookie
  have enough : 28 ≤ (bytes ++ rest).length := by
    rw [List.length_append]
    omega
  simp only [readCookie, dif_pos enough, List.take_left' length, List.drop_left' length]

private theorem readCookie_safe : SafeFrom 28 readCookie := by
  intro src enough
  rw [readCookie, dif_pos enough]
  exact Option.some_ne_none _

namespace ExtendedClientOptionalInfo
variable {info : ExtendedClientOptionalInfo}

/-- The zone that is told has names that fit. -/
def Named (info : ExtendedClientOptionalInfo) : Prop := ∀ timezone, info.timezone = some timezone → timezone.Named

def bytes (info : ExtendedClientOptionalInfo) : Bytes :=
  info.timezone.elim [] TimezoneInfo.bytes ++ (info.sessionId.elim [] (fun id => littleEndian 4 id.toNat) ++
    (info.performanceFlags.elim [] (fun flags => littleEndian 4 flags.bits.toNat) ++
      info.reconnectCookie.elim [] fun cookie => littleEndian 2 28 ++ cookie.val))

/-- The optional fields take the size computed. -/
theorem bytes_length (info : ExtendedClientOptionalInfo) : info.bytes.length = info.size := by
  obtain ⟨timezone, sessionId, performanceFlags, reconnectCookie, _, _, _⟩ := info
  have zone : (timezone.elim [] TimezoneInfo.bytes).length = if timezone.isSome then 172 else 0 := by
    cases timezone with
    | none => rfl
    | some timezone => exact timezone.bytes_length
  have cookie : (reconnectCookie.elim [] fun cookie => littleEndian 2 28 ++ cookie.val).length =
      if reconnectCookie.isSome then 2 + 28 else 0 := by
    cases reconnectCookie with
    | none => rfl
    | some cookie => exact (List.length_append).trans (congrArg₂ _ (littleEndian_length 2 28) cookie.property)
  simp only [bytes, size, List.length_append, zone, cookie, Nat.add_assoc]
  congr 1
  cases sessionId <;> cases performanceFlags <;> rfl

/-- What `encode` writes of the optional fields. -/
theorem encode_writes (info : ExtendedClientOptionalInfo) : info.encode.Writes info.bytes := by
  apply Encoding.Writes.ensureSize _ _ (Nat.le_of_eq info.bytes_length.symm)
  apply (elim_writes TimezoneInfo.encode_writes _).andThen
  apply (elim_writes (fun _ => Encoding.write_writes _) _).andThen
  apply (elim_writes (fun _ => Encoding.write_writes _) _).andThen
  exact elim_writes (fun _ => Encoding.write_writes _) _

/-- The data is read to the end of the packet, where it may stop after any field. -/
theorem decode_finishes (named : info.Named) : Finishes decode info.bytes info := by
  obtain ⟨timezone, sessionId, performanceFlags, reconnectCookie, noSession, noFlags, noCookie⟩ := info
  cases timezone with
  | none =>
    obtain rfl := noSession rfl
    obtain rfl := noFlags rfl
    obtain rfl := noCookie rfl
    exact whenLeft_finished (by decide) _
  | some timezone =>
    refine Finishes.whenLeft ?_ (by rw [bytes, List.length_append, Option.elim_some, timezone.bytes_length]; omega)
    apply (TimezoneInfo.decode_reads (named timezone rfl)).bind_finishes
    cases sessionId with
    | none =>
      obtain rfl := noFlags rfl
      obtain rfl := noCookie rfl
      exact whenLeft_finished (by decide) _
    | some id =>
      refine Finishes.whenLeft ?_ (by rw [List.length_append, Option.elim_some, littleEndian_length]; omega)
      apply (readU32_reads id).bind_finishes
      cases performanceFlags with
      | none =>
        obtain rfl := noCookie rfl
        exact whenLeft_finished (by decide) _
      | some flags =>
        refine Finishes.whenLeft ?_ (by rw [List.length_append, Option.elim_some, littleEndian_length]; omega)
        apply (readU32_reads (.ofBitVec flags.bits)).bind_finishes
        rw [Flags.fromBits_bits]
        cases reconnectCookie with
        | none => exact whenLeft_finished (by decide) _
        | some cookie =>
          have length := cookie.property
          refine Finishes.whenLeft ?_ (by rw [Option.elim_some, List.length_append, littleEndian_length]; omega)
          apply (readU16_reads 28).bind_finishes
          rw [if_neg (by decide), if_pos (by decide)]
          refine Finishes.whenLeft ?_ (Nat.le_of_eq length.symm)
          rw [← List.append_nil cookie.val]
          exact (readCookie_reads cookie).bind_finishes (whenLeft_finished (by decide) _)

private theorem skipReserved_safe (info : ExtendedClientOptionalInfo) : SafeFrom 0 (skipReserved info) :=
  whenLeft_safe (pure_safe info 0) <| readU16_takes.bind_safe 2 fun _ => readU16_takes.bind_safe 0 fun _ =>
    pure_safe info 0

/-- The optional fields are read without reading beyond the buffer. -/
theorem decode_safe : SafeFrom 0 decode := by
  apply whenLeft_safe (pure_safe _ 0)
  apply (TimezoneInfo.decode_safe.weaken (Nat.zero_le 172)).bind
  intro timezone
  apply whenLeft_safe (pure_safe _ 0)
  apply readU32_takes.safe.bind
  intro id
  apply whenLeft_safe (pure_safe _ 0)
  apply readU32_takes.safe.bind
  intro word
  split
  · exact fail_safe _ 0
  apply whenLeft_safe (pure_safe _ 0)
  apply readU16_takes.safe.bind
  intro cookieSize
  split
  · exact fail_safe _ 0
  split
  · exact whenLeft_safe (fail_safe _ 0) (readCookie_safe.bind fun cookie => skipReserved_safe _)
  · exact skipReserved_safe _

private theorem skipReserved_yields {P : ExtendedClientOptionalInfo → Prop} (holds : P info) :
    Yields (skipReserved info) P :=
  (pure_yields holds).whenLeft (yields_after fun _ => yields_after fun _ => pure_yields holds)

/-- What is read of the optional fields has a zone with names that fit. -/
theorem decode_yields : Yields decode Named := by
  apply Yields.whenLeft
  · exact pure_yields fun timezone told => (Option.some_ne_none _ told.symm).elim
  refine TimezoneInfo.decode_yields.bind fun timezone fits => ?_
  have named (told : Option TimezoneInfo) (same : told = some timezone) :
      ∀ timezone, told = some timezone → timezone.Named := by
    rintro other rfl
    cases same
    exact fits
  refine (pure_yields (named _ rfl)).whenLeft (yields_after fun id => ?_)
  refine (pure_yields (named _ rfl)).whenLeft (yields_after fun word => ?_)
  split
  · exact fail_yields _
  refine (pure_yields (named _ rfl)).whenLeft (yields_after fun cookieSize => ?_)
  split
  · exact fail_yields _
  split
  · exact (fail_yields _).whenLeft (yields_after fun cookie => skipReserved_yields (named _ rfl))
  · exact skipReserved_yields (named _ rfl)

end ExtendedClientOptionalInfo
end OptionalData

section ExtendedInfo

namespace ExtendedClientInfo
variable {info : ExtendedClientInfo} {characterSet : CharacterSet}

/-- No text ends in a zero that would be cut off. -/
structure Clean (info : ExtendedClientInfo) : Prop where
  trimmed : ∀ text ∈ [info.address, info.dir], trim text.toList = text.toList
  named : info.optionalData.Named

/-- The length of a text can be told, with its terminator. -/
def Short (info : ExtendedClientInfo) (characterSet : CharacterSet) : Prop :=
  ∀ text ∈ [info.address, info.dir], stringLen text characterSet + characterSet.asU16 < UInt16.size

def terminatedBytes (value : String) (characterSet : CharacterSet) : Bytes :=
  littleEndian 2 (stringLen value characterSet + characterSet.asU16) ++ fieldBytes value characterSet

def bytes (info : ExtendedClientInfo) (characterSet : CharacterSet) : Bytes :=
  littleEndian 2 info.addressFamily.toNat ++ (terminatedBytes info.address characterSet ++
    (terminatedBytes info.dir characterSet ++ info.optionalData.bytes))

theorem bytes_length (info : ExtendedClientInfo) (characterSet : CharacterSet) :
    (info.bytes characterSet).length = info.size characterSet := by
  simp only [bytes, size, terminatedBytes, List.length_append, littleEndian_length, fieldBytes_length,
    info.optionalData.bytes_length]
  omega

private theorem writeTerminated_writes {value : String}
    (short : stringLen value characterSet + characterSet.asU16 < UInt16.size) :
    (writeTerminated value characterSet).Writes (terminatedBytes value characterSet) := by
  rw [writeTerminated, if_pos short]
  exact (Encoding.write_writes _).andThen (writeString_writes value characterSet)

/-- What `encode` writes, where the lengths fit their fields. -/
theorem encode_writes (short : info.Short characterSet) :
    (info.encode characterSet).Writes (info.bytes characterSet) := by
  have address := short info.address (by simp)
  have dir := short info.dir (by simp)
  apply Encoding.Writes.ensureSize _ _ (Nat.le_of_eq (info.bytes_length characterSet).symm)
  rw [if_pos (by omega), if_pos (by omega)]
  apply (Encoding.write_writes _).andThen
  apply (writeTerminated_writes address).andThen
  exact (writeTerminated_writes dir).andThen info.optionalData.encode_writes

private theorem text_reads {value : String} (trimmed : trim value.toList = value.toList)
    (short : stringLen value characterSet + characterSet.asU16 < UInt16.size) :
    Reads (readString (stringLen value characterSet + characterSet.asU16).toUInt16.toNat characterSet false)
      (fieldBytes value characterSet) value := by
  have size : (stringLen value characterSet + characterSet.asU16).toUInt16.toNat =
      (fieldBytes value characterSet).length := by
    rw [fieldBytes_length]
    exact UInt16.toNat_ofNat_of_lt' short
  rw [size]
  apply readString_padded trimmed 1
  rw [Nat.mul_one, fieldBytes, terminator]

/-- What `encode` has written is read back as the rest of a message. -/
theorem decode_finishes (clean : info.Clean) (short : info.Short characterSet) :
    Finishes (decode characterSet) (info.bytes characterSet) info := by
  have address := short info.address (by simp)
  have dir := short info.dir (by simp)
  have addressSize : (stringLen info.address characterSet + characterSet.asU16).toUInt16.toNat = _ :=
    UInt16.toNat_ofNat_of_lt' address
  have dirSize : (stringLen info.dir characterSet + characterSet.asU16).toUInt16.toNat = _ :=
    UInt16.toNat_ofNat_of_lt' dir
  rw [bytes, terminatedBytes, terminatedBytes, List.append_assoc, List.append_assoc]
  apply Finishes.ensureSize
  · apply (readU16_reads info.addressFamily).bind_finishes
    apply (readU16_reads_nat address).bind_finishes
    apply Finishes.ensureSize
    · apply (text_reads (clean.trimmed info.address (by simp)) address).bind_finishes
      apply (readU16_reads_nat dir).bind_finishes
      apply Finishes.ensureSize
      · apply (text_reads (clean.trimmed info.dir (by simp)) dir).bind_finishes
        exact (info.optionalData.decode_finishes clean.named).map _
      · rw [dirSize, List.length_append, fieldBytes_length]
        omega
    · rw [addressSize, List.length_append, List.length_append, fieldBytes_length, littleEndian_length]
      omega
  · rw [List.length_append, List.length_append, littleEndian_length, littleEndian_length]
    omega

/-- What is appended is read without reading beyond the buffer. -/
theorem decode_safe (characterSet : CharacterSet) : SafeFrom 0 (decode characterSet) := by
  apply ensureSize_safe
  apply readU16_takes.bind_safe 2
  intro addressFamily
  apply readU16_takes.bind_safe 0
  intro addressSize
  apply ensureSize_safe
  apply (readString_safe _ _ _).bind_leaves (readString_leaves _ _ _) 2
  intro address
  apply readU16_takes.bind_safe 0
  intro dirSize
  apply ensureSize_safe
  apply (readString_safe _ _ _).bind
  intro dir
  exact ExtendedClientOptionalInfo.decode_safe.bind fun _ => pure_safe _ 0

/-- What is read could have been sent. -/
theorem decode_yields (characterSet : CharacterSet) : Yields (decode characterSet) Clean := by
  refine yields_after fun _ => yields_after fun addressFamily => yields_after fun addressSize => ?_
  refine yields_after fun _ => (readString_yields_trimmed _ _).bind fun address addressTrimmed => ?_
  refine yields_after fun dirSize => yields_after fun _ => ?_
  refine (readString_yields_trimmed _ _).bind fun dir dirTrimmed => ?_
  refine ExtendedClientOptionalInfo.decode_yields.bind fun optionalData named => pure_yields ⟨?_, named⟩
  intro text member
  rcases List.mem_pair.mp member with rfl | rfl
  · exact addressTrimmed.1
  · exact dirTrimmed.1

private theorem writeTerminated_short {value : String} {room : Nat} {written : Bytes}
    (ran : writeTerminated value characterSet room = some (.ok written)) :
    stringLen value characterSet + characterSet.asU16 < UInt16.size := by
  obtain ⟨_, _, ran, _, _⟩ := Encoding.andThen_eq_ok ran
  split at ran
  · assumption
  · cases ran

private theorem short_of_encode {room : Nat} {written : Bytes}
    (ran : info.encode characterSet room = some (.ok written)) : info.Short characterSet := by
  obtain ⟨_, ran⟩ := Encoding.ensureSize_eq_ok ran
  split at ran
  · split at ran
    · obtain ⟨_, _, _, ran, _⟩ := Encoding.andThen_eq_ok ran
      obtain ⟨_, _, address, ran, _⟩ := Encoding.andThen_eq_ok ran
      obtain ⟨_, _, dir, _, _⟩ := Encoding.andThen_eq_ok ran
      intro text member
      rcases List.mem_pair.mp member with rfl | rfl
      · exact writeTerminated_short address
      · exact writeTerminated_short dir
    · cases ran
  · cases ran

end ExtendedClientInfo
end ExtendedInfo

section Packets
namespace ClientInfo
variable {info : ClientInfo}

/-- What is decoded is clean: no text of the first five holds a zero, and an empty
domain is told as none. -/
structure Clean (info : ClientInfo) : Prop where
  domain : info.credentials.domain ≠ some ""
  texts : ∀ text ∈ info.texts, nul ∉ text.2.toList
  extra : info.extraInfo.Clean

/-- The lengths of the texts can be told. -/
structure Short (info : ClientInfo) : Prop where
  texts : ∀ text ∈ info.texts, stringLen text.2 (characterSet info.flags) < UInt16.size
  extra : info.extraInfo.Short (characterSet info.flags)

def lengthBytes (characterSet : CharacterSet) (text : String × String) : Bytes :=
  littleEndian 2 (stringLen text.2 characterSet)

def bytes (info : ClientInfo) : Bytes :=
  littleEndian 4 info.codePage.toNat ++ littleEndian 4 info.flagsWithCompressionType.toNat ++
    (info.texts.flatMap (lengthBytes (characterSet info.flags)) ++
      (info.texts.flatMap (fun text => fieldBytes text.2 (characterSet info.flags)) ++
        info.extraInfo.bytes (characterSet info.flags)))

theorem bytes_length (info : ClientInfo) : info.bytes.length = info.size := by
  simp only [bytes, size, texts, List.flatMap_cons, List.flatMap_nil, List.map_cons, List.map_nil, List.sum_cons,
    List.sum_nil, List.length_append, List.length_nil, lengthBytes, littleEndian_length, fieldBytes_length,
    info.extraInfo.bytes_length]
  omega

/-- What `encode` writes, where the lengths fit their fields. -/
theorem encode_writes (short : info.Short) : info.encode.Writes info.bytes := by
  have long : 18 ≤ info.bytes.length := by
    rw [bytes_length, size]
    omega
  apply Encoding.Writes.ensureSize _ _ long
  have lengths (text : String × String) (member : text ∈ info.texts) :
      (writeLength (characterSet info.flags) text).Writes (lengthBytes (characterSet info.flags) text) := by
    rw [writeLength, if_pos (short.texts text member)]
    exact Encoding.write_writes _
  apply (Encoding.write_writes _).andThen
  apply (Encoding.all_writes lengths).andThen
  apply (Encoding.all_writes fun text _ => writeString_writes text.2 _).andThen
  exact info.extraInfo.encode_writes short.extra

/-- The type of compression has bits of the word that no flag has. -/
theorem flags_of_word (info : ClientInfo) :
    (Flags.fromBits (info.flagsWithCompressionType &&& ~~~compressionTypeMask) : Option ClientInfoFlags) =
      some info.flags := by
  have own : info.flags.bits &&& ~~~compressionTypeMask = info.flags.bits := by
    rw [← info.flags.named, BitVec.and_assoc]
    rfl
  have other : info.compressionType.asU8.toBitVec.setWidth 32 <<< 9 &&& ~~~compressionTypeMask = 0#32 := by
    cases info.compressionType <;> rfl
  rw [flagsWithCompressionType, BitVec.and_or_distrib_right, own, other, BitVec.or_zero, Flags.fromBits_bits]

private theorem compressionType_of_word (info : ClientInfo) :
    CompressionType.fromU8
      (.ofBitVec (((info.flagsWithCompressionType &&& compressionTypeMask) >>> 9).setWidth 8)) =
        some info.compressionType := by
  have own : info.flags.bits &&& compressionTypeMask = 0#32 := by
    rw [← info.flags.named, BitVec.and_assoc]
    exact BitVec.and_zero
  rw [flagsWithCompressionType, BitVec.and_or_distrib_right, own, BitVec.zero_or]
  cases info.compressionType <;> rfl

private theorem domain_told (clean : info.Clean) : (if info.credentials.domain.getD "" = "" then none
    else some (info.credentials.domain.getD "")) = info.credentials.domain := by
  have told := clean.domain
  revert told
  cases info.credentials.domain with
  | none => exact fun _ => rfl
  | some domain => exact fun told => if_neg fun empty => told (congrArg some empty)

/-- What `encode` has written is read back as the rest of a message. -/
theorem decode_finishes (clean : info.Clean) (short : info.Short) : Finishes decode info.bytes info := by
  have long : 18 ≤ info.bytes.length := by
    rw [bytes_length, size]
    omega
  have reads (text : String × String) (member : text ∈ info.texts) :=
    readU16_reads_nat (short.texts text member)
  have size (text : String × String) (member : text ∈ info.texts) :
      (stringLen text.2 (characterSet info.flags)).toUInt16.toNat = _ :=
    UInt16.toNat_ofNat_of_lt' (short.texts text member)
  have field (text : String × String) (member : text ∈ info.texts) :
      Reads (readString (stringLen text.2 (characterSet info.flags) + (characterSet info.flags).asU16)
        (characterSet info.flags) true) (fieldBytes text.2 (characterSet info.flags)) text.2 :=
    readString_terminated (clean.texts text member)
  simp only [texts, List.forall_mem_cons] at reads size field
  obtain ⟨domain, username, password, alternateShell, workDir, _⟩ := reads
  obtain ⟨domainSize, usernameSize, passwordSize, alternateShellSize, workDirSize, _⟩ := size
  obtain ⟨domainField, usernameField, passwordField, alternateShellField, workDirField, _⟩ := field
  apply Finishes.ensureSize _ long
  rw [bytes, List.append_assoc]
  apply (readU32_reads info.codePage).bind_finishes
  apply (readU32_reads (.ofBitVec info.flagsWithCompressionType)).bind_finishes
  rw [UInt32.toBitVec_ofBitVec, flags_of_word, compressionType_of_word]
  simp only [texts, List.flatMap_cons, List.flatMap_nil, List.append_nil, List.append_assoc, lengthBytes]
  apply domain.bind_finishes
  apply username.bind_finishes
  apply password.bind_finishes
  apply alternateShell.bind_finishes
  apply workDir.bind_finishes
  rw [domainSize, usernameSize, passwordSize, alternateShellSize, workDirSize]
  apply Finishes.ensureSize
  · apply domainField.bind_finishes
    apply usernameField.bind_finishes
    apply passwordField.bind_finishes
    apply alternateShellField.bind_finishes
    apply workDirField.bind_finishes
    apply ((ExtendedClientInfo.decode_finishes clean.extra short.extra).map _).of_eq
    rw [domain_told clean]
  · simp only [List.length_append, fieldBytes_length]
    omega

/-- The client's information is read without reading beyond the buffer. -/
theorem decode_safe : SafeFrom 0 decode := by
  apply ensureSize_safe
  apply readU32_takes.bind_safe 14
  intro codePage
  apply readU32_takes.bind_safe 10
  intro word
  split
  · exact fail_safe _ 10
  split
  · exact fail_safe _ 10
  apply readU16_takes.bind_safe 8
  intro domainLength
  apply readU16_takes.bind_safe 6
  intro userNameLength
  apply readU16_takes.bind_safe 4
  intro passwordLength
  apply readU16_takes.bind_safe 2
  intro alternateShellLength
  apply readU16_takes.bind_safe 0
  intro workDirLength
  apply ensureSize_safe
  simp only [Nat.add_assoc _ (_ + _)]
  apply (readString_safe _ _ _).bind_leaves (readString_leaves _ _ _)
  intro domain
  apply (readString_safe _ _ _).bind_leaves (readString_leaves _ _ _)
  intro username
  apply (readString_safe _ _ _).bind_leaves (readString_leaves _ _ _)
  intro password
  apply (readString_safe _ _ _).bind_leaves (readString_leaves _ _ _)
  intro alternateShell
  apply (readString_safe _ _ _).bind
  intro workDir
  exact (ExtendedClientInfo.decode_safe _).bind fun _ => pure_safe _ 0

/-- What is read could have been sent. -/
theorem decode_yields : Yields decode Clean := by
  refine yields_after fun _ => yields_after fun codePage => yields_after fun word => ?_
  split
  · exact fail_yields _
  split
  · exact fail_yields _
  refine yields_after fun _ => yields_after fun _ => yields_after fun _ => yields_after fun _ => ?_
  refine yields_after fun _ => yields_after fun _ => ?_
  refine (readString_yields_clean _ _).bind fun domain domainClean => ?_
  refine (readString_yields_clean _ _).bind fun username usernameClean => ?_
  refine (readString_yields_clean _ _).bind fun password passwordClean => ?_
  refine (readString_yields_clean _ _).bind fun alternateShell alternateShellClean => ?_
  refine (readString_yields_clean _ _).bind fun workDir workDirClean => ?_
  refine (ExtendedClientInfo.decode_yields _).bind fun extraInfo extra => pure_yields ⟨?_, ?_, extra⟩
  · by_cases empty : domain = ""
    · simp only [if_pos empty]
      exact nofun
    · simp only [if_neg empty]
      exact fun same => empty (Option.some.inj same)
  · have told : nul ∉ ((if domain = "" then none else some domain).getD "").toList := by
      split
      · exact List.not_mem_nil
      · exact domainClean
    simp only [texts, List.forall_mem_cons]
    exact ⟨told, usernameClean, passwordClean, alternateShellClean, workDirClean, List.forall_mem_nil _⟩

private theorem short_of_encode {room : Nat} {written : Bytes} (ran : info.encode room = some (.ok written)) :
    info.Short := by
  obtain ⟨_, ran⟩ := Encoding.ensureSize_eq_ok ran
  obtain ⟨_, _, _, ran, _⟩ := Encoding.andThen_eq_ok ran
  obtain ⟨_, _, lengths, ran, _⟩ := Encoding.andThen_eq_ok ran
  obtain ⟨_, _, _, extra, _⟩ := Encoding.andThen_eq_ok ran
  refine ⟨fun text member => ?_, ExtendedClientInfo.short_of_encode extra⟩
  obtain ⟨_, _, written⟩ := Encoding.all_eq_ok lengths _ (List.mem_map_of_mem member)
  unfold writeLength at written
  split at written
  · assumption
  · cases written

end ClientInfo

namespace ClientInfoPdu
variable {pdu : ClientInfoPdu}

/-- The packet can be told and read: its header says what it is, and its texts
have nothing that is cut off and lengths that can be told. -/
structure Fits (pdu : ClientInfoPdu) : Prop where
  marked : pdu.securityHeader.contains infoPkt = true
  clean : pdu.clientInfo.Clean
  short : pdu.clientInfo.Short

def bytes (pdu : ClientInfoPdu) : Bytes :=
  littleEndian 2 pdu.securityHeader.bits.toNat ++ [0, 0] ++ pdu.clientInfo.bytes

theorem bytes_length (pdu : ClientInfoPdu) : pdu.bytes.length = pdu.size := by
  rw [bytes, size, List.length_append, List.length_append, littleEndian_length, pdu.clientInfo.bytes_length]
  rfl

/-- What `encode` writes of a login. -/
theorem encode_writes (short : pdu.clientInfo.Short) : pdu.encode.Writes pdu.bytes := by
  have long : 22 ≤ pdu.bytes.length := by
    rw [bytes_length, size, ClientInfo.size]
    omega
  apply Encoding.Writes.ensureSize _ _ long
  apply ((Encoding.write_writes _).ensureSize _ _).andThen (ClientInfo.encode_writes short)
  rw [List.length_append, littleEndian_length]
  exact Nat.le_refl 4

/-- A login is read back. -/
theorem decode_finishes (fits : pdu.Fits) : Finishes decode pdu.bytes pdu := by
  have long : 22 ≤ pdu.bytes.length := by
    rw [bytes_length, size, ClientInfo.size]
    omega
  apply Finishes.ensureSize _ long
  apply Finishes.ensureSize _ (Nat.le_trans (by decide) long)
  rw [bytes, List.append_assoc]
  apply (readU16_reads (.ofBitVec pdu.securityHeader.bits)).bind_finishes
  rw [UInt16.toBitVec_ofBitVec, Flags.fromBits_bits]
  apply (readU16_reads 0).bind_finishes
  rw [fits.marked]
  exact (ClientInfo.decode_finishes fits.clean fits.short).map _

/-- A login is read without reading beyond the buffer. -/
theorem decode_safe : SafeFrom 0 decode := by
  apply ensureSize_safe
  refine SafeFrom.weaken ?_ (Nat.zero_le 22)
  apply ensureSize_safe
  apply readU16_takes.bind_safe 2
  intro word
  split
  · exact fail_safe _ 2
  apply readU16_takes.bind_safe 0
  intro flagsHi
  split
  · exact fail_safe _ 0
  · exact ClientInfo.decode_safe.bind fun _ => pure_safe _ 0

/-- A login that is accepted has its flag, and texts that could have been sent. -/
theorem decode_yields :
    Yields decode fun pdu => pdu.securityHeader.contains infoPkt = true ∧ pdu.clientInfo.Clean := by
  refine yields_after fun _ => yields_after fun _ => yields_after fun word => ?_
  split
  · exact fail_yields _
  refine yields_after fun _ => ?_
  split
  · exact fail_yields _
  · rename_i marked
    refine ClientInfo.decode_yields.bind fun clientInfo clean => pure_yields ⟨?_, clean⟩
    simpa using marked

/-- A login that was encoded has lengths that fit. -/
theorem short_of_encode {room : Nat} {written : Bytes} (ran : pdu.encode room = some (.ok written)) :
    pdu.clientInfo.Short := by
  obtain ⟨_, ran⟩ := Encoding.ensureSize_eq_ok ran
  obtain ⟨_, _, _, ran, _⟩ := Encoding.andThen_eq_ok ran
  exact ClientInfo.short_of_encode ran

end ClientInfoPdu
end Packets

/-- A packet is read back out of its bytes just where it fits; no bytes make the
server panic, and what it reads out of any is clean. -/
theorem credentials_round_trip_iff_fits :
    (∀ pdu : ClientInfoPdu, (∃ bytes, pdu.encode pdu.size = some (.ok bytes) ∧ bytes.length = pdu.size ∧
      ClientInfoPdu.decode bytes = some (.ok (pdu, []))) ↔ pdu.Fits) ∧
    (∀ bytes, ClientInfoPdu.decode bytes ≠ none) ∧
    ∀ bytes pdu rest, ClientInfoPdu.decode bytes = some (.ok (pdu, rest)) →
      pdu.securityHeader.contains ClientInfoPdu.infoPkt = true ∧ pdu.clientInfo.Clean := by
  refine ⟨fun pdu => ⟨?_, ?_⟩, fun bytes => ClientInfoPdu.decode_safe bytes (Nat.zero_le _),
    ClientInfoPdu.decode_yields⟩
  · rintro ⟨bytes, encoded, _, decoded⟩
    obtain ⟨marked, clean⟩ := ClientInfoPdu.decode_yields bytes pdu [] decoded
    exact ⟨marked, clean, ClientInfoPdu.short_of_encode encoded⟩
  · intro fits
    have written := ClientInfoPdu.encode_writes fits.short _ (Nat.le_of_eq pdu.bytes_length)
    exact ⟨pdu.bytes, written, pdu.bytes_length, ClientInfoPdu.decode_finishes fits⟩

end Osxrdp.InfoPacket
