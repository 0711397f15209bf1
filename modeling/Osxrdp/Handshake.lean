import Mathlib.Data.Finset.Basic
import Osxrdp.FramePipeline
import Osxrdp.Runs

/-! The acceptor of the vendored `ironrdp-acceptor`: its state machine with the
two nested sequences. The PDU decoders are a parameter. What encoding an answer
gives, and the accounts the authenticator looks at, come in with each step. -/
namespace Osxrdp.Handshake

/-- A set of bit flags. -/
abbrev SecurityProtocol := UInt32

namespace SecurityProtocol

def ssl : SecurityProtocol := 0x1
def hybrid : SecurityProtocol := 0x2
def hybridEx : SecurityProtocol := 0x8

def intersects (flags other : SecurityProtocol) : Bool := flags &&& other != 0

end SecurityProtocol

/-- The flags of the client's core data, any of which may be set. -/
abbrev ClientEarlyCapabilityFlags := UInt16

namespace ClientEarlyCapabilityFlags

def supportMonitorLayoutPdu : ClientEarlyCapabilityFlags := 0x0040
def supportSkipChanneljoin : ClientEarlyCapabilityFlags := 0x0800

def contains (flags other : ClientEarlyCapabilityFlags) : Bool := flags &&& other == other

end ClientEarlyCapabilityFlags

/-- A channel that the client asks for. -/
structure ChannelDef where
  name : String
  options : UInt32
  deriving DecidableEq, Repr

/-- Of the capability sets the acceptor changes only the bitmap's. -/
inductive CapabilitySet where
  | bitmap (desktopWidth desktopHeight : UInt16)
  | other (contents : Bytes)
  deriving DecidableEq, Repr

/-- The user's name, password and domain, as the client sent them. -/
structure Credentials where
  username : String
  password : String
  domain : Option String
  deriving DecidableEq, Repr

/-- The settings in the client's first message of the connection proper. -/
structure ConnectInitial where
  earlyCapabilityFlags : Option ClientEarlyCapabilityFlags
  channels : Option (List ChannelDef)
  deriving DecidableEq, Repr

/-- A message of the multipoint layer, as far as the acceptor tells them apart. -/
inductive McsMessage where
  | sendDataRequest (userData : Bytes)
  | disconnectProviderUltimatum
  | other
  deriving DecidableEq, Repr

/-- A message on the input and output channel, as far as the acceptor tells them apart. -/
inductive ShareControlPdu where
  | clientConfirmActive (capabilitySets : List CapabilitySet)
  | fontList
  | other
  deriving DecidableEq, Repr

/-- The decoders, each with the part of its PDU that the acceptor reads. -/
structure Codec where
  connectionRequest : Bytes → Option SecurityProtocol
  x224Data : Bytes → Option Bytes
  connectInitial : Bytes → Option ConnectInitial
  erectDomainPdu : Bytes → Option Unit
  attachUserRequest : Bytes → Option Unit
  channelJoinRequest : Bytes → Option UInt16
  sendDataRequest : Bytes → Option Bytes
  clientInfoPdu : Bytes → Option Credentials
  mcsMessage : Bytes → Option McsMessage
  shareControlHeader : Bytes → Option ShareControlPdu

/-- Why a step fails. -/
inductive ConnectorError where
  | decode
  | encode
  | general (description : String)
  | reason (context : String)
  deriving DecidableEq, Repr

/-- What a step has written. -/
inductive Written where
  | nothing
  | size (written : Nat)
  deriving DecidableEq, Repr

/-- `Written::from_size` -/
def Written.fromSize : Nat → Except ConnectorError Written
  | 0 => .error (.general "invalid written length")
  | written => .ok (.size written)

/-- One call of `step`: its buffer, what encoding the answer gives if it comes
to that, and the state of the accounts while the authenticator is asked. -/
structure Received (δ : Type) where
  input : Bytes
  encoded : Except ConnectorError Nat
  directory : δ

/-- The answer is written, or the step fails. -/
def Received.written {δ : Type} (received : Received δ) : Except ConnectorError Written :=
  received.encoded.bind Written.fromSize

section ChannelConnection

/-- Which channel joins are waited for. -/
inductive ChannelConnectionState where
  | consumed
  | waitErectDomainRequest
  | waitAttachUserRequest
  | sendAttachUserConfirm
  | waitChannelJoinRequest (remaining : Finset UInt16)
  | sendChannelJoinConfirm (remaining : Finset UInt16) (channelId : UInt16)
  | allJoined
  deriving DecidableEq

/-- The joins of the user's channel, the input and output channel and all others. -/
structure ChannelConnectionSequence where
  state : ChannelConnectionState
  userChannelId : UInt16
  channelIds : Option (Finset UInt16)
  deriving DecidableEq

namespace ChannelConnectionSequence

/-- Every channel is to be joined. -/
def new (userChannelId ioChannelId : UInt16) (otherChannels : List UInt16) : ChannelConnectionSequence where
  state := .waitErectDomainRequest
  userChannelId := userChannelId
  channelIds := some (userChannelId :: ioChannelId :: otherChannels).toFinset

/-- A client may skip the joins. -/
def skipChannelJoin (userChannelId : UInt16) : ChannelConnectionSequence :=
  { state := .waitErectDomainRequest, userChannelId, channelIds := none }

def isDone (sequence : ChannelConnectionSequence) : Bool := sequence.state == .allJoined

/-- `none` is a panic: there is no step from the first state or the last. -/
def step {δ : Type} (codec : Codec) (received : Received δ) (sequence : ChannelConnectionSequence) :
    Option (Except ConnectorError (Written × ChannelConnectionSequence)) :=
  match sequence.state with
  | .consumed | .allJoined => none
  | .waitErectDomainRequest => some <| match codec.erectDomainPdu received.input with
    | none => .error .decode
    | some () => .ok (.nothing, { sequence with state := .waitAttachUserRequest })
  | .waitAttachUserRequest => some <| match codec.attachUserRequest received.input with
    | none => .error .decode
    | some () => .ok (.nothing, { sequence with state := .sendAttachUserConfirm })
  | .sendAttachUserConfirm => some <| received.written.map fun written =>
    (written, { sequence with
      channelIds := none,
      state := match sequence.channelIds with
        | some channelIds => .waitChannelJoinRequest channelIds
        | none => .allJoined })
  | .waitChannelJoinRequest remaining => some <| match codec.channelJoinRequest received.input with
    | none => .error .decode
    | some channelId =>
      if channelId ∈ remaining then
        .ok (.nothing,
          { sequence with state := .sendChannelJoinConfirm (remaining.erase channelId) channelId })
      else .error (.reason "ChannelJoinConfirm")
  | .sendChannelJoinConfirm remaining _ => some <| received.written.map fun written =>
    (written, { sequence with
      state := if remaining = ∅ then .allJoined else .waitChannelJoinRequest remaining })

end ChannelConnectionSequence
end ChannelConnection

section Finalization

/-- The messages that end the connection sequence, in their order. -/
inductive FinalizationState where
  | consumed
  | waitSynchronize
  | waitControlCooperate
  | waitRequestControl
  | waitFontList
  | sendSynchronizeConfirm
  | sendControlCooperateConfirm
  | sendGrantedControlConfirm
  | sendFontMap
  | finished
  deriving DecidableEq, Repr

/-- `FinalizationSequence`. `input_events` is what came before the font list. -/
structure FinalizationSequence where
  state : FinalizationState
  userChannelId : UInt16
  ioChannelId : UInt16
  inputEvents : List Bytes
  deriving DecidableEq, Repr

/-- `decode_share_control` -/
def decodeShareControl (codec : Codec) (input : Bytes) : Option ShareControlPdu :=
  (codec.sendDataRequest input).bind codec.shareControlHeader

namespace FinalizationSequence

/-- `FinalizationSequence::new` -/
def new (userChannelId ioChannelId : UInt16) : FinalizationSequence :=
  { state := .waitSynchronize, userChannelId, ioChannelId, inputEvents := [] }

def isDone (sequence : FinalizationSequence) : Bool := sequence.state == .finished

/-- The first two messages are not looked at. While the font list is waited
for, any other message is kept as an input event. -/
def step {δ : Type} (codec : Codec) (received : Received δ) (sequence : FinalizationSequence) :
    Option (Except ConnectorError (Written × FinalizationSequence)) :=
  let send (state : FinalizationState) :=
    some (received.written.map fun written => (written, { sequence with state }))
  match sequence.state with
  | .consumed | .finished => none
  | .waitSynchronize => some (.ok (.nothing, { sequence with state := .waitControlCooperate }))
  | .waitControlCooperate => some (.ok (.nothing, { sequence with state := .waitRequestControl }))
  | .waitRequestControl => some <| match decodeShareControl codec received.input with
    | none => .error .decode
    | some _ => .ok (.nothing, { sequence with state := .waitFontList })
  | .waitFontList => some <| match decodeShareControl codec received.input with
    | some .fontList => .ok (.nothing, { sequence with state := .sendSynchronizeConfirm })
    | _ => .ok (.nothing, { sequence with inputEvents := sequence.inputEvents ++ [received.input] })
  | .sendSynchronizeConfirm => send .sendControlCooperateConfirm
  | .sendControlCooperateConfirm => send .sendGrantedControlConfirm
  | .sendGrantedControlConfirm => send .sendFontMap
  | .sendFontMap => send .finished

end FinalizationSequence
end Finalization

section Connection

/-- The static channels of the client that the server has, with their ids. -/
abbrev Channels := List (UInt16 × ChannelDef)

/-- How far the connection sequence is. -/
inductive AcceptorState where
  | consumed
  | initiationWaitRequest
  | initiationSendConfirm (requestedProtocol : SecurityProtocol)
  | securityUpgrade (requestedProtocol protocol : SecurityProtocol)
  | credssp (requestedProtocol protocol : SecurityProtocol)
  | basicSettingsWaitInitial (requestedProtocol protocol : SecurityProtocol)
  | basicSettingsSendResponse (requestedProtocol protocol : SecurityProtocol)
    (earlyCapability : Option ClientEarlyCapabilityFlags)
    (channels : List (UInt16 × Option ChannelDef))
  | channelConnection (protocol : SecurityProtocol)
    (earlyCapability : Option ClientEarlyCapabilityFlags) (channels : Channels)
    (connection : ChannelConnectionSequence)
  | rdpSecurityCommencement (protocol : SecurityProtocol)
    (earlyCapability : Option ClientEarlyCapabilityFlags) (channels : Channels)
  | secureSettingsExchange (protocol : SecurityProtocol)
    (earlyCapability : Option ClientEarlyCapabilityFlags) (channels : Channels)
  | licensingExchange (earlyCapability : Option ClientEarlyCapabilityFlags) (channels : Channels)
  | capabilitiesSendServer (earlyCapability : Option ClientEarlyCapabilityFlags) (channels : Channels)
  | monitorLayoutSend (channels : Channels)
  | capabilitiesWaitConfirm (channels : Channels)
  | connectionFinalization (finalization : FinalizationSequence) (channels : Channels)
    (clientCapabilities : List CapabilitySet)
  | accepted (channels : Channels) (clientCapabilities : List CapabilitySet) (inputEvents : List Bytes)
  deriving DecidableEq

/-- The set that holds the static channels is a library's own. These are the
operations that are used of it; a channel goes in by its name. -/
class StaticChannelSet (σ : Type) where
  TypeId : Type
  new : σ
  insert : σ → String → σ
  getByChannelName : σ → String → Option TypeId
  attachChannelId : σ → TypeId → UInt16 → σ

/-- The names of the static channels, each with the id attached to it. -/
abbrev NamedChannels := List (String × Option UInt16)

instance : StaticChannelSet NamedChannels where
  TypeId := String
  new := []
  insert channels name := channels ++ [(name, none)]
  getByChannelName channels name := (channels.find? fun (known, _) => known == name).map Prod.fst
  attachChannelId channels name id := channels.map fun (known, attached) =>
    (known, if known = name then some id else attached)

/-- The authenticator consults the accounts as they are when it is called. -/
structure Acceptor (δ σ : Type) where
  state : AcceptorState
  security : SecurityProtocol
  ioChannelId : UInt16
  userChannelId : UInt16
  desktopSize : DesktopSize
  serverCapabilities : List CapabilitySet
  staticChannels : σ
  savedForReactivation : AcceptorState
  creds : Option Credentials
  authenticate : Option (δ → String → String → Bool)
  reactivation : Bool

/-- What `get_result` gives the server of an accepted client. -/
structure AcceptorResult (σ : Type) where
  staticChannels : σ
  capabilities : List CapabilitySet
  inputEvents : List Bytes
  userChannelId : UInt16
  ioChannelId : UInt16
  reactivation : Bool
  deriving DecidableEq, Repr

def ioChannelId : UInt16 := 1003
def userChannelId : UInt16 := 1002

/-- The strongest protocol that both sides have. -/
def negotiate (requestedProtocol security : SecurityProtocol) : Option SecurityProtocol :=
  let protocols := requestedProtocol &&& security
  if protocols.intersects .hybridEx then some .hybridEx
  else if protocols.intersects .hybrid then some .hybrid
  else if protocols.intersects .ssl then some .ssl
  else if security = 0 then some 0
  else none

/-- The ids of the client's channels, a channel that the server has none of
keeping its place, and the server's channels with their ids attached. -/
def joinChannels {σ : Type} [StaticChannelSet σ] (ioChannelId : UInt16) (staticChannels : σ)
    (channels : List ChannelDef) : List (UInt16 × Option ChannelDef) × σ :=
  let known := channels.map fun channel =>
    (channel, StaticChannelSet.getByChannelName staticChannels channel.name)
  known.zipIdx.foldl (fun (joined, staticChannels) ((channel, typeId), i) =>
    let channelId := i.toUInt16 + ioChannelId + 1
    match typeId with
    | some typeId => (joined ++ [(channelId, some channel)],
        StaticChannelSet.attachChannelId staticChannels typeId channelId)
    | none => (joined ++ [(channelId, none)], staticChannels)) ([], staticChannels)

/-- The bitmap capability takes the size of the desktop. -/
def CapabilitySet.resize (desktopSize : DesktopSize) : CapabilitySet → CapabilitySet
  | .bitmap _ _ => .bitmap desktopSize.width desktopSize.height
  | .other contents => .other contents

namespace Acceptor
variable {δ σ : Type}

/-- `Acceptor::new` -/
def new [StaticChannelSet σ] (security : SecurityProtocol) (desktopSize : DesktopSize)
    (capabilities : List CapabilitySet) (creds : Option Credentials) : Acceptor δ σ where
  security := security
  state := .initiationWaitRequest
  userChannelId := Handshake.userChannelId
  ioChannelId := Handshake.ioChannelId
  desktopSize := desktopSize
  serverCapabilities := capabilities
  staticChannels := StaticChannelSet.new
  savedForReactivation := .consumed
  creds := creds
  authenticate := none
  reactivation := false

/-- `set_authenticator` -/
def setAuthenticator (acceptor : Acceptor δ σ) (authenticator : δ → String → String → Bool) : Acceptor δ σ :=
  { acceptor with authenticate := some authenticator }

/-- `attach_static_channel` -/
def attachStaticChannel [StaticChannelSet σ] (acceptor : Acceptor δ σ) (name : String) : Acceptor δ σ :=
  { acceptor with staticChannels := StaticChannelSet.insert acceptor.staticChannels name }

/-- `new_deactivation_reactivation`: the sequence starts again at the capabilities, with a
new size. -/
def newDeactivationReactivation (consumed : Acceptor δ σ) (staticChannels : σ)
    (desktopSize : DesktopSize) : Except ConnectorError (Acceptor δ σ) :=
  match consumed.savedForReactivation with
  | .capabilitiesSendServer earlyCapability channels => .ok { consumed with
      state := .capabilitiesSendServer earlyCapability channels
      desktopSize := desktopSize
      serverCapabilities := consumed.serverCapabilities.map (CapabilitySet.resize desktopSize)
      staticChannels := staticChannels
      savedForReactivation := .capabilitiesSendServer earlyCapability channels
      reactivation := true }
  | _ => .error (.general "invalid acceptor state")

/-- `get_result`; any other state is put back. -/
def getResult [StaticChannelSet σ] (acceptor : Acceptor δ σ) : Option (AcceptorResult σ) × Acceptor δ σ :=
  match acceptor.state with
  | .accepted _ clientCapabilities inputEvents =>
    (some {
      staticChannels := acceptor.staticChannels
      capabilities := clientCapabilities
      inputEvents := inputEvents
      userChannelId := acceptor.userChannelId
      ioChannelId := acceptor.ioChannelId
      reactivation := acceptor.reactivation },
      { acceptor with state := .consumed, staticChannels := StaticChannelSet.new })
  | _ => (none, acceptor)

/-- The check of the credentials in a `ClientInfoPdu`. The domain is ignored. -/
def authOk (acceptor : Acceptor δ σ) (directory : δ) (creds : Credentials) : Bool :=
  match acceptor.authenticate with
  | some authenticator => authenticator directory creds.username creds.password
  | none => match acceptor.creds with
    | none => false
    | some expected => expected.username == creds.username && expected.password == creds.password

/-- What `step` returns, and the acceptor after it. -/
abbrev Stepped (δ σ : Type) := Except ConnectorError Written × Acceptor δ σ

/-- The state was taken out before the error. -/
def fail (acceptor : Acceptor δ σ) (error : ConnectorError) : Stepped δ σ :=
  (.error error, { acceptor with state := .consumed })

/-- The state moves on without an answer. -/
def goto (acceptor : Acceptor δ σ) (state : AcceptorState) : Stepped δ σ :=
  (.ok .nothing, { acceptor with state })

/-- The step's answer is written and the state moves on. -/
def send (acceptor : Acceptor δ σ) (received : Received δ) (state : AcceptorState) : Stepped δ σ :=
  match received.written with
  | .error error => acceptor.fail error
  | .ok written => (.ok written, { acceptor with state })

/-- The answer to the client's request: the protocol chosen. -/
def initiationSendConfirm (acceptor : Acceptor δ σ) (received : Received δ)
    (requestedProtocol : SecurityProtocol) : Stepped δ σ :=
  match negotiate requestedProtocol acceptor.security with
  | none => acceptor.fail (.general "failed to negotiate security protocol")
  | some protocol => acceptor.send received (.securityUpgrade requestedProtocol protocol)

/-- The upgrade to TLS is done. CredSSP follows where it was chosen. -/
def securityUpgrade (acceptor : Acceptor δ σ) (requestedProtocol protocol : SecurityProtocol) : Stepped δ σ :=
  if protocol.intersects (.hybrid ||| .hybridEx) then acceptor.goto (.credssp requestedProtocol protocol)
  else acceptor.goto (.basicSettingsWaitInitial requestedProtocol protocol)

/-- `none` is the panic on more channels than there are ids. -/
def basicSettingsWaitInitial [StaticChannelSet σ] (codec : Codec) (acceptor : Acceptor δ σ) (received : Received δ)
    (requestedProtocol protocol : SecurityProtocol) : Option (Stepped δ σ) :=
  match (codec.x224Data received.input).bind codec.connectInitial with
  | none => some (acceptor.fail .decode)
  | some settingsInitial =>
    let channels := settingsInitial.channels.getD []
    if channels.length ≤ 65536 then
      let (joined, staticChannels) := joinChannels acceptor.ioChannelId acceptor.staticChannels channels
      some ({ acceptor with staticChannels }.goto (.basicSettingsSendResponse requestedProtocol protocol
        settingsInitial.earlyCapabilityFlags joined))
    else none

/-- The ids are told to the client. A client that can skips the joins of its channels. -/
def basicSettingsSendResponse (acceptor : Acceptor δ σ) (received : Received δ) (protocol : SecurityProtocol)
    (earlyCapability : Option ClientEarlyCapabilityFlags)
    (channels : List (UInt16 × Option ChannelDef)) : Stepped δ σ :=
  let channelIds := channels.map fun (id, _) => id
  let skipChannelJoin := earlyCapability.any (·.contains .supportSkipChanneljoin)
  acceptor.send received (.channelConnection protocol earlyCapability
    (channels.filterMap fun (id, channel) => channel.map fun channel => (id, channel))
    (if skipChannelJoin then .skipChannelJoin acceptor.userChannelId
      else .new acceptor.userChannelId acceptor.ioChannelId channelIds))

/-- A step of the channel joins. -/
def channelConnection (codec : Codec) (acceptor : Acceptor δ σ) (received : Received δ)
    (protocol : SecurityProtocol) (earlyCapability : Option ClientEarlyCapabilityFlags)
    (channels : Channels) (connection : ChannelConnectionSequence) : Option (Stepped δ σ) :=
  (connection.step codec received).map fun
    | .error error => acceptor.fail error
    | .ok (written, connection) => (.ok written, { acceptor with
        state := if connection.isDone then .rdpSecurityCommencement protocol earlyCapability channels
          else .channelConnection protocol earlyCapability channels connection })

/-- The credentials are checked unless CredSSP has checked them. A refusal is
sent to the client before the step fails. -/
def secureSettingsExchange (codec : Codec) (acceptor : Acceptor δ σ) (received : Received δ)
    (protocol : SecurityProtocol) (earlyCapability : Option ClientEarlyCapabilityFlags)
    (channels : Channels) : Stepped δ σ :=
  match (codec.sendDataRequest received.input).bind codec.clientInfoPdu with
  | none => acceptor.fail .decode
  | some creds =>
    if protocol.intersects (.hybrid ||| .hybridEx) = false ∧
        acceptor.authOk received.directory creds = false then
      match received.encoded with
      | .error error => acceptor.fail error
      | .ok _ => acceptor.fail (.general "invalid credentials")
    else acceptor.goto (.licensingExchange earlyCapability channels)

/-- The state to come back to is saved once the license is encoded. -/
def licensingExchange (acceptor : Acceptor δ σ) (received : Received δ)
    (earlyCapability : Option ClientEarlyCapabilityFlags) (channels : Channels) : Stepped δ σ :=
  match received.encoded with
  | .error error => acceptor.fail error
  | .ok _ => { acceptor with
      savedForReactivation := .capabilitiesSendServer earlyCapability channels }.send received
        (.capabilitiesSendServer earlyCapability channels)

/-- The server's capabilities are sent. The monitor layout follows for a client that asked
for it. -/
def capabilitiesSendServer (acceptor : Acceptor δ σ) (received : Received δ)
    (earlyCapability : Option ClientEarlyCapabilityFlags) (channels : Channels) : Stepped δ σ :=
  acceptor.send received (if earlyCapability.any (·.contains .supportMonitorLayoutPdu)
    then .monitorLayoutSend channels else .capabilitiesWaitConfirm channels)

/-- During a reactivation, what cannot be decoded is dropped. -/
def dropOrFail (acceptor : Acceptor δ σ) : Stepped δ σ :=
  if acceptor.reactivation then (.ok .nothing, acceptor) else acceptor.fail .decode

/-- The client's capabilities are waited for. Other multipoint messages are passed over. -/
def capabilitiesWaitConfirm (codec : Codec) (acceptor : Acceptor δ σ) (received : Received δ)
    (channels : Channels) : Stepped δ σ :=
  match codec.mcsMessage received.input with
  | none => acceptor.dropOrFail
  | some (.sendDataRequest userData) => match codec.shareControlHeader userData with
    | none => acceptor.dropOrFail
    | some (.clientConfirmActive capabilitySets) => acceptor.goto (.connectionFinalization
        (.new acceptor.userChannelId acceptor.ioChannelId) channels capabilitySets)
    | some _ => acceptor.fail (.general "expected client confirm active")
  | some .disconnectProviderUltimatum => acceptor.fail (.reason "received disconnect ultimatum")
  | some .other => (.ok .nothing, acceptor)

/-- A step of the finalization. -/
def connectionFinalization (codec : Codec) (acceptor : Acceptor δ σ) (received : Received δ)
    (finalization : FinalizationSequence) (channels : Channels)
    (clientCapabilities : List CapabilitySet) : Option (Stepped δ σ) :=
  (finalization.step codec received).map fun
    | .error error => acceptor.fail error
    | .ok (written, finalization) => (.ok written, { acceptor with
        state := if finalization.isDone then
            .accepted channels clientCapabilities finalization.inputEvents
          else .connectionFinalization finalization channels clientCapabilities })

/-- `none` is a panic: there is no step from a consumed or an accepted state. -/
def step [StaticChannelSet σ] (codec : Codec) (acceptor : Acceptor δ σ) (received : Received δ) :
    Option (Stepped δ σ) :=
  match acceptor.state with
  | .consumed | .accepted _ _ _ => none
  | .initiationWaitRequest => some <| match codec.connectionRequest received.input with
    | none => acceptor.fail .decode
    | some protocol => acceptor.goto (.initiationSendConfirm protocol)
  | .initiationSendConfirm requestedProtocol => acceptor.initiationSendConfirm received requestedProtocol
  | .securityUpgrade requestedProtocol protocol => acceptor.securityUpgrade requestedProtocol protocol
  | .credssp requestedProtocol protocol =>
    acceptor.goto (.basicSettingsWaitInitial requestedProtocol protocol)
  | .basicSettingsWaitInitial requestedProtocol protocol =>
    acceptor.basicSettingsWaitInitial codec received requestedProtocol protocol
  | .basicSettingsSendResponse _ protocol earlyCapability channels =>
    acceptor.basicSettingsSendResponse received protocol earlyCapability channels
  | .channelConnection protocol earlyCapability channels connection =>
    acceptor.channelConnection codec received protocol earlyCapability channels connection
  | .rdpSecurityCommencement protocol earlyCapability channels =>
    acceptor.goto (.secureSettingsExchange protocol earlyCapability channels)
  | .secureSettingsExchange protocol earlyCapability channels =>
    acceptor.secureSettingsExchange codec received protocol earlyCapability channels
  | .licensingExchange earlyCapability channels =>
    acceptor.licensingExchange received earlyCapability channels
  | .capabilitiesSendServer earlyCapability channels =>
    acceptor.capabilitiesSendServer received earlyCapability channels
  | .monitorLayoutSend channels => acceptor.send received (.capabilitiesWaitConfirm channels)
  | .capabilitiesWaitConfirm channels => acceptor.capabilitiesWaitConfirm codec received channels
  | .connectionFinalization finalization channels clientCapabilities =>
    acceptor.connectionFinalization codec received finalization channels clientCapabilities

end Acceptor

/-- What the server does with the acceptor of a connection. -/
inductive Call (δ σ : Type) where
  | step (received : Received δ)
  | getResult
  | newDeactivationReactivation (staticChannels : σ) (desktopSize : DesktopSize)

/-- What the calls return. -/
inductive Returned (σ : Type) where
  | stepped (result : Except ConnectorError Written)
  | result (result : Option (AcceptorResult σ))
  | reactivated
  deriving DecidableEq

/-- A reactivation that is refused has used the acceptor up. -/
def step {δ σ : Type} [StaticChannelSet σ] (codec : Codec) :
    Runs.System (Acceptor δ σ) (Call δ σ) (Returned σ)
  | acceptor, .step received => (acceptor.step codec received).map fun (result, acceptor) =>
    (acceptor, [.stepped result])
  | acceptor, .getResult =>
    let (result, acceptor) := acceptor.getResult
    some (acceptor, [.result result])
  | acceptor, .newDeactivationReactivation staticChannels desktopSize =>
    match acceptor.newDeactivationReactivation staticChannels desktopSize with
    | .error _ => none
    | .ok acceptor => some (acceptor, [.reactivated])

end Connection
end Osxrdp.Handshake
