import Osxrdp.CredentialDelivery
import Osxrdp.InputBacklog
import Osxrdp.Nego

/-! A client that speaks the protocol is let in: whatever order it joins its
channels in, its credentials are asked about, and if they are approved of the
acceptor passes the gate and the connection is completed. -/
namespace Osxrdp.ConnectionCompletion
open AuthenticationGate (Admitted Answers Guarded guardedAcceptor)
open CredentialDelivery (Typed wired)
open Handshake (Acceptor ChannelConnectionSequence CapabilitySet Codec ConnectInitial ConnectorError NamedChannels
  Received SecurityProtocol StaticChannelSet Written)
open InfoPacket (ClientInfoPdu)
open InputBacklog (TakenForFontList sharePdu wireCodec)
open InputHandling (ClientFrame Server)
open Mcs (DomainMcsPdu McsMessage)
open ShareData (Foreign ShareControlHeader)
open Bytes (littleEndian)
open WireDecoding (Decoding)
open WireDecoding.Decoding
open WireEncoding (Encoding)

/-- `X224Data`: the user data of a TPDU as it is. -/
def x224Data : Decoding Bytes := Mcs.readX224 fun userDataSize => do
  ensureSize userDataSize
  readSlice userDataSize

/-- All decoders up to the login but that of the settings in the connect message
are those of the wire. -/
def spoken (codec : Codec) : Codec := wired { codec with
  connectionRequest := fun input =>
    (decoded Nego.ConnectionRequest.decode input).map fun request => .ofBitVec request.protocol.bits
  x224Data := decoded x224Data
  erectDomainPdu := fun input =>
    (decoded (Mcs.readX224 fun _ => Mcs.ErectDomainPdu.decode) input).map fun _ => ()
  attachUserRequest := decoded (Mcs.readX224 fun _ => Mcs.expectHeader .attachUserRequest)
  channelJoinRequest := fun input =>
    (decoded (Mcs.readX224 fun _ => Mcs.ChannelJoinRequest.decode) input).map (·.channelId) }

/-- A message, as far as the acceptor tells it apart. -/
def mcsMessage : McsMessage → Handshake.McsMessage
  | .sendDataRequest data => .sendDataRequest data.userData
  | .disconnectProviderUltimatum _ => .disconnectProviderUltimatum
  | _ => .other

/-- Those of what comes after the login, too. -/
def spokenToTheEnd {α : Type} (codec : Codec) (foreign : Foreign α) (confirmed : α → List CapabilitySet) : Codec :=
  spoken { wireCodec codec foreign confirmed with
    mcsMessage := fun input => (decoded Mcs.X224.decode input).map mcsMessage }

section Decoders
variable {codec : Codec}

private theorem connectionRequest_spoken {request : Nego.ConnectionRequest} (fits : request.Fits) :
    (spoken codec).connectionRequest request.bytes = some (.ofBitVec request.protocol.bits) := by
  have read := (Nego.ConnectionRequest.decode_reads fits).finishes.decoded_eq
  simp only [spoken, wired, read, Option.map_some]

private theorem erectDomain_spoken (pdu : Mcs.ErectDomainPdu) :
    (spoken codec).erectDomainPdu (Mcs.X224.bytes (.erectDomainRequest pdu)) = some () := by
  have body : Reads Mcs.ErectDomainPdu.decode (McsMessage.erectDomainRequest pdu).bytes pdu :=
    (Mcs.expectHeader_reads .erectDomainRequest (by decide)).bind
      ((Mcs.perReadU32_reads pdu.subHeight).bind ((Mcs.perReadU32_reads pdu.subInterval).map _))
  have whole : Reads (Mcs.readX224 fun _ => Mcs.ErectDomainPdu.decode)
      (Mcs.X224.bytes (.erectDomainRequest pdu)) pdu :=
    Mcs.X224.readX224_reads trivial body
  simp only [spoken, wired, whole.finishes.decoded_eq, Option.map_some]

private theorem attachUser_spoken : (spoken codec).attachUserRequest (Mcs.X224.bytes .attachUserRequest) =
    some () := by
  have body : Reads (Mcs.expectHeader .attachUserRequest) McsMessage.attachUserRequest.bytes () :=
    Mcs.expectHeader_reads .attachUserRequest (by decide)
  have whole : Reads (Mcs.readX224 fun _ => Mcs.expectHeader .attachUserRequest)
      (Mcs.X224.bytes .attachUserRequest) () :=
    Mcs.X224.readX224_reads trivial body
  simp only [spoken, wired, whole.finishes.decoded_eq]

private theorem channelJoin_spoken {userId : UInt16} (user : Mcs.baseChannelId ≤ userId) (channelId : UInt16) :
    (spoken codec).channelJoinRequest (Mcs.X224.bytes (.channelJoinRequest ⟨userId, channelId⟩)) =
      some channelId := by
  have body : Reads Mcs.ChannelJoinRequest.decode (McsMessage.channelJoinRequest ⟨userId, channelId⟩).bytes
      ⟨userId, channelId⟩ :=
    (Mcs.expectHeader_reads .channelJoinRequest (by decide)).bind
      ((Mcs.userBytes_reads user).bind ((Mcs.idBytes_reads channelId).map _))
  have whole : Reads (Mcs.readX224 fun _ => Mcs.ChannelJoinRequest.decode)
      (Mcs.X224.bytes (.channelJoinRequest ⟨userId, channelId⟩)) ⟨userId, channelId⟩ :=
    Mcs.X224.readX224_reads user body
  simp only [spoken, wired, whole.finishes.decoded_eq, Option.map_some]

end Decoders

section Steps
variable {δ σ : Type} [StaticChannelSet σ] {codec : Codec} {directory : δ} {acceptor next final : Acceptor δ σ}
  {input : Bytes} {inputs : List Bytes} {protocol : SecurityProtocol}
  {earlyCapability : Option Handshake.ClientEarlyCapabilityFlags} {channels : Handshake.Channels}

/-- A step of the acceptor for these bytes, whose answer is encoded if it comes to that. -/
def heard (directory : δ) (input : Bytes) : Received δ := ⟨input, .ok 1, directory⟩

/-- The acceptor is taken there by these inputs. -/
def Reaches (codec : Codec) (directory : δ) (acceptor : Acceptor δ σ) (inputs : List Bytes)
    (final : Acceptor δ σ) : Prop :=
  ∃ returned, Runs.run (Handshake.step codec) acceptor (inputs.map fun input => .step (heard directory input)) =
    some (final, returned)

private theorem reaches_nil : Reaches codec directory acceptor [] acceptor := ⟨[], rfl⟩

/-- A step in front of what is reached later. -/
theorem reaches_step {result : Except ConnectorError Written}
    (stepped : acceptor.step codec (heard directory input) = some (result, next))
    (later : Reaches codec directory next inputs final) :
    Reaches codec directory acceptor (input :: inputs) final := by
  obtain ⟨returned, ran⟩ := later
  have called : Handshake.step codec acceptor (.step (heard directory input)) =
      some (next, [.stepped result]) := by
    rw [Handshake.step, stepped]
    rfl
  exact ⟨_, Runs.run_cons.mpr ⟨next, _, returned, called, ran, rfl⟩⟩

/-- What is reached from what was reached. -/
theorem reaches_append {later : List Bytes} (first : Reaches codec directory acceptor inputs next)
    (second : Reaches codec directory next later final) :
    Reaches codec directory acceptor (inputs ++ later) final := by
  obtain ⟨before, ran⟩ := first
  obtain ⟨after, ranLater⟩ := second
  refine ⟨before ++ after, ?_⟩
  rw [List.map_append]
  exact Runs.run_append.mpr ⟨next, before, after, ran, ranLater, rfl⟩

/-- One step of the sequence that joins the channels is one of the acceptor. -/
theorem reaches_connection {sequence joined : ChannelConnectionSequence} {written : Written}
    (here : acceptor.state = .channelConnection protocol earlyCapability channels sequence)
    (stepped : sequence.step codec (heard directory input) = some (.ok (written, joined)))
    (later : Reaches codec directory { acceptor with
        state := if joined.isDone then .rdpSecurityCommencement protocol earlyCapability channels
          else .channelConnection protocol earlyCapability channels joined } inputs final) :
    Reaches codec directory acceptor (input :: inputs) final := by
  have moved : acceptor.step codec (heard directory input) = some (.ok written, { acceptor with
      state := if joined.isDone then .rdpSecurityCommencement protocol earlyCapability channels
        else .channelConnection protocol earlyCapability channels joined }) := by
    simp only [Acceptor.step, here, Acceptor.channelConnection, stepped]
    rfl
  exact reaches_step moved later

/-- The user is attached whether or not there are channels to join. -/
theorem attach_reaches (domain : Mcs.ErectDomainPdu) {userChannelId : UInt16} {channelIds : Option (Finset UInt16)}
    (waiting : acceptor.state = .channelConnection protocol earlyCapability channels
      ⟨.waitErectDomainRequest, userChannelId, channelIds⟩)
    (later : Reaches (spoken codec) directory { acceptor with
        state := channelIds.elim (.rdpSecurityCommencement protocol earlyCapability channels) fun channelIds =>
          .channelConnection protocol earlyCapability channels
            ⟨.waitChannelJoinRequest channelIds, userChannelId, none⟩ } inputs final) :
    Reaches (spoken codec) directory acceptor
      ([Mcs.X224.bytes (.erectDomainRequest domain), Mcs.X224.bytes .attachUserRequest, []] ++ inputs) final := by
  have erected : ChannelConnectionSequence.step (spoken codec)
      (heard directory (Mcs.X224.bytes (.erectDomainRequest domain)))
      ⟨.waitErectDomainRequest, userChannelId, channelIds⟩ =
        some (.ok (.nothing, ⟨.waitAttachUserRequest, userChannelId, channelIds⟩)) := by
    simp only [ChannelConnectionSequence.step, heard, erectDomain_spoken]
  have attached : ChannelConnectionSequence.step (spoken codec)
      (heard directory (Mcs.X224.bytes .attachUserRequest)) ⟨.waitAttachUserRequest, userChannelId, channelIds⟩ =
        some (.ok (.nothing, ⟨.sendAttachUserConfirm, userChannelId, channelIds⟩)) := by
    simp only [ChannelConnectionSequence.step, heard, attachUser_spoken]
  have confirmed : ChannelConnectionSequence.step (spoken codec) (heard directory [])
      ⟨.sendAttachUserConfirm, userChannelId, channelIds⟩ =
        some (.ok (.size 1, ⟨channelIds.elim .allJoined .waitChannelJoinRequest, userChannelId, none⟩)) := by
    cases channelIds with
    | none => rfl
    | some channelIds => rfl
  refine reaches_connection waiting erected ?_
  refine reaches_connection rfl attached ?_
  refine reaches_connection rfl confirmed ?_
  cases channelIds with
  | none => exact later
  | some channelIds => exact later

/-- The requests to join the channels, an answer after each. -/
def joinInputs (userId : UInt16) (order : List UInt16) : List Bytes :=
  order.flatMap fun channelId => [Mcs.X224.bytes (.channelJoinRequest ⟨userId, channelId⟩), []]

/-- In whatever order the channels are joined, when all are the sequence is done. -/
theorem joins_reach {userId userChannelId : UInt16} (user : Mcs.baseChannelId ≤ userId) (order : List UInt16)
    (distinct : order.Nodup) (nonempty : order ≠ [])
    (waiting : acceptor.state = .channelConnection protocol earlyCapability channels
      ⟨.waitChannelJoinRequest order.toFinset, userChannelId, none⟩)
    (later : Reaches (spoken codec) directory
      { acceptor with state := .rdpSecurityCommencement protocol earlyCapability channels } inputs final) :
    Reaches (spoken codec) directory acceptor (joinInputs userId order ++ inputs) final := by
  induction order generalizing acceptor with
  | nil => exact absurd rfl nonempty
  | cons channelId rest ih =>
    obtain ⟨fresh, distinct⟩ := List.nodup_cons.mp distinct
    have left : (channelId :: rest).toFinset.erase channelId = rest.toFinset := by
      rw [List.toFinset_cons, Finset.erase_insert (by simpa using fresh)]
    let sending : ChannelConnectionSequence :=
      ⟨.sendChannelJoinConfirm rest.toFinset channelId, userChannelId, none⟩
    have joined : ChannelConnectionSequence.step (spoken codec)
        (heard directory (Mcs.X224.bytes (.channelJoinRequest ⟨userId, channelId⟩)))
        ⟨.waitChannelJoinRequest (channelId :: rest).toFinset, userChannelId, none⟩ =
          some (.ok (.nothing, sending)) := by
      simp only [ChannelConnectionSequence.step, heard, channelJoin_spoken user, left]
      rw [if_pos (by simp)]
    have confirmed : sending.step (spoken codec) (heard directory []) = some (.ok (.size 1, ⟨if rest.toFinset = ∅
        then .allJoined else .waitChannelJoinRequest rest.toFinset, userChannelId, none⟩)) := rfl
    refine reaches_connection waiting joined (reaches_connection rfl confirmed ?_)
    cases rest with
    | nil => exact later
    | cons second rest =>
      have more : (second :: rest).toFinset ≠ ∅ := by simp
      simp only [if_neg more]
      exact ih distinct (List.cons_ne_nil _ _) rfl later

end Steps

section Client

/-- What a client has to say up to its credentials. -/
structure Client where
  request : Nego.ConnectionRequest
  initial : Bytes
  domain : Mcs.ErectDomainPdu
  userId : UInt16
  order : List UInt16
  pdu : ClientInfoPdu
  login : Mcs.SendData

/-- Its messages up to the settings, and where the acceptor has something to say, nothing. -/
def Client.opening (client : Client) : List Bytes := [client.request.bytes, [], [], client.initial, []]

/-- The messages that join the channels. -/
def Client.joining (client : Client) : List Bytes :=
  [Mcs.X224.bytes (.erectDomainRequest client.domain), Mcs.X224.bytes .attachUserRequest, []] ++
    joinInputs client.userId client.order

/-- The login as it is on the wire. -/
def Client.loginInput (client : Client) : Bytes := Mcs.X224.bytes (.sendDataRequest client.login)

/-- All that the client says up to its login. -/
def Client.inputs (client : Client) : List Bytes :=
  client.opening ++ (client.joining ++ [[]]) ++ [client.loginInput]

variable {δ σ : Type} [StaticChannelSet σ] {codec : Codec} {directory : δ} {acceptor : Acceptor δ σ} {client : Client}
  {settings : ConnectInitial}

/-- The channels that there are, each with its id. -/
def joined (acceptor : Acceptor δ σ) (settings : ConnectInitial) :
    List (UInt16 × Option Handshake.ChannelDef) × σ :=
  Handshake.joinChannels acceptor.ioChannelId acceptor.staticChannels (settings.channels.getD [])

/-- The client may skip the joins. -/
def skips (settings : ConnectInitial) : Bool :=
  settings.earlyCapabilityFlags.any (·.contains .supportSkipChanneljoin)

/-- The channels that the acceptor waits for. -/
def toJoin (acceptor : Acceptor δ σ) (settings : ConnectInitial) : List UInt16 :=
  if skips settings then []
  else acceptor.userChannelId :: acceptor.ioChannelId :: (joined acceptor settings).1.map fun (id, _) => id

/-- The channels of the client that the server has, too. -/
def known (acceptor : Acceptor δ σ) (settings : ConnectInitial) : Handshake.Channels :=
  (joined acceptor settings).1.filterMap fun (id, channel) => channel.map fun channel => (id, channel)

/-- The acceptor once the settings have been exchanged. -/
def settled (acceptor : Acceptor δ σ) (settings : ConnectInitial) : Acceptor δ σ := { acceptor with
  staticChannels := (joined acceptor settings).2
  state := (.channelConnection .ssl settings.earlyCapabilityFlags (known acceptor settings)
    ⟨.waitErectDomainRequest, acceptor.userChannelId,
      if skips settings then none else some (toJoin acceptor settings).toFinset⟩) }

/-- The client asks for TLS, joins each channel that is waited for once, in any
order, and logs in. -/
structure Speaks (codec : Codec) (acceptor : Acceptor δ σ) (client : Client) (settings : ConnectInitial) : Prop where
  request : client.request.Fits
  tls : client.request.protocol.contains 1 = true
  initial : (decoded x224Data client.initial).bind codec.connectInitial = some settings
  few : (settings.channels.getD []).length ≤ 65536
  user : Mcs.baseChannelId ≤ client.userId
  distinct : client.order.Nodup
  joins : ∀ channelId, channelId ∈ client.order ↔ channelId ∈ toJoin acceptor settings
  login : Typed client.pdu client.loginInput

private theorem negotiate_tls {requested : SecurityProtocol}
    (tls : requested &&& SecurityProtocol.ssl = SecurityProtocol.ssl) :
    Handshake.negotiate requested .ssl = some .ssl := by
  unfold Handshake.negotiate
  rw [tls]
  rfl

private theorem requested_tls (tls : client.request.protocol.contains 1 = true) :
    (UInt32.ofBitVec client.request.protocol.bits : SecurityProtocol) &&& SecurityProtocol.ssl =
      SecurityProtocol.ssl := by
  apply UInt32.toBitVec_inj.mp
  exact of_decide_eq_true tls

/-- The acceptor answers the request and hears the settings. -/
theorem settings_reached (start : acceptor.state = .initiationWaitRequest) (security : acceptor.security = .ssl)
    (speaks : Speaks codec acceptor client settings) :
    Reaches (spoken codec) directory acceptor client.opening (settled acceptor settings) := by
  have requested : (spoken codec).connectionRequest client.request.bytes = some _ :=
    connectionRequest_spoken speaks.request
  have agreed := negotiate_tls (requested_tls speaks.tls)
  generalize (UInt32.ofBitVec client.request.protocol.bits : SecurityProtocol) = asked at requested agreed
  have first : acceptor.step (spoken codec) (heard directory client.request.bytes) =
      some (acceptor.goto (.initiationSendConfirm asked)) := by
    simp only [Acceptor.step, start, heard, requested]
  have second : Acceptor.step (spoken codec) { acceptor with state := .initiationSendConfirm asked }
      (heard directory []) = some (.ok (.size 1), { acceptor with state := .securityUpgrade asked .ssl }) := by
    simp only [Acceptor.step, Acceptor.initiationSendConfirm, security, agreed]
    rfl
  have third : Acceptor.step (spoken codec) { acceptor with state := .securityUpgrade asked .ssl }
      (heard directory []) = some (.ok .nothing,
        { acceptor with state := .basicSettingsWaitInitial asked .ssl }) := rfl
  let answered := { acceptor with
    staticChannels := (joined acceptor settings).2
    state := .basicSettingsSendResponse asked .ssl settings.earlyCapabilityFlags (joined acceptor settings).1 }
  have told : ((spoken codec).x224Data client.initial).bind (spoken codec).connectInitial = some settings :=
    speaks.initial
  have fourth : Acceptor.step (spoken codec) { acceptor with state := .basicSettingsWaitInitial asked .ssl }
      (heard directory client.initial) = some (.ok .nothing, answered) := by
    simp only [Acceptor.step, Acceptor.basicSettingsWaitInitial, heard, told]
    rw [if_pos speaks.few]
    rfl
  have fifth : answered.step (spoken codec) (heard directory []) =
      some (.ok (.size 1), settled acceptor settings) := by
    have sequence : (if skips settings then ChannelConnectionSequence.skipChannelJoin acceptor.userChannelId
        else .new acceptor.userChannelId acceptor.ioChannelId ((joined acceptor settings).1.map fun (id, _) => id)) =
          ⟨.waitErectDomainRequest, acceptor.userChannelId,
            if skips settings then none else some (toJoin acceptor settings).toFinset⟩ := by
      unfold toJoin
      cases skips settings with
      | false => rfl
      | true => rfl
    rw [settled, ← sequence]
    rfl
  exact reaches_step first <| reaches_step second <| reaches_step third <| reaches_step fourth <|
    reaches_step fifth reaches_nil

/-- All channels are joined, or none is waited for. -/
theorem channels_joined (speaks : Speaks codec acceptor client settings) :
    Reaches (spoken codec) directory (settled acceptor settings) client.joining { settled acceptor settings with
      state := .rdpSecurityCommencement .ssl settings.earlyCapabilityFlags (known acceptor settings) } := by
  apply attach_reaches client.domain rfl
  have joins := speaks.joins
  unfold toJoin at joins ⊢
  cases skip : skips settings with
  | true =>
    have nothing : client.order = [] := by
      apply List.eq_nil_iff_forall_not_mem.mpr
      intro channelId member
      have waited := (joins channelId).mp member
      rw [if_pos skip] at waited
      exact List.not_mem_nil waited
    rw [nothing]
    exact reaches_nil
  | false =>
    have waits : ¬ skips settings = true := by
      rw [skip]
      exact Bool.false_ne_true
    simp only [if_neg waits] at joins ⊢
    have all : (acceptor.userChannelId :: acceptor.ioChannelId ::
        (joined acceptor settings).1.map fun (id, _) => id).toFinset = client.order.toFinset := by
      ext channelId
      rw [List.mem_toFinset, List.mem_toFinset, joins]
    have nonempty : client.order ≠ [] :=
      List.ne_nil_of_mem ((joins acceptor.userChannelId).mpr List.mem_cons_self)
    rw [← List.append_nil (joinInputs _ _)]
    exact joins_reach speaks.user client.order speaks.distinct nonempty (by rw [← all]; rfl) reaches_nil

/-- The acceptor when it waits for the credentials. -/
def asking (acceptor : Acceptor δ σ) (settings : ConnectInitial) : Acceptor δ σ := { settled acceptor settings with
  state := .secureSettingsExchange .ssl settings.earlyCapabilityFlags (known acceptor settings) }

/-- The acceptor waits for the login when the channels are joined. -/
theorem credentials_reached (directory : δ) (start : acceptor.state = .initiationWaitRequest)
    (security : acceptor.security = .ssl) (speaks : Speaks codec acceptor client settings) :
    Reaches (spoken codec) directory acceptor (client.opening ++ (client.joining ++ [[]]))
      (asking acceptor settings) := by
  have commenced : Acceptor.step (spoken codec) { settled acceptor settings with
      state := .rdpSecurityCommencement .ssl settings.earlyCapabilityFlags (known acceptor settings) }
      (heard directory []) = some (.ok .nothing, asking acceptor settings) := rfl
  have closing := reaches_append (channels_joined speaks) (reaches_step commenced reaches_nil)
  exact reaches_append (settings_reached start security speaks) closing

/-- The acceptor stays guarded while it listens. -/
theorem guarded_of_reaches {authenticator : δ → String → String → Bool} {inputs : List Bytes}
    {middle : Acceptor δ σ} (guarded : Guarded authenticator acceptor)
    (reached : Reaches codec directory acceptor inputs middle) : Guarded authenticator middle := by
  obtain ⟨_, ran⟩ := reached
  exact Runs.invariant_of_step (fun acceptor _ => Guarded authenticator acceptor)
    (fun _ _ _ _ _ guarded called => AuthenticationGate.call_guarded guarded called) [] guarded ran

/-- The acceptor once the credentials are approved of. -/
def admitted (acceptor : Acceptor δ σ) (settings : ConnectInitial) : Acceptor δ σ := { asking acceptor settings with
  state := .licensingExchange settings.earlyCapabilityFlags (known acceptor settings) }

/-- An approved login goes past the gate. -/
theorem login_approved {authenticator : δ → String → String → Bool}
    (authenticate : (asking acceptor settings).authenticate = some authenticator)
    (login : Typed client.pdu client.loginInput)
    (approved : authenticator directory client.pdu.clientInfo.credentials.username
      client.pdu.clientInfo.credentials.password = true) :
    Reaches (spoken codec) directory (asking acceptor settings) [client.loginInput] (admitted acceptor settings) := by
  have stepped : (asking acceptor settings).step (spoken codec) (heard directory client.loginInput) = _ :=
    CredentialDelivery.approved_steps authenticate rfl login approved
  exact reaches_step stepped reaches_nil

/-- A refused login ends the connection. -/
theorem login_refused {authenticator : δ → String → String → Bool}
    (guarded : Guarded authenticator (asking acceptor settings)) (login : Typed client.pdu client.loginInput)
    (refused : authenticator directory client.pdu.clientInfo.credentials.username
      client.pdu.clientInfo.credentials.password = false) : ∃ final,
    Reaches (spoken codec) directory (asking acceptor settings) [client.loginInput] final ∧ ¬ Admitted final := by
  have answers : Answers (spoken codec) authenticator (asking acceptor settings)
      (heard directory client.loginInput) false :=
    ⟨_, _, _, _, rfl, CredentialDelivery.typed_wired login, refused⟩
  have stepped : (asking acceptor settings).step (spoken codec) (heard directory client.loginInput) = some
      ((asking acceptor settings).secureSettingsExchange (spoken codec) (heard directory client.loginInput) .ssl
        settings.earlyCapabilityFlags (known acceptor settings)) := rfl
  have shut := AuthenticationGate.refused_shut guarded answers stepped
  exact ⟨_, reaches_step stepped reaches_nil, shut.not_admitted⟩

/-- An approved client is let in. -/
theorem admitted_reached {authenticator : δ → String → String → Bool}
    (start : acceptor.state = .initiationWaitRequest) (guarded : Guarded authenticator acceptor)
    (speaks : Speaks codec acceptor client settings)
    (approved : authenticator directory client.pdu.clientInfo.credentials.username
      client.pdu.clientInfo.credentials.password = true) :
    Reaches (spoken codec) directory acceptor client.inputs (admitted acceptor settings) := by
  have reached := credentials_reached directory start guarded.security speaks
  have still := guarded_of_reaches guarded reached
  exact reaches_append reached (login_approved still.authenticate speaks.login approved)

end Client

section Closing
variable {δ σ : Type} [StaticChannelSet σ] {codec : Codec} {directory : δ} {acceptor final : Acceptor δ σ}
  {tail : List Bytes}
  {earlyCapability : Option Handshake.ClientEarlyCapabilityFlags} {channels : Handshake.Channels}
  {capabilities : List CapabilitySet}

/-- What a client says from its capabilities to its font list. -/
structure Closing where
  confirm : Bytes
  synchronize : Bytes
  cooperate : Bytes
  control : Bytes
  early : List Bytes
  fontList : Bytes

/-- The client asked to be told the monitors. -/
def tellsLayout (earlyCapability : Option Handshake.ClientEarlyCapabilityFlags) : Bool :=
  earlyCapability.any (·.contains .supportMonitorLayoutPdu)

/-- The acceptor sends a license, its capabilities and the layout before, and four answers after. -/
def Closing.inputs (closing : Closing) (earlyCapability : Option Handshake.ClientEarlyCapabilityFlags) : List Bytes :=
  [] :: [] :: ((if tellsLayout earlyCapability then [[]] else []) ++ (closing.confirm :: closing.synchronize ::
    closing.cooperate :: closing.control :: (closing.early ++ [closing.fontList, [], [], [], []])))

/-- Nothing but the last message is the font list. -/
structure Closes (codec : Codec) (closing : Closing) (capabilities : List CapabilitySet) : Prop where
  confirm : ∃ userData, codec.mcsMessage closing.confirm = some (.sendDataRequest userData) ∧
    codec.shareControlHeader userData = some (.clientConfirmActive capabilities)
  control : Handshake.decodeShareControl codec closing.control ≠ none
  early : ∀ input ∈ closing.early, Handshake.decodeShareControl codec input ≠ some .fontList
  fontList : Handshake.decodeShareControl codec closing.fontList = some .fontList

private theorem reaches_finalization {sequence next : Handshake.FinalizationSequence} {input : Bytes}
    {written : Written}
    (here : acceptor.state = .connectionFinalization sequence channels capabilities)
    (stepped : sequence.step codec (heard directory input) = some (.ok (written, next)))
    (later : Reaches codec directory { acceptor with
        state := if next.isDone then .accepted channels capabilities next.inputEvents
          else .connectionFinalization next channels capabilities } tail final) :
    Reaches codec directory acceptor (input :: tail) final := by
  have moved : acceptor.step codec (heard directory input) = some (.ok written, { acceptor with
      state := if next.isDone then .accepted channels capabilities next.inputEvents
        else .connectionFinalization next channels capabilities }) := by
    simp only [Acceptor.step, here, Acceptor.connectionFinalization, stepped]
    rfl
  exact reaches_step moved later

/-- What comes before the font list is kept in order. -/
theorem early_reaches {userChannelId ioChannelId : UInt16} {early events : List Bytes}
    (others : ∀ input ∈ early, Handshake.decodeShareControl codec input ≠ some .fontList)
    (here : acceptor.state = .connectionFinalization ⟨.waitFontList, userChannelId, ioChannelId, events⟩ channels
      capabilities)
    (later : Reaches codec directory { acceptor with state :=
      (.connectionFinalization ⟨.waitFontList, userChannelId, ioChannelId, events ++ early⟩ channels capabilities) }
        tail final) :
    Reaches codec directory acceptor (early ++ tail) final := by
  induction early generalizing acceptor events with
  | nil =>
    rw [List.append_nil, ← here] at later
    exact later
  | cons input rest ih =>
    obtain ⟨other, others⟩ := List.forall_mem_cons.mp others
    have kept : Handshake.FinalizationSequence.step codec (heard directory input)
        ⟨.waitFontList, userChannelId, ioChannelId, events⟩ =
          some (.ok (.nothing, ⟨.waitFontList, userChannelId, ioChannelId, events ++ [input]⟩)) := by
      simp only [Handshake.FinalizationSequence.step, heard]
    refine reaches_finalization here kept (ih others rfl ?_)
    rw [List.append_assoc]
    exact later

/-- The capabilities are confirmed after the license, and after the layout where it is told. -/
theorem confirm_reaches {confirm userData : Bytes}
    (message : codec.mcsMessage confirm = some (.sendDataRequest userData))
    (capable : codec.shareControlHeader userData = some (.clientConfirmActive capabilities))
    (here : acceptor.state = .licensingExchange earlyCapability channels)
    (later : Reaches codec directory { acceptor with
        savedForReactivation := .capabilitiesSendServer earlyCapability channels
        state := (.connectionFinalization (.new acceptor.userChannelId acceptor.ioChannelId) channels capabilities) }
      tail final) :
    Reaches codec directory acceptor
      ([] :: [] :: ((if tellsLayout earlyCapability then [[]] else []) ++ confirm :: tail)) final := by
  let saved := { acceptor with savedForReactivation := .capabilitiesSendServer earlyCapability channels }
  let told : Handshake.AcceptorState :=
    if tellsLayout earlyCapability then .monitorLayoutSend channels else .capabilitiesWaitConfirm channels
  have licensed : acceptor.step codec (heard directory []) = some (.ok (.size 1),
      { saved with state := .capabilitiesSendServer earlyCapability channels }) := by
    simp only [Acceptor.step, here, Acceptor.licensingExchange]
    rfl
  have offered : Acceptor.step codec { saved with state := .capabilitiesSendServer earlyCapability channels }
      (heard directory []) = some (.ok (.size 1), { saved with state := told }) := rfl
  have layout : Reaches codec directory { saved with state := told }
      (if tellsLayout earlyCapability then [[]] else [])
      { saved with state := .capabilitiesWaitConfirm channels } := by
    unfold told
    cases tellsLayout earlyCapability with
    | true => exact reaches_step rfl reaches_nil
    | false => exact reaches_nil
  have confirmed : Acceptor.step codec { saved with state := .capabilitiesWaitConfirm channels }
      (heard directory confirm) = some (.ok .nothing, { saved with state := (.connectionFinalization
        (.new acceptor.userChannelId acceptor.ioChannelId) channels capabilities) }) := by
    simp only [Acceptor.step, Acceptor.capabilitiesWaitConfirm, heard, message, capable]
    rfl
  exact reaches_step licensed <| reaches_step offered <| reaches_append layout <| reaches_step confirmed later

/-- The connection is finalized by the font list. -/
theorem finalization_reaches {userChannelId ioChannelId : UInt16} {synchronize cooperate control fontList : Bytes}
    {early : List Bytes} (controlled : Handshake.decodeShareControl codec control ≠ none)
    (others : ∀ input ∈ early, Handshake.decodeShareControl codec input ≠ some .fontList)
    (listed : Handshake.decodeShareControl codec fontList = some .fontList)
    (here : acceptor.state = .connectionFinalization (.new userChannelId ioChannelId) channels capabilities) :
    Reaches codec directory acceptor
      (synchronize :: cooperate :: control :: (early ++ [fontList, [], [], [], []]))
      { acceptor with state := .accepted channels capabilities early } := by
  have granted : Handshake.FinalizationSequence.step codec (heard directory control)
      ⟨.waitRequestControl, userChannelId, ioChannelId, []⟩ =
        some (.ok (.nothing, ⟨.waitFontList, userChannelId, ioChannelId, []⟩)) := by
    simp only [Handshake.FinalizationSequence.step, heard]
    split
    · exact absurd ‹_› controlled
    · rfl
  have ended : Handshake.FinalizationSequence.step codec (heard directory fontList)
      ⟨.waitFontList, userChannelId, ioChannelId, early⟩ =
        some (.ok (.nothing, ⟨.sendSynchronizeConfirm, userChannelId, ioChannelId, early⟩)) := by
    simp only [Handshake.FinalizationSequence.step, heard, listed]
  have answered : Reaches codec directory { acceptor with state := (.connectionFinalization
      ⟨.sendSynchronizeConfirm, userChannelId, ioChannelId, early⟩ channels capabilities) }
      [[], [], [], []] { acceptor with state := .accepted channels capabilities early } :=
    reaches_finalization rfl rfl <| reaches_finalization rfl rfl <| reaches_finalization rfl rfl <|
      reaches_finalization rfl rfl reaches_nil
  refine reaches_finalization here rfl <| reaches_finalization rfl rfl <| reaches_finalization rfl granted ?_
  exact early_reaches others rfl (reaches_finalization rfl ended answered)

/-- Whatever follows the login, the client is accepted at the end. -/
theorem closing_reaches {closing : Closing} (closes : Closes codec closing capabilities)
    (here : acceptor.state = .licensingExchange earlyCapability channels) :
    Reaches codec directory acceptor (closing.inputs earlyCapability) { acceptor with
      savedForReactivation := .capabilitiesSendServer earlyCapability channels
      state := .accepted channels capabilities closing.early } := by
  obtain ⟨⟨userData, message, capable⟩, control, early, fontList⟩ := closes
  exact confirm_reaches message capable here (finalization_reaches control early fontList rfl)

end Closing

section Connected
variable {δ σ α : Type} [StaticChannelSet σ] {client : Client} {settings : ConnectInitial} {closing : Closing}

/-- A client that speaks the protocol is heard to the end, and let in just where
the authenticator approves of the name and the password it was told. -/
theorem speaking_client_is_judged (codec : Codec) (authenticator : δ → String → String → Bool) (directory : δ)
    (desktopSize : DesktopSize) (capabilities : List CapabilitySet) (creds : Option Handshake.Credentials)
    (channels : List String)
    (speaks : Speaks codec (guardedAcceptor authenticator desktopSize capabilities creds channels : Acceptor δ σ)
      client settings) :
    ∃ final : Acceptor δ σ, Reaches (spoken codec) directory
        (guardedAcceptor authenticator desktopSize capabilities creds channels) client.inputs final ∧
      (Admitted final ↔ authenticator directory client.pdu.clientInfo.credentials.username
        client.pdu.clientInfo.credentials.password = true) := by
  cases answer : authenticator directory client.pdu.clientInfo.credentials.username
    client.pdu.clientInfo.credentials.password with
  | true =>
    refine ⟨admitted (guardedAcceptor authenticator desktopSize capabilities creds channels) settings, ?_,
      fun _ => rfl, fun _ => .inl trivial⟩
    exact admitted_reached AuthenticationGate.guardedAcceptor_state AuthenticationGate.guardedAcceptor_starts.1
      speaks answer
  | false =>
    have reached := credentials_reached directory AuthenticationGate.guardedAcceptor_state
      AuthenticationGate.guardedAcceptor_starts.1.security speaks
    have guarded := guarded_of_reaches AuthenticationGate.guardedAcceptor_starts.1 reached
    obtain ⟨final, login, shut⟩ := login_refused guarded speaks.login answer
    exact ⟨final, reaches_append reached login, iff_of_false shut Bool.false_ne_true⟩

/-- `ber::read_length`. -/
def readLength : Decoding Nat := do
  ensureSize 1
  let byte ← readU8
  if byte &&& 0x80 = 0 then return byte.toNat
  else if byte = 0x81 then do
    ensureSize 1
    return (← readU8).toNat
  else if byte = 0x82 then do
    ensureSize 2
    return (← readU16Be).toNat
  else fail (.invalidField "len" "invalid length of the length")

/-- The bytes have to be these. -/
def expect (tag : Bytes) : Decoding Unit := do
  ensureSize tag.length
  if (← readSlice tag.length) ≠ tag then fail (.invalidField "identifier" "invalid universal tag identifier")
  else return ()

/-- A value with its tag and its length. -/
def readTagged (tag : Bytes) : Decoding Bytes := do
  expect tag
  let length ← readLength
  ensureSize length
  readSlice length

/-- `UserDataHeader::decode`. -/
def readBlock : Decoding (UInt16 × Bytes) := do
  ensureSize 4
  let blockType ← readU16
  let blockLength ← readU16
  if blockLength.toNat ≤ 4 then fail (.invalidField "blockLen" "invalid UserDataHeader length")
  else do
    ensureSize (blockLength.toNat - 4)
    return (blockType, ← readSlice (blockLength.toNat - 4))

/-- Of the core block what the acceptor asks for, behind 128 bytes that are always
there and 12 that may be. -/
def readEarlyCapabilityFlags : Decoding (Option Handshake.ClientEarlyCapabilityFlags) := do
  ensureSize 128
  let _ ← readSlice 128
  whenLeft 14 (return none) do
    let _ ← readSlice 12
    return some (← readU16)

/-- A channel's name, with zeros up to eight bytes, and its options. -/
def readChannelDef : Decoding Handshake.ChannelDef := do
  ensureSize 12
  let name ← readSlice 8
  let options ← readU32
  return ⟨String.ofList ((name.takeWhile (· ≠ 0)).map fun byte => Char.ofNat byte.toNat), options⟩

/-- The channels, behind their count. -/
def readChannels : Decoding (List Handshake.ChannelDef) := do
  ensureSize 4
  let count ← readU32
  if 31 < count.toNat then fail (.invalidField "channelCount" "invalid channel count")
  else times count.toNat readChannelDef

/-- The last block of a kind. -/
def lastBlock (kind : UInt16) (blocks : List (UInt16 × Bytes)) : Option Bytes :=
  (blocks.reverse.find? fun (blockType, _) => blockType = kind).map Prod.snd

/-- A connect message with the settings that the acceptor reads of it; what else
its blocks hold is not checked. -/
def readConnectInitial : Decoding ConnectInitial := do
  expect [0x7F, 0x65]
  let _ ← readLength
  let _ ← readTagged [0x04]
  let _ ← readTagged [0x04]
  let _ ← readTagged [0x01]
  let _ ← readTagged [0x30]
  let _ ← readTagged [0x30]
  let _ ← readTagged [0x30]
  expect [0x04]
  let _ ← readLength
  expect [0x00, 0x05, 0x00, 0x14, 0x7C, 0x00, 0x01]
  let _ ← FastPath.readLength (.invalidField "len" "")
  expect [0x00, 0x08, 0x00, 0x10, 0x00, 0x01, 0xC0, 0x00, 0x44, 0x75, 0x63, 0x61]
  let _ ← FastPath.readLength (.invalidField "len" "")
  let blocks ← fun src => whileLeft 4 readBlock src.length src
  match lastBlock 0xC001 blocks, lastBlock 0xC002 blocks with
  | some core, some _ => do
    let earlyCapabilityFlags ← within core readEarlyCapabilityFlags
    match lastBlock 0xC003 blocks with
    | none => return { earlyCapabilityFlags, channels := none }
    | some network => return { earlyCapabilityFlags, channels := some (← within network readChannels) }
  | _, _ => fail (.invalidField "core" "required GCC core is absent")

/-- A client with a clipboard channel that wants to be told the layout: the blocks
of its connect message, and the message around them. -/
def userBlocks : Bytes :=
  let block (blockType : UInt16) (body : Bytes) : Bytes :=
    littleEndian 2 blockType.toNat ++ littleEndian 2 (body.length + 4) ++ body
  let core := littleEndian 4 0x00080004 ++ littleEndian 2 1440 ++ littleEndian 2 900 ++ littleEndian 2 0xCA01 ++
    littleEndian 2 0xAA03 ++ littleEndian 4 0x409 ++ littleEndian 4 2600 ++ List.replicate 32 0 ++
    littleEndian 4 4 ++ littleEndian 4 0 ++ littleEndian 4 12 ++ List.replicate 64 0 ++
    littleEndian 2 0xCA01 ++ littleEndian 2 1 ++ littleEndian 4 0 ++ littleEndian 2 24 ++ littleEndian 2 7 ++
    littleEndian 2 0x0040
  let security := littleEndian 4 3 ++ littleEndian 4 0
  let network := littleEndian 4 1 ++ [0x63, 0x6C, 0x69, 0x70, 0x72, 0x64, 0x72, 0x00] ++ littleEndian 4 0xC0A00000
  block 0xC001 core ++ block 0xC002 security ++ block 0xC003 network

/-- A connect message with three blocks of settings. -/
def userInitial : Bytes :=
  let parameters (integers : Bytes) : Bytes := [0x30, integers.length.toUInt8] ++ integers
  let target : Bytes := [2, 1, 34, 2, 1, 2, 2, 1, 0, 2, 1, 1, 2, 1, 0, 2, 1, 1, 2, 3, 0, 0xFF, 0xFF, 2, 1, 2]
  let least : Bytes := [2, 1, 1, 2, 1, 1, 2, 1, 1, 2, 1, 1, 2, 1, 0, 2, 1, 1, 2, 2, 0x04, 0x20, 2, 1, 2]
  let most : Bytes := [2, 3, 0, 0xFF, 0xFF, 2, 3, 0, 0xFC, 0x17, 2, 3, 0, 0xFF, 0xFF, 2, 1, 1, 2, 1, 0, 2, 1, 1,
    2, 3, 0, 0xFF, 0xFF, 2, 1, 2]
  let request := [0x00, 0x05, 0x00, 0x14, 0x7C, 0x00, 0x01, 0x80, 0xBE, 0x00, 0x08, 0x00, 0x10, 0x00, 0x01, 0xC0,
    0x00, 0x44, 0x75, 0x63, 0x61, 0x80, 0xB2] ++ userBlocks
  FastPath.tpkt (Mcs.tpduHeader 2 ++ [0x7F, 0x65, 0x82, 0x01, 0x2E, 0x04, 0x01, 0x01, 0x04, 0x01, 0x01, 0x01, 0x01,
    0xFF] ++ parameters target ++ parameters least ++ parameters most ++ [0x04, 0x81, 0xC9] ++ request)

/-- What is read of it. -/
def userSettings : ConnectInitial where
  earlyCapabilityFlags := some .supportMonitorLayoutPdu
  channels := some [⟨"cliprdr", 0xC0A00000⟩]

/-- The settings are read off the connect message. -/
def userCodec : Codec := { InputBacklog.noCodec with connectInitial := decoded readConnectInitial }

/-- The server of one user, with two channels. -/
def userHost : Acceptor Unit NamedChannels :=
  guardedAcceptor CredentialDelivery.oneUser ⟨1440, 900⟩ [] none ["cliprdr", "drdynvc"]

/-- It joins the channel of its user last. -/
def userClient : Client where
  request := ⟨some (.cookie "user"), .empty, ⟨1, rfl⟩⟩
  initial := userInitial
  domain := ⟨0, 0⟩
  userId := 1002
  order := [1003, 1004, 1002]
  pdu := CredentialDelivery.userPdu
  login := CredentialDelivery.userRequest

/-- The settings are read off the bytes of the message. -/
theorem userInitial_read : (decoded x224Data userInitial).bind userCodec.connectInitial = some userSettings := by
  decide +kernel

/-- The client speaks the protocol. -/
theorem userClient_speaks : Speaks userCodec userHost userClient userSettings where
  request := by
    refine ⟨?_, by decide +kernel, by decide⟩
    rintro data told
    cases told
    unfold Nego.OneLine
    decide +kernel
  tls := by decide
  initial := userInitial_read
  few := by decide
  user := by decide
  distinct := by decide
  joins channelId := by
    have waited : toJoin userHost userSettings = [1002, 1003, 1004] := by decide +kernel
    have asked : userClient.order = [1003, 1004, 1002] := rfl
    rw [waited, asked]
    simp only [List.mem_cons, List.not_mem_nil, or_false]
    tauto
  login := CredentialDelivery.userPdu_typed

theorem user_client_is_let_in : ∃ final,
    Reaches (spoken userCodec) () userHost userClient.inputs final ∧ Admitted final := by
  obtain ⟨final, reached, judged⟩ := speaking_client_is_judged userCodec CredentialDelivery.oneUser ()
    ⟨1440, 900⟩ [] none ["cliprdr", "drdynvc"] userClient_speaks
  exact ⟨final, reached, judged.mpr (by decide)⟩

/-- A client of which the authenticator approves is connected when it has said all:
the acceptor's result holds the channels joined with those it was told, the
capabilities that the client has confirmed, and what it has sent before its font
list. -/
theorem approved_client_is_connected (codec : Codec) (foreign : Foreign α) (confirmed : α → List CapabilitySet)
    (authenticator : δ → String → String → Bool) (directory : δ) (desktopSize : DesktopSize)
    (capabilities : List CapabilitySet) (creds : Option Handshake.Credentials) (channels : List String)
    (speaks : Speaks codec (guardedAcceptor authenticator desktopSize capabilities creds channels : Acceptor δ σ)
      client settings)
    (approved : authenticator directory client.pdu.clientInfo.credentials.username
      client.pdu.clientInfo.credentials.password = true) {accepted : List CapabilitySet}
    (closes : Closes (spokenToTheEnd codec foreign confirmed) closing accepted) :
    ∃ final : Acceptor δ σ, Reaches (spokenToTheEnd codec foreign confirmed) directory
        (guardedAcceptor authenticator desktopSize capabilities creds channels)
        (client.inputs ++ closing.inputs settings.earlyCapabilityFlags) final ∧
      final.getResult.1 = some {
        staticChannels :=
          (joined (guardedAcceptor authenticator desktopSize capabilities creds channels) settings).2
        capabilities := accepted
        inputEvents := closing.early
        userChannelId := Handshake.userChannelId
        ioChannelId := Handshake.ioChannelId
        reactivation := false } := by
  let host : Acceptor δ σ := guardedAcceptor authenticator desktopSize capabilities creds channels
  have guarded : Guarded authenticator host := AuthenticationGate.guardedAcceptor_starts.1
  have start : host.state = .initiationWaitRequest := AuthenticationGate.guardedAcceptor_state
  have login : Reaches (spokenToTheEnd codec foreign confirmed) directory host client.inputs
      (admitted host settings) := admitted_reached start guarded { speaks with } approved
  refine ⟨_, reaches_append login (closing_reaches closes rfl), ?_⟩
  obtain ⟨staticChannels, same⟩ : ∃ staticChannels, host =
      { (Acceptor.new .ssl desktopSize capabilities creds : Acceptor δ σ) with
        staticChannels, authenticate := some authenticator } := AuthenticationGate.guardedAcceptor_eq
  have fresh : host.userChannelId = Handshake.userChannelId ∧ host.ioChannelId = Handshake.ioChannelId ∧
      host.reactivation = false := by
    rw [same]
    exact ⟨rfl, rfl, rfl⟩
  rw [← fresh.1, ← fresh.2.1, ← fresh.2.2]
  rfl

/-- A client's capabilities, each with its type and what it says, as they follow the
header of the data unit. -/
structure ConfirmActive where
  originatorId : UInt16
  sourceDescriptor : Bytes
  capabilitySets : List (UInt16 × Bytes)
  deriving DecidableEq

namespace ConfirmActive

/-- A capability set, behind its kind and length. -/
def setBytes (capabilitySet : UInt16 × Bytes) : Bytes :=
  littleEndian 2 capabilitySet.1.toNat ++ littleEndian 2 (capabilitySet.2.length + 4) ++ capabilitySet.2

/-- The bytes of a confirmation. -/
def bytes (pdu : ConfirmActive) : Bytes :=
  let sets := littleEndian 2 pdu.capabilitySets.length ++ [0, 0] ++ pdu.capabilitySets.flatMap setBytes
  littleEndian 2 pdu.originatorId.toNat ++ littleEndian 2 pdu.sourceDescriptor.length ++
    littleEndian 2 sets.length ++ pdu.sourceDescriptor ++ sets

/-- What is in a set is not decoded here. -/
def readSet : Decoding (UInt16 × Bytes) := do
  ensureSize 4
  let setType ← readU16
  let length ← readU16
  if length.toNat < 4 then fail (.invalidField "len" "invalid capability set length")
  else do
    ensureSize (length.toNat - 4)
    return (setType, ← readSlice (length.toNat - 4))

/-- A confirmation is read, set by set. -/
def decode : Decoding ConfirmActive := do
  ensureSize 2
  let originatorId ← readU16
  ensureSize 4
  let sourceDescriptorLength ← readU16
  let _ ← readU16
  ensureSize sourceDescriptorLength.toNat
  let sourceDescriptor ← readSlice sourceDescriptorLength.toNat
  ensureSize 4
  let count ← readU16
  let _ ← readU16
  return { originatorId, sourceDescriptor, capabilitySets := ← times count.toNat readSet }

/-- The bitmap's set has the size of the desktop behind four other fields. -/
def accepted (pdu : ConfirmActive) : List CapabilitySet := pdu.capabilitySets.map fun (setType, contents) =>
  if setType = 2 then
    match contents.drop 8 with
    | w :: w' :: h :: h' :: _ => .bitmap (w.toUInt16 ||| w'.toUInt16 <<< 8) (h.toUInt16 ||| h'.toUInt16 <<< 8)
    | _ => .other contents
  else .other contents

/-- Of the data units that are not modelled only the confirmation is known. -/
def foreign : Foreign ConfirmActive where
  encode _ pdu := .ensureSize "ClientConfirmActive" pdu.bytes.length (.write pdu.bytes)
  size _ pdu := pdu.bytes.length
  decode
    | .clientConfirmActive => decode
    | _ => fail (.invalidField "" "")

end ConfirmActive

/-- The desktop may be resized, and output comes on the fast path. -/
def userConfirm : ConfirmActive where
  originatorId := 0x03EA
  sourceDescriptor := [0x4D, 0x53, 0x00]
  capabilitySets := [
    (1, [1, 0, 3, 0, 0, 2, 0, 0, 0, 0, 1, 4, 0, 0, 0, 0, 0, 0, 1, 1]),
    (2, littleEndian 2 32 ++ [1, 0, 1, 0, 1, 0] ++ littleEndian 2 1280 ++ littleEndian 2 800 ++
      [0, 0, 1, 0, 1, 0, 0, 0, 1, 0, 0, 0])]

/-- The server that hears the closing part. -/
def userServer : Server Unit ConfirmActive where
  foreign := ConfirmActive.foreign
  process _ _ _ := .unknown
  ioChannelId := 1003

/-- A data unit of the user, in its frame. -/
def userFrame (pdu : ShareData.ShareDataPdu ConfirmActive) : ClientFrame ConfirmActive :=
  .ioData 1002 ⟨.data ⟨pdu, .low, .empty, .k8⟩, 1002, 66538⟩ []

/-- The data that carries the confirmation. -/
def userConfirmData : Mcs.SendData where
  initiatorId := 1002
  channelId := 1003
  userData :=
    let contents := userConfirm.bytes
    littleEndian 2 (10 + contents.length) ++ littleEndian 2 0x13 ++ littleEndian 2 1002 ++ littleEndian 4 66538 ++
      contents

/-- A key is pressed and released before the font list is sent. -/
def userClosing : Closing where
  confirm := Mcs.X224.bytes (.sendDataRequest userConfirmData)
  synchronize := (userFrame (.synchronize 1002)).bytes userServer
  cooperate := (userFrame (.control ⟨.cooperate, 0, 0⟩)).bytes userServer
  control := (userFrame (.control ⟨.requestControl, 0, 0⟩)).bytes userServer
  early := [(ClientFrame.fastPath (InputBacklog.keyInput false)).bytes userServer,
    (userFrame (.input [InputHandling.Gesture.slowPath (.key 30 false true)])).bytes userServer]
  fontList := (userFrame (.fontList ⟨0, 0, .fromBitsTruncate 3, 50⟩)).bytes userServer

/-- The capability sets that are confirmed. -/
def userAccepted : List CapabilitySet :=
  [.other [1, 0, 3, 0, 0, 2, 0, 0, 0, 0, 1, 4, 0, 0, 0, 0, 0, 0, 1, 1], .bitmap 1280 800]

/-- The closing part is one that the acceptor hears to its end. -/
theorem userClosing_closes :
    Closes (spokenToTheEnd userCodec ConfirmActive.foreign ConfirmActive.accepted) userClosing userAccepted where
  confirm := by
    have fits : (McsMessage.sendDataRequest userConfirmData).Fits := ⟨by decide, by decide +kernel⟩
    have read := (Mcs.X224.decode_reads fits).finishes.decoded_eq
    refine ⟨userConfirmData.userData, ?_, by decide +kernel⟩
    have message : (decoded Mcs.X224.decode userClosing.confirm).map mcsMessage =
        some (.sendDataRequest userConfirmData.userData) := by
      rw [userClosing, read]
      rfl
    exact message
  control := by
    have sendable : (userFrame (.control ⟨.requestControl, 0, 0⟩)).Sendable userServer :=
      ⟨⟨⟨trivial, rfl, by decide⟩, by decide, .inl rfl⟩, by decide, by decide⟩
    have told : Handshake.decodeShareControl (wireCodec userCodec userServer.foreign ConfirmActive.accepted)
        userClosing.control = some _ := InputBacklog.ioData_decoded sendable
    exact fun unread => absurd (told.symm.trans unread) (Option.some_ne_none _)
  early := by
    have key : (userFrame (.input [InputHandling.Gesture.slowPath (.key 30 false true)])).Sendable userServer :=
      ⟨⟨⟨(by decide : 1 < UInt16.size), rfl, by decide⟩, by decide, .inl rfl⟩, by decide, by decide⟩
    have other : ¬ TakenForFontList userServer userCodec ConfirmActive.accepted _ :=
      (InputBacklog.ioData_taken_iff key).not.mpr (by decide)
    have input : ∀ input, ¬ TakenForFontList userServer userCodec ConfirmActive.accepted (.fastPath input) :=
      fun _ => InputBacklog.fastPath_not_taken
    simp only [userClosing, List.forall_mem_cons]
    exact ⟨input _, other, List.forall_mem_nil _⟩
  fontList := by
    have sendable : (userFrame (.fontList ⟨0, 0, .fromBitsTruncate 3, 50⟩)).Sendable userServer :=
      ⟨⟨⟨trivial, rfl, by decide⟩, by decide, .inl rfl⟩, by decide, by decide⟩
    have listed : TakenForFontList userServer userCodec ConfirmActive.accepted _ :=
      (InputBacklog.ioData_taken_iff sendable).mpr rfl
    exact listed

theorem user_client_is_connected : ∃ final,
    Reaches (spokenToTheEnd userCodec ConfirmActive.foreign ConfirmActive.accepted) () userHost
      (userClient.inputs ++ userClosing.inputs userSettings.earlyCapabilityFlags) final ∧
      final.getResult.1 = some {
        staticChannels := [("cliprdr", some 1004), ("drdynvc", none)]
        capabilities := userAccepted
        inputEvents := userClosing.early
        userChannelId := 1002
        ioChannelId := 1003
        reactivation := false } := by
  obtain ⟨final, reached, connected⟩ := approved_client_is_connected userCodec ConfirmActive.foreign
    ConfirmActive.accepted CredentialDelivery.oneUser () ⟨1440, 900⟩ [] none ["cliprdr", "drdynvc"] userClient_speaks
    (by decide) userClosing_closes
  have channels : (joined userHost userSettings).2 = [("cliprdr", some 1004), ("drdynvc", none)] := by
    decide +kernel
  refine ⟨final, reached, connected.trans ?_⟩
  rw [← channels]
  rfl

end Connected
end Osxrdp.ConnectionCompletion
