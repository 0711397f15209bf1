import Osxrdp.AuthenticationGate
import Osxrdp.InfoPacket
import Osxrdp.Mcs

/-! The gate with the decoders of the credentials put in: it is the user name and
the password that the client has typed of which the authenticator is asked. -/
namespace Osxrdp.CredentialDelivery
open AuthenticationGate (Admitted Answers Guarded guardedAcceptor)
open Handshake (Acceptor Call CapabilitySet Codec NamedChannels Received Returned SecurityProtocol
  StaticChannelSet)
open InfoPacket (ClientInfoPdu)
open Mcs (McsMessage)
open WireDecoding.Decoding (decoded decoded_eq_some)

/-- What the acceptor takes of a login. -/
def credentials (pdu : ClientInfoPdu) : Handshake.Credentials where
  username := pdu.clientInfo.credentials.username
  password := pdu.clientInfo.credentials.password
  domain := pdu.clientInfo.credentials.domain

/-- The decoders that the credentials go through are those of the wire. -/
def wired (codec : Codec) : Codec := { codec with
  sendDataRequest := fun input => (decoded Mcs.X224.decodeSendDataRequest input).map (·.userData)
  clientInfoPdu := fun input => (decoded ClientInfoPdu.decode input).map credentials }

/-- What a client sends that has been told these credentials. -/
def Typed (pdu : ClientInfoPdu) (input : Bytes) : Prop :=
  ∃ data, pdu.Fits ∧ (McsMessage.sendDataRequest data).Fits ∧ pdu.encode pdu.size = some (.ok data.userData) ∧
    Mcs.X224.encode (.sendDataRequest data) (Mcs.X224.size (.sendDataRequest data)) = some (.ok input)

/-- The packet is read out of what was received, and this is what the
authenticator says of its user. -/
def Checked {δ : Type} (authenticator : δ → String → String → Bool) (received : Received δ) (pdu : ClientInfoPdu)
    (answer : Bool) : Prop :=
  ∃ data rest later, Mcs.X224.decodeSendDataRequest received.input = some (.ok (data, rest)) ∧
    ClientInfoPdu.decode data.userData = some (.ok (pdu, later)) ∧
    authenticator received.directory pdu.clientInfo.credentials.username pdu.clientInfo.credentials.password = answer

section Decoded
variable {codec : Codec} {input : Bytes} {pdu : ClientInfoPdu}

/-- What was typed is what is read. -/
theorem Typed.read (typed : Typed pdu input) : ∃ data,
    Mcs.X224.decodeSendDataRequest input = some (.ok (data, [])) ∧
      ClientInfoPdu.decode data.userData = some (.ok (pdu, [])) := by
  obtain ⟨data, fits, message, encoded, sent⟩ := typed
  have written := ClientInfoPdu.encode_writes fits.short pdu.size (Nat.le_of_eq pdu.bytes_length)
  have delivered := Mcs.X224.encode_writes message _ (Nat.le_of_eq (Mcs.X224.bytes_length message))
  rw [encoded] at written
  rw [sent] at delivered
  cases delivered
  refine ⟨data, (Mcs.X224.decodeSendDataRequest_reads message).finishes, ?_⟩
  injection written with written
  injection written with same
  rw [same]
  exact ClientInfoPdu.decode_finishes fits

private theorem wired_eq_some {creds : Handshake.Credentials} :
    ((wired codec).sendDataRequest input).bind (wired codec).clientInfoPdu = some creds ↔
      ∃ data rest pdu later, Mcs.X224.decodeSendDataRequest input = some (.ok (data, rest)) ∧
        ClientInfoPdu.decode data.userData = some (.ok (pdu, later)) ∧ credentials pdu = creds := by
  simp only [wired, Option.bind_map, Option.bind_eq_some_iff, Function.comp_apply, Option.map_eq_some_iff,
    decoded_eq_some]
  constructor
  · rintro ⟨data, ⟨rest, request⟩, pdu, ⟨later, packet⟩, same⟩
    exact ⟨data, rest, pdu, later, request, packet, same⟩
  · rintro ⟨data, rest, pdu, later, request, packet, same⟩
    exact ⟨data, ⟨rest, request⟩, pdu, ⟨later, packet⟩, same⟩

/-- A login is read by the decoders of the wire. -/
theorem typed_wired (typed : Typed pdu input) :
    ((wired codec).sendDataRequest input).bind (wired codec).clientInfoPdu = some (credentials pdu) := by
  obtain ⟨data, request, packet⟩ := typed.read
  exact wired_eq_some.mpr ⟨data, [], pdu, [], request, packet, rfl⟩

end Decoded

section Gate
variable {δ σ : Type} {codec : Codec} {authenticator : δ → String → String → Bool} {acceptor : Acceptor δ σ}
  {received : Received δ} {pdu : ClientInfoPdu} {protocol : SecurityProtocol}
  {earlyCapability : Option Handshake.ClientEarlyCapabilityFlags} {channels : Handshake.Channels}

/-- What the authenticator is asked is what is checked. -/
theorem answers_checked {answer : Bool} (answers : Answers (wired codec) authenticator acceptor received answer) :
    ∃ pdu, Checked authenticator received pdu answer := by
  obtain ⟨_, _, _, creds, _, told, answered⟩ := answers
  obtain ⟨data, rest, pdu, later, request, packet, rfl⟩ := wired_eq_some.mp told
  exact ⟨pdu, data, rest, later, request, packet, answered⟩

private theorem checked_clean {answer : Bool} (checked : Checked authenticator received pdu answer) :
    pdu.clientInfo.Clean := by
  obtain ⟨data, _, later, _, packet, _⟩ := checked
  exact (ClientInfoPdu.decode_yields data.userData pdu later packet).2

/-- Nothing else is checked than what was typed. -/
theorem checked_typed {answer : Bool} {typed : ClientInfoPdu} (checked : Checked authenticator received pdu answer)
    (sent : Typed typed received.input) : typed = pdu := by
  obtain ⟨data, rest, later, request, packet, _⟩ := checked
  obtain ⟨data', request', packet'⟩ := sent.read
  rw [request] at request'
  cases request'
  rw [packet] at packet'
  cases packet'
  rfl

/-- An approved login goes past the check of the credentials. -/
theorem approved_steps [StaticChannelSet σ] (authenticate : acceptor.authenticate = some authenticator)
    (here : acceptor.state = .secureSettingsExchange protocol earlyCapability channels)
    (typed : Typed pdu received.input)
    (approved : authenticator received.directory pdu.clientInfo.credentials.username
      pdu.clientInfo.credentials.password = true) :
    acceptor.step (wired codec) received = some (acceptor.goto (.licensingExchange earlyCapability channels)) := by
  have authOk : acceptor.authOk received.directory (credentials pdu) = true := by
    unfold Acceptor.authOk
    rw [authenticate]
    exact approved
  have passes : ¬ (protocol.intersects (.hybrid ||| .hybridEx) = false ∧
      acceptor.authOk received.directory (credentials pdu) = false) := by
    rw [authOk]
    exact fun both => absurd both.2 (by decide)
  simp only [Acceptor.step, here, Acceptor.secureSettingsExchange, typed_wired typed]
  rw [if_neg passes]

end Gate

/-- However the calls follow one another, an admitted acceptor has read a packet of
which the authenticator approved, and where a client has typed what was received,
the packet it has typed. The step that reads a typed packet goes on where the
authenticator approves of it; where it does not, the acceptor is not admitted. -/
theorem typed_credentials_decide {δ σ : Type} [StaticChannelSet σ] (codec : Codec)
    (authenticator : δ → String → String → Bool)
    (desktopSize : DesktopSize) (capabilities : List CapabilitySet) (creds : Option Handshake.Credentials)
    (channels : List String) {calls : List (Call δ σ)} {final : Acceptor δ σ} {returned : List (Returned σ)}
    (ran : Runs.run (Handshake.step (wired codec))
      (guardedAcceptor authenticator desktopSize capabilities creds channels) calls = some (final, returned)) :
    (Admitted final → ∃ before received after pdu, calls = before ++ .step received :: after ∧
      Checked authenticator received pdu true ∧ pdu.clientInfo.Clean ∧
      ∀ typed, Typed typed received.input → typed = pdu) ∧
    ∀ before received after middle past protocol earlyCapability joined pdu,
      calls = before ++ .step received :: after →
      Runs.run (Handshake.step (wired codec))
        (guardedAcceptor authenticator desktopSize capabilities creds channels) before = some (middle, past) →
      middle.state = .secureSettingsExchange protocol earlyCapability joined →
      Typed pdu received.input →
      (authenticator received.directory pdu.clientInfo.credentials.username
          pdu.clientInfo.credentials.password = true →
        middle.step (wired codec) received = some (middle.goto (.licensingExchange earlyCapability joined))) ∧
      (authenticator received.directory pdu.clientInfo.credentials.username
          pdu.clientInfo.credentials.password = false → ¬ Admitted final) := by
  constructor
  · intro admitted
    obtain ⟨before, received, after, _, _, split, _, answers⟩ :=
      AuthenticationGate.admission_answered ran admitted
    obtain ⟨pdu, checked⟩ := answers_checked answers
    exact ⟨before, received, after, pdu, split, checked, checked_clean checked, fun _ => checked_typed checked⟩
  · rintro before received after middle past protocol earlyCapability joined pdu rfl earlier here typed
    constructor
    · intro approved
      have guarded : Guarded authenticator middle := Runs.invariant_of_step
        (fun acceptor _ => Guarded authenticator acceptor)
        (fun _ _ _ _ _ guarded called => AuthenticationGate.call_guarded guarded called) []
        AuthenticationGate.guardedAcceptor_starts.1 earlier
      exact approved_steps guarded.authenticate here typed approved
    · intro refused
      have answers : Answers (wired codec) authenticator middle received false :=
        ⟨protocol, earlyCapability, joined, credentials pdu, here, typed_wired typed, refused⟩
      exact AuthenticationGate.refusal_shuts ran earlier answers

/-- A user who logs in with a name and a password, in UTF-16. -/
def userPdu : ClientInfoPdu where
  securityHeader := ⟨0x0040, rfl⟩
  clientInfo := {
    credentials := { username := "user", password := "password", domain := none }
    codePage := 0, flags := ⟨0x10, rfl⟩, compressionType := .k8, alternateShell := "", workDir := ""
    extraInfo := { addressFamily := 2, address := "", dir := "", optionalData := .empty } }

def userRequest : Mcs.SendData := ⟨1007, 1003, userPdu.bytes⟩

private theorem userPdu_clean : userPdu.clientInfo.Clean where
  domain := (Option.some_ne_none "").symm
  texts := by decide +kernel
  extra := by
    refine ⟨by decide +kernel, fun timezone told => ?_⟩
    exact absurd told (Option.some_ne_none timezone).symm

private theorem userPdu_short : userPdu.clientInfo.Short where
  texts := by decide +kernel
  extra := by
    intro text member
    rcases List.mem_pair.mp member with rfl | rfl
    · decide +kernel
    · decide +kernel

private theorem userPdu_fits : userPdu.Fits := ⟨by decide +kernel, userPdu_clean, userPdu_short⟩

/-- The login as it is on the wire. -/
theorem userPdu_typed : Typed userPdu (Mcs.X224.bytes (.sendDataRequest userRequest)) := by
  have fits := userPdu_fits
  have message : (McsMessage.sendDataRequest userRequest).Fits := by
    refine ⟨by decide, ?_⟩
    have length : userRequest.userData.length = userPdu.size := userPdu.bytes_length
    rw [length]
    decide +kernel
  refine ⟨userRequest, fits, message, ?_, ?_⟩
  · exact ClientInfoPdu.encode_writes fits.short _ (Nat.le_of_eq userPdu.bytes_length)
  · exact Mcs.X224.encode_writes message _ (Nat.le_of_eq (Mcs.X224.bytes_length message))

/-- The accounts of a host with one user. -/
def oneUser : Unit → String → String → Bool := fun _ name password => name = "user" ∧ password = "password"

/-- A server that knows one user. -/
def userHost : Acceptor Unit NamedChannels := guardedAcceptor oneUser ⟨1440, 900⟩ [] none []

/-- The user is let in by the name and the password that were typed. -/
theorem typed_user_is_let_in :
    ∃ calls final returned, Runs.run (Handshake.step (wired AuthenticationGate.welcomeCodec)) userHost calls =
        some (final, returned) ∧ Admitted final ∧
      ∃ before received after pdu, calls = before ++ .step received :: after ∧ Checked oneUser received pdu true ∧
        pdu.clientInfo.Clean ∧ ∀ typed, Typed typed received.input → typed = pdu := by
  have before : ∃ result, Runs.run (Handshake.step (wired AuthenticationGate.welcomeCodec)) userHost
      (List.replicate 9 (.step ⟨[], .ok 1, ()⟩)) = some result ∧
      result.1.state = .secureSettingsExchange .ssl (some .supportSkipChanneljoin) [] ∧
      result.1.authenticate = some oneUser := ⟨_, rfl, rfl, rfl⟩
  obtain ⟨⟨middle, past⟩, first, here, asked⟩ := before
  let received : Received Unit := ⟨Mcs.X224.bytes (.sendDataRequest userRequest), .ok 1, ()⟩
  have stepped : middle.step (wired AuthenticationGate.welcomeCodec) received = _ :=
    approved_steps asked here userPdu_typed (by decide)
  have called : Handshake.step (wired AuthenticationGate.welcomeCodec) middle (.step received) = some
      ((middle.goto (.licensingExchange (some .supportSkipChanneljoin) [])).2, [.stepped (.ok .nothing)]) := by
    rw [Handshake.step, stepped]
    rfl
  have entered : Runs.run (Handshake.step (wired AuthenticationGate.welcomeCodec)) middle [.step received] = some _ :=
    Runs.run_cons.mpr ⟨_, _, [], called, Runs.run_nil, rfl⟩
  have ran := Runs.run_append.mpr ⟨middle, past, _, first, entered, rfl⟩
  have decided := typed_credentials_decide AuthenticationGate.welcomeCodec oneUser ⟨1440, 900⟩ [] none [] ran
  exact ⟨_, _, _, ran, .inl trivial, decided.1 (.inl trivial)⟩

end Osxrdp.CredentialDelivery
