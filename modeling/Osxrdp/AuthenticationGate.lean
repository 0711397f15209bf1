import Osxrdp.Handshake

/-! The gate of the acceptor: with plain TLS and an authenticator, the states
after the exchange of the credentials are entered only by a step in which the
authenticator accepted what the client sent, and never after it refused. -/
namespace Osxrdp.AuthenticationGate
open Handshake FramePipeline

/-- The states past the exchange of the credentials. -/
@[simp] def Gated : AcceptorState → Prop
  | .licensingExchange _ _ | .capabilitiesSendServer _ _ | .monitorLayoutSend _
  | .capabilitiesWaitConfirm _ | .connectionFinalization _ _ _ | .accepted _ _ _ => True
  | _ => False

/-- The states up to the exchange of the credentials. -/
@[simp] def Outside : AcceptorState → Prop
  | .initiationWaitRequest | .initiationSendConfirm _ | .securityUpgrade _ _ | .credssp _ _
  | .basicSettingsWaitInitial _ _ | .basicSettingsSendResponse _ _ _ _ | .channelConnection _ _ _ _
  | .rdpSecurityCommencement _ _ _ | .secureSettingsExchange _ _ _ => True
  | _ => False

private theorem Outside.not_gated {state : AcceptorState} (outside : Outside state) : ¬ Gated state := by
  cases state <;> simp at outside ⊢

private theorem Outside.not_consumed {state : AcceptorState} (outside : Outside state) : state ≠ .consumed := by
  rintro rfl
  exact outside

/-- The protocol a state was negotiated with, while it is remembered. -/
@[simp] def protocolOf : AcceptorState → Option SecurityProtocol
  | .securityUpgrade _ protocol | .credssp _ protocol | .basicSettingsWaitInitial _ protocol
  | .basicSettingsSendResponse _ protocol _ _ | .channelConnection protocol _ _ _
  | .rdpSecurityCommencement protocol _ _ | .secureSettingsExchange protocol _ _ => some protocol
  | _ => none

variable {δ σ : Type}

/-- A state was saved for `new_deactivation_reactivation`. -/
def Saved (acceptor : Acceptor δ σ) : Prop :=
  ∃ earlyCapability channels,
    acceptor.savedForReactivation = .capabilitiesSendServer earlyCapability channels

/-- The acceptor is past the gate, or could be taken back there. -/
def Admitted (acceptor : Acceptor δ σ) : Prop :=
  Gated acceptor.state ∨ ∃ staticChannels desktopSize next,
    acceptor.newDeactivationReactivation staticChannels desktopSize = .ok next

/-- In this step the authenticator is asked about the credentials of a
`ClientInfoPdu` that was received, and this is its answer. -/
def Answers (codec : Codec) (authenticator : δ → String → String → Bool) (acceptor : Acceptor δ σ)
    (received : Received δ) (answer : Bool) : Prop :=
  ∃ protocol earlyCapability channels creds,
    acceptor.state = .secureSettingsExchange protocol earlyCapability channels ∧
    (codec.sendDataRequest received.input).bind codec.clientInfoPdu = some creds ∧
    authenticator received.directory creds.username creds.password = answer

section Steps
variable {codec : Codec} {acceptor next : Acceptor δ σ} {received : Received δ}
  {result : Except ConnectorError Written}

/-- What a step does, as far as the gate is concerned. -/
inductive Moves (codec : Codec) (acceptor : Acceptor δ σ) (received : Received δ) : Acceptor δ σ → Prop
  | before (state : AcceptorState) (staticChannels : σ)
    (outside : Outside acceptor.state) (stays : Outside state)
    (protocol : ∀ protocol, protocolOf state = some protocol →
      protocolOf acceptor.state = some protocol ∨
        ∃ requested, negotiate requested acceptor.security = some protocol) :
    Moves codec acceptor received { acceptor with state, staticChannels }
  | opens (protocol : SecurityProtocol) (earlyCapability : Option ClientEarlyCapabilityFlags)
    (channels : Channels) (creds : Credentials)
    (here : acceptor.state = .secureSettingsExchange protocol earlyCapability channels)
    (info : (codec.sendDataRequest received.input).bind codec.clientInfoPdu = some creds)
    (allowed : ¬ (protocol.intersects (.hybrid ||| .hybridEx) = false ∧
      acceptor.authOk received.directory creds = false)) :
    Moves codec acceptor received { acceptor with state := .licensingExchange earlyCapability channels }
  | inside (state savedForReactivation : AcceptorState) (gated : Gated acceptor.state)
    (stays : Gated state) :
    Moves codec acceptor received { acceptor with state, savedForReactivation }
  | fails (savedForReactivation : AcceptorState)
    (kept : savedForReactivation = acceptor.savedForReactivation ∨ Gated acceptor.state) :
    Moves codec acceptor received { acceptor with state := .consumed, savedForReactivation }

private theorem moves_fail {error : ConnectorError} : Moves codec acceptor received (acceptor.fail error).2 :=
  .fails acceptor.savedForReactivation (.inl rfl)

private theorem moves_goto {state : AcceptorState} (outside : Outside acceptor.state) (stays : Outside state)
    (protocol : protocolOf state = protocolOf acceptor.state) :
    Moves codec acceptor received (acceptor.goto state).2 :=
  .before state acceptor.staticChannels outside stays fun _ same => .inl (protocol ▸ same)

private theorem send_cases (acceptor : Acceptor δ σ) (received : Received δ) (state : AcceptorState) :
    (∃ error, acceptor.send received state = acceptor.fail error) ∨
      ∃ written, acceptor.send received state = (.ok written, { acceptor with state }) := by
  unfold Acceptor.send
  cases received.written with
  | error error => exact .inl ⟨error, rfl⟩
  | ok written => exact .inr ⟨written, rfl⟩

/-- The answer is sent in front of the gate. -/
theorem moves_send {state : AcceptorState} (outside : Outside acceptor.state) (stays : Outside state)
    (protocol : ∀ protocol, protocolOf state = some protocol →
      protocolOf acceptor.state = some protocol ∨
        ∃ requested, negotiate requested acceptor.security = some protocol) :
    Moves codec acceptor received (acceptor.send received state).2 := by
  rcases send_cases acceptor received state with ⟨error, failed⟩ | ⟨written, sent⟩
  · rw [failed]
    exact moves_fail
  · rw [sent]
    exact .before state acceptor.staticChannels outside stays protocol

/-- The answer is sent behind the gate. -/
theorem moves_send_inside {state : AcceptorState} (gated : Gated acceptor.state) (stays : Gated state) :
    Moves codec acceptor received (acceptor.send received state).2 := by
  rcases send_cases acceptor received state with ⟨error, failed⟩ | ⟨written, sent⟩
  · rw [failed]
    exact moves_fail
  · rw [sent]
    exact .inside state acceptor.savedForReactivation gated stays

private theorem moves_of_some {stepped : Acceptor.Stepped δ σ} (same : some stepped = some (result, next))
    (moves : Moves codec acceptor received stepped.2) : Moves codec acceptor received next := by
  cases same
  exact moves

private theorem moves_initiationSendConfirm {requested : SecurityProtocol}
    (here : acceptor.state = .initiationSendConfirm requested) :
    Moves codec acceptor received (acceptor.initiationSendConfirm received requested).2 := by
  unfold Acceptor.initiationSendConfirm
  cases agreed : negotiate requested acceptor.security with
  | none => exact moves_fail
  | some protocol =>
    refine moves_send (by simp [here]) (by simp) fun _ same => .inr ⟨requested, ?_⟩
    exact agreed.trans same

private theorem moves_securityUpgrade {requested protocol : SecurityProtocol}
    (here : acceptor.state = .securityUpgrade requested protocol) :
    Moves codec acceptor received (acceptor.securityUpgrade requested protocol).2 := by
  unfold Acceptor.securityUpgrade
  split
  · exact moves_goto (by simp [here]) (by simp) (by simp [here])
  · exact moves_goto (by simp [here]) (by simp) (by simp [here])

private theorem moves_basicSettingsWaitInitial [StaticChannelSet σ] {requested protocol : SecurityProtocol}
    (here : acceptor.state = .basicSettingsWaitInitial requested protocol)
    (stepped : acceptor.basicSettingsWaitInitial codec received requested protocol = some (result, next)) :
    Moves codec acceptor received next := by
  unfold Acceptor.basicSettingsWaitInitial at stepped
  split at stepped
  · exact moves_of_some stepped moves_fail
  · dsimp only at stepped
    split at stepped
    · refine moves_of_some stepped (.before _ _ (by simp [here]) (by simp) ?_)
      intro _ same
      exact .inl (by rwa [here])
    · exact nomatch stepped

private theorem moves_channelConnection {protocol : SecurityProtocol}
    {earlyCapability : Option ClientEarlyCapabilityFlags} {channels : Channels}
    {connection : ChannelConnectionSequence}
    (here : acceptor.state = .channelConnection protocol earlyCapability channels connection)
    (stepped : acceptor.channelConnection codec received protocol earlyCapability channels connection =
      some (result, next)) : Moves codec acceptor received next := by
  obtain ⟨advanced, _, moved⟩ := Option.map_eq_some_iff.mp stepped
  cases advanced with
  | error error =>
    cases moved
    exact .fails _ (.inl rfl)
  | ok advanced =>
    cases moved
    refine .before _ acceptor.staticChannels (by simp [here]) ?_ ?_
    · split <;> simp
    · intro _ same
      rw [here]
      split at same <;> exact .inl same

private theorem moves_secureSettingsExchange {protocol : SecurityProtocol}
    {earlyCapability : Option ClientEarlyCapabilityFlags} {channels : Channels}
    (here : acceptor.state = .secureSettingsExchange protocol earlyCapability channels) :
    Moves codec acceptor received
      (acceptor.secureSettingsExchange codec received protocol earlyCapability channels).2 := by
  unfold Acceptor.secureSettingsExchange
  cases info : (codec.sendDataRequest received.input).bind codec.clientInfoPdu with
  | none => exact moves_fail
  | some creds =>
    dsimp only
    split
    · split
      · exact moves_fail
      · exact moves_fail
    · rename_i allowed
      exact .opens protocol earlyCapability channels creds here info allowed

private theorem moves_licensingExchange {earlyCapability : Option ClientEarlyCapabilityFlags}
    {channels : Channels} (gated : Gated acceptor.state) : Moves codec acceptor received
      (acceptor.licensingExchange received earlyCapability channels).2 := by
  unfold Acceptor.licensingExchange
  split
  · exact moves_fail
  · rcases send_cases { acceptor with
        savedForReactivation := .capabilitiesSendServer earlyCapability channels } received
      (.capabilitiesSendServer earlyCapability channels) with ⟨error, failed⟩ | ⟨written, sent⟩
    · rw [failed]
      exact .fails _ (.inr gated)
    · rw [sent]
      exact .inside _ _ gated (by simp)

private theorem moves_dropOrFail (gated : Gated acceptor.state) :
    Moves codec acceptor received acceptor.dropOrFail.2 := by
  unfold Acceptor.dropOrFail
  split
  · exact .inside acceptor.state acceptor.savedForReactivation gated gated
  · exact moves_fail

private theorem moves_capabilitiesWaitConfirm {channels : Channels} (gated : Gated acceptor.state) :
    Moves codec acceptor received (acceptor.capabilitiesWaitConfirm codec received channels).2 := by
  unfold Acceptor.capabilitiesWaitConfirm
  split
  · exact moves_dropOrFail gated
  · split
    · exact moves_dropOrFail gated
    · exact .inside _ acceptor.savedForReactivation gated (by simp)
    · exact moves_fail
  · exact moves_fail
  · exact .inside acceptor.state acceptor.savedForReactivation gated gated

private theorem moves_connectionFinalization {finalization : FinalizationSequence}
    {channels : Channels} {clientCapabilities : List CapabilitySet} (gated : Gated acceptor.state)
    (stepped : acceptor.connectionFinalization codec received finalization channels clientCapabilities =
      some (result, next)) : Moves codec acceptor received next := by
  obtain ⟨advanced, _, moved⟩ := Option.map_eq_some_iff.mp stepped
  cases advanced with
  | error error =>
    cases moved
    exact .fails _ (.inl rfl)
  | ok advanced =>
    cases moved
    refine .inside _ acceptor.savedForReactivation gated ?_
    split <;> simp

/-- All that a step can do. -/
theorem step_moves [StaticChannelSet σ] (stepped : acceptor.step codec received = some (result, next)) :
    Moves codec acceptor received next := by
  unfold Acceptor.step at stepped
  cases here : acceptor.state with
  | consumed =>
    simp only [here] at stepped
    exact nomatch stepped
  | initiationWaitRequest =>
    simp only [here] at stepped
    refine moves_of_some stepped ?_
    split
    · exact moves_fail
    · exact moves_goto (by simp [here]) (by simp) (by simp [here])
  | initiationSendConfirm requested =>
    simp only [here] at stepped
    exact moves_of_some stepped (moves_initiationSendConfirm here)
  | securityUpgrade requested protocol =>
    simp only [here] at stepped
    exact moves_of_some stepped (moves_securityUpgrade here)
  | credssp requested protocol =>
    simp only [here] at stepped
    exact moves_of_some stepped
      (moves_goto (by simp [here]) (by simp) (by simp [here]))
  | basicSettingsWaitInitial requested protocol =>
    simp only [here] at stepped
    exact moves_basicSettingsWaitInitial here stepped
  | basicSettingsSendResponse requested protocol earlyCapability channels =>
    simp only [here] at stepped
    exact moves_of_some stepped (moves_send (by simp [here]) (by simp) fun _ same =>
      .inl (by rwa [here]))
  | channelConnection protocol earlyCapability channels connection =>
    simp only [here] at stepped
    exact moves_channelConnection here stepped
  | rdpSecurityCommencement protocol earlyCapability channels =>
    simp only [here] at stepped
    exact moves_of_some stepped
      (moves_goto (by simp [here]) (by simp) (by simp [here]))
  | secureSettingsExchange protocol earlyCapability channels =>
    simp only [here] at stepped
    exact moves_of_some stepped (moves_secureSettingsExchange here)
  | licensingExchange earlyCapability channels =>
    simp only [here] at stepped
    exact moves_of_some stepped (moves_licensingExchange (by simp [here]))
  | capabilitiesSendServer earlyCapability channels =>
    simp only [here] at stepped
    refine moves_of_some stepped (moves_send_inside (by simp [here]) ?_)
    split <;> simp
  | monitorLayoutSend channels =>
    simp only [here] at stepped
    exact moves_of_some stepped (moves_send_inside (by simp [here]) (by simp))
  | capabilitiesWaitConfirm channels =>
    simp only [here] at stepped
    exact moves_of_some stepped (moves_capabilitiesWaitConfirm (by simp [here]))
  | connectionFinalization finalization channels clientCapabilities =>
    simp only [here] at stepped
    exact moves_connectionFinalization (by simp [here]) stepped
  | accepted channels clientCapabilities inputEvents =>
    simp only [here] at stepped
    exact nomatch stepped

end Steps

section Gate
variable {codec : Codec} {authenticator : δ → String → String → Bool} {acceptor next : Acceptor δ σ}
  {call : Call δ σ} {returned : List (Returned σ)}

/-- Neither form of CredSSP is negotiated when only TLS is offered. -/
theorem negotiate_ssl {requested protocol : SecurityProtocol}
    (agreed : negotiate requested .ssl = some protocol) : protocol = .ssl := by
  have nothing : ∀ other : SecurityProtocol, SecurityProtocol.ssl &&& other = 0 →
      (requested &&& SecurityProtocol.ssl).intersects other = false := by
    intro other apart
    simp [SecurityProtocol.intersects, UInt32.and_assoc, apart]
  unfold negotiate at agreed
  simp only [nothing .hybridEx rfl, nothing .hybrid rfl, Bool.false_eq_true,
    ↓reduceIte] at agreed
  split at agreed
  · exact (Option.some.inj agreed).symm
  · split at agreed
    · rename_i nothingOffered
      exact absurd nothingOffered (by decide)
    · exact nomatch agreed

/-- TLS alone leaves the check of the credentials to the acceptor. -/
theorem ssl_unchecked :
    SecurityProtocol.ssl.intersects (SecurityProtocol.hybrid ||| .hybridEx) = false := rfl

/-- An acceptor set up with TLS and this authenticator. -/
structure Guarded (authenticator : δ → String → String → Bool) (acceptor : Acceptor δ σ) : Prop where
  security : acceptor.security = .ssl
  authenticate : acceptor.authenticate = some authenticator
  protocol : ∀ protocol, protocolOf acceptor.state = some protocol → protocol = .ssl
  saved : Saved acceptor → Gated acceptor.state ∨ acceptor.state = .consumed

private theorem reactivates_iff : (∃ staticChannels desktopSize next,
    acceptor.newDeactivationReactivation staticChannels desktopSize = .ok next) ↔ Saved acceptor := by
  unfold Acceptor.newDeactivationReactivation
  constructor
  · rintro ⟨staticChannels, desktopSize, next, accepted⟩
    split at accepted
    · exact ⟨_, _, ‹_›⟩
    · exact nomatch accepted
  · rintro ⟨earlyCapability, channels, saved⟩
    rw [saved]
    exact ⟨acceptor.staticChannels, ⟨1, 1⟩, _, rfl⟩

private theorem admitted_iff : Admitted acceptor ↔ Gated acceptor.state ∨ Saved acceptor :=
  or_congr_right reactivates_iff

/-- What a call does: a step, a result taken out, or a reactivation. -/
theorem call_cases [StaticChannelSet σ] (called : Handshake.step codec acceptor call = some (next, returned)) :
    (∃ received result, call = .step received ∧ acceptor.step codec received = some (result, next)) ∨
    (∃ result, call = .getResult ∧ acceptor.getResult = (result, next)) ∨
    ∃ staticChannels desktopSize, call = .newDeactivationReactivation staticChannels desktopSize ∧
      acceptor.newDeactivationReactivation staticChannels desktopSize = .ok next := by
  cases call with
  | step received =>
    obtain ⟨⟨result, moved⟩, stepped, same⟩ := Option.map_eq_some_iff.mp called
    cases same
    exact .inl ⟨received, result, rfl, stepped⟩
  | getResult =>
    cases called
    exact .inr (.inl ⟨_, rfl, rfl⟩)
  | newDeactivationReactivation staticChannels desktopSize =>
    cases accepted : acceptor.newDeactivationReactivation staticChannels desktopSize with
    | error error =>
      simp only [Handshake.step, accepted] at called
      exact nomatch called
    | ok reactivated =>
      simp only [Handshake.step, accepted] at called
      cases called
      exact .inr (.inr ⟨staticChannels, desktopSize, rfl, accepted⟩)

/-- Taking the result out leaves an acceptor as it was, or consumed. -/
theorem getResult_cases [StaticChannelSet σ] {result : Option (AcceptorResult σ)}
    (taken : acceptor.getResult = (result, next)) :
    next = acceptor ∨ Gated acceptor.state ∧
      next = { acceptor with state := .consumed, staticChannels := StaticChannelSet.new } := by
  unfold Acceptor.getResult at taken
  split at taken
  · rename_i here
    cases taken
    exact .inr ⟨by simp [here], rfl⟩
  · cases taken
    exact .inl rfl

private theorem reactivated_eq {staticChannels : σ} {desktopSize : DesktopSize}
    (accepted : acceptor.newDeactivationReactivation staticChannels desktopSize = .ok next) :
    Saved acceptor ∧ Gated next.state ∧ protocolOf next.state = none ∧
      next.security = acceptor.security ∧ next.authenticate = acceptor.authenticate := by
  unfold Acceptor.newDeactivationReactivation at accepted
  split at accepted
  · rename_i saved
    cases accepted
    exact ⟨⟨_, _, saved⟩, trivial, rfl, rfl, rfl⟩
  · exact nomatch accepted

private theorem moves_guarded {received : Received δ} (guarded : Guarded authenticator acceptor)
    (moves : Moves codec acceptor received next) : Guarded authenticator next := by
  cases moves with
  | before state staticChannels outside stays protocol =>
    refine ⟨guarded.security, guarded.authenticate, fun agreed same => ?_, fun saved => ?_⟩
    · rcases protocol agreed same with before | ⟨requested, negotiated⟩
      · exact guarded.protocol agreed before
      · exact negotiate_ssl (guarded.security ▸ negotiated)
    · rcases guarded.saved saved with gated | consumed
      · exact (outside.not_gated gated).elim
      · exact (outside.not_consumed consumed).elim
  | opens protocol earlyCapability channels creds here info allowed =>
    exact ⟨guarded.security, guarded.authenticate, by simp, fun _ => .inl trivial⟩
  | inside state savedForReactivation gated stays =>
    refine ⟨guarded.security, guarded.authenticate, fun agreed same => ?_, fun _ => .inl stays⟩
    cases state <;> simp at same stays
  | fails savedForReactivation kept =>
    exact ⟨guarded.security, guarded.authenticate, by simp, fun _ => .inr rfl⟩

/-- A call keeps the acceptor guarded. -/
theorem call_guarded [StaticChannelSet σ] (guarded : Guarded authenticator acceptor)
    (called : Handshake.step codec acceptor call = some (next, returned)) :
    Guarded authenticator next := by
  rcases call_cases called with ⟨received, result, _, stepped⟩ | ⟨result, _, taken⟩ |
    ⟨staticChannels, desktopSize, _, accepted⟩
  · exact moves_guarded guarded (step_moves stepped)
  · rcases getResult_cases taken with rfl | ⟨_, rfl⟩
    · exact guarded
    · exact ⟨guarded.security, guarded.authenticate, by simp, fun _ => .inr rfl⟩
  · obtain ⟨_, gated, protocol, security, authenticate⟩ := reactivated_eq accepted
    refine ⟨security.trans guarded.security, authenticate.trans guarded.authenticate, ?_, ?_⟩
    · rw [protocol]
      exact nofun
    · exact fun _ => .inl gated

/-- Only an accepting answer of the authenticator opens the gate. -/
theorem call_opens [StaticChannelSet σ] (guarded : Guarded authenticator acceptor) (closed : ¬ Admitted acceptor)
    (called : Handshake.step codec acceptor call = some (next, returned)) (admitted : Admitted next) :
    ∃ received, call = .step received ∧ Answers codec authenticator acceptor received true := by
  rw [admitted_iff] at closed admitted
  rcases call_cases called with ⟨received, result, rfl, stepped⟩ | ⟨result, _, taken⟩ |
    ⟨staticChannels, desktopSize, _, accepted⟩
  · refine ⟨received, rfl, ?_⟩
    cases step_moves stepped with
    | before state staticChannels outside stays protocol =>
      exact (admitted.elim stays.not_gated fun saved => closed (.inr saved)).elim
    | opens protocol earlyCapability channels creds here info allowed =>
      refine ⟨protocol, earlyCapability, channels, creds, here, info, ?_⟩
      obtain rfl : protocol = .ssl := guarded.protocol protocol (by simp [here])
      have refused := not_and.mp allowed ssl_unchecked
      unfold Acceptor.authOk at refused
      rw [guarded.authenticate] at refused
      simpa using refused
    | inside state savedForReactivation gated stays => exact (closed (.inl gated)).elim
    | fails savedForReactivation kept =>
      rcases kept with rfl | gated
      · exact (admitted.elim id fun saved => closed (.inr saved)).elim
      · exact (closed (.inl gated)).elim
  · rcases getResult_cases taken with rfl | ⟨gated, _⟩
    · exact (closed admitted).elim
    · exact (closed (.inl gated)).elim
  · exact (closed (.inr (reactivated_eq accepted).1)).elim

/-- There is no way on, and none back. -/
def Shut (acceptor : Acceptor δ σ) : Prop := acceptor.state = .consumed ∧ ¬ Saved acceptor

/-- A shut acceptor has not let the client in. -/
theorem Shut.not_admitted (shut : Shut acceptor) : ¬ Admitted acceptor := by
  rw [admitted_iff, shut.1]
  exact fun admitted => admitted.elim id shut.2

/-- A call leaves the acceptor shut. -/
theorem call_shut [StaticChannelSet σ] (shut : Shut acceptor)
    (called : Handshake.step codec acceptor call = some (next, returned)) : Shut next := by
  rcases call_cases called with ⟨received, result, _, stepped⟩ | ⟨result, _, taken⟩ |
    ⟨staticChannels, desktopSize, _, accepted⟩
  · simp only [Acceptor.step, shut.1] at stepped
    exact nomatch stepped
  · rcases getResult_cases taken with rfl | ⟨gated, _⟩
    · exact shut
    · rw [shut.1] at gated
      exact gated.elim
  · exact (shut.2 (reactivated_eq accepted).1).elim

/-- A refusing answer shuts the acceptor. -/
theorem refused_shut [StaticChannelSet σ] {received : Received δ} {result : Except ConnectorError Written}
    (guarded : Guarded authenticator acceptor) (refused : Answers codec authenticator acceptor received false)
    (stepped : acceptor.step codec received = some (result, next)) : Shut next := by
  obtain ⟨protocol, earlyCapability, channels, creds, here, info, answer⟩ := refused
  have notSaved : ¬ Saved acceptor := by
    intro saved
    have past := guarded.saved saved
    simp [here] at past
  obtain rfl : protocol = .ssl := guarded.protocol protocol (by simp [here])
  have denied : acceptor.authOk received.directory creds = false := by
    unfold Acceptor.authOk
    rw [guarded.authenticate]
    exact answer
  simp only [Acceptor.step, here, Acceptor.secureSettingsExchange, info] at stepped
  rw [if_pos ⟨ssl_unchecked, denied⟩] at stepped
  split at stepped
  · cases stepped
    exact ⟨rfl, notSaved⟩
  · cases stepped
    exact ⟨rfl, notSaved⟩

variable [StaticChannelSet σ]

/-- An acceptor as the server sets it up: TLS, its channels, this authenticator. -/
def guardedAcceptor (authenticator : δ → String → String → Bool) (desktopSize : DesktopSize)
    (capabilities : List CapabilitySet) (creds : Option Credentials) (channels : List String) :
    Acceptor δ σ :=
  (channels.foldl Acceptor.attachStaticChannel (.new .ssl desktopSize capabilities creds)).setAuthenticator
    authenticator

private theorem attached_eq (channels : List String) (acceptor : Acceptor δ σ) :
    ∃ staticChannels, channels.foldl Acceptor.attachStaticChannel acceptor =
      { acceptor with staticChannels } := by
  induction channels generalizing acceptor with
  | nil => exact ⟨acceptor.staticChannels, rfl⟩
  | cons name rest ih =>
    obtain ⟨staticChannels, attached⟩ := ih (acceptor.attachStaticChannel name)
    exact ⟨staticChannels, attached⟩

section Run
variable {codec : Codec} {authenticator : δ → String → String → Bool} {desktopSize : DesktopSize}
  {capabilities : List CapabilitySet} {creds : Option Credentials} {channels : List String} {final : Acceptor δ σ}
  {returned : List (Returned σ)}

/-- The channels are all that is put into a new acceptor. -/
theorem guardedAcceptor_eq : ∃ staticChannels : σ,
    guardedAcceptor authenticator desktopSize capabilities creds channels =
      { (Acceptor.new .ssl desktopSize capabilities creds : Acceptor δ σ) with
        staticChannels, authenticate := some authenticator } := by
  obtain ⟨staticChannels, attached⟩ := attached_eq channels
    (Acceptor.new .ssl desktopSize capabilities creds : Acceptor δ σ)
  refine ⟨staticChannels, ?_⟩
  rw [guardedAcceptor, attached]
  rfl

/-- The server's acceptor starts guarded, with nobody let in. -/
theorem guardedAcceptor_starts : Guarded authenticator
      (guardedAcceptor authenticator desktopSize capabilities creds channels : Acceptor δ σ) ∧
    ¬ Admitted (guardedAcceptor authenticator desktopSize capabilities creds channels : Acceptor δ σ) := by
  obtain ⟨staticChannels, same⟩ := @guardedAcceptor_eq δ σ _ authenticator desktopSize capabilities creds channels
  rw [same, admitted_iff]
  constructor
  · exact ⟨rfl, rfl, by simp [Acceptor.new], fun ⟨_, _, saved⟩ => (nomatch saved)⟩
  · rintro (gated | ⟨_, _, saved⟩)
    · exact gated
    · exact nomatch saved

/-- The server's acceptor waits for a request. -/
theorem guardedAcceptor_state :
    (guardedAcceptor authenticator desktopSize capabilities creds channels : Acceptor δ σ).state =
      .initiationWaitRequest := by
  obtain ⟨staticChannels, same⟩ := @guardedAcceptor_eq δ σ _ authenticator desktopSize capabilities creds channels
  rw [same]
  rfl

/-- The run enters the gate by a step of which the authenticator approves. -/
theorem admission_answered {calls : List (Call δ σ)} (ran : Runs.run (Handshake.step codec)
      (guardedAcceptor authenticator desktopSize capabilities creds channels) calls = some (final, returned))
    (admitted : Admitted final) :
    ∃ before received after middle past, calls = before ++ .step received :: after ∧
      Runs.run (Handshake.step codec)
        (guardedAcceptor authenticator desktopSize capabilities creds channels) before = some (middle, past) ∧
      Answers codec authenticator middle received true := by
  obtain ⟨before, call, after, middle, past, split, earlier, received, rfl, answers⟩ :=
    Runs.exists_entering_step (Guarded authenticator) Admitted
      (fun _ _ _ _ guarded called => call_guarded guarded called)
      (fun _ _ _ _ guarded closed called admitted => call_opens guarded closed called admitted)
      guardedAcceptor_starts.1 guardedAcceptor_starts.2 ran admitted
  exact ⟨before, received, after, middle, past, split, earlier, answers⟩

/-- After a refusal the run does not enter the gate any more. -/
theorem refusal_shuts {before after : List (Call δ σ)} {received : Received δ} {middle : Acceptor δ σ}
    {past : List (Returned σ)} (ran : Runs.run (Handshake.step codec)
      (guardedAcceptor authenticator desktopSize capabilities creds channels)
      (before ++ .step received :: after) = some (final, returned))
    (earlier : Runs.run (Handshake.step codec)
      (guardedAcceptor authenticator desktopSize capabilities creds channels) before = some (middle, past))
    (refused : Answers codec authenticator middle received false) : ¬ Admitted final := by
  obtain ⟨_, _, _, same, rest, _⟩ := Runs.run_append.mp ran
  obtain ⟨rfl, _⟩ := Prod.mk.inj (Option.some.inj (earlier.symm.trans same))
  obtain ⟨next, emitted, later, called, continued, _⟩ := Runs.run_cons.mp rest
  have guarded : Guarded authenticator middle := Runs.invariant_of_step
    (fun acceptor _ => Guarded authenticator acceptor)
    (fun _ _ _ _ _ guarded called => call_guarded guarded called) [] guardedAcceptor_starts.1 earlier
  obtain ⟨⟨result, moved⟩, stepped, moves⟩ := Option.map_eq_some_iff.mp called
  cases moves
  have shut : Shut final := Runs.invariant_of_step (fun acceptor _ => Shut acceptor)
    (fun _ _ _ _ _ shut called => call_shut shut called) [] (refused_shut guarded refused stepped)
    continued
  exact shut.not_admitted

end Run

/-- **The authentication gate.** However the calls follow one another, an
admitted acceptor went through a step in which the authenticator accepted the
credentials of a `ClientInfoPdu`; and after a step in which it refused them the
acceptor is not admitted any more. -/
theorem admitted_only_by_authenticator (codec : Codec) (authenticator : δ → String → String → Bool)
    (desktopSize : DesktopSize) (capabilities : List CapabilitySet) (creds : Option Credentials)
    (channels : List String) {calls : List (Call δ σ)} {final : Acceptor δ σ} {returned : List (Returned σ)}
    (ran : Runs.run (Handshake.step codec)
      (guardedAcceptor authenticator desktopSize capabilities creds channels) calls =
        some (final, returned)) :
    (Admitted final → ∃ before received after middle past, calls = before ++ .step received :: after ∧
      Runs.run (Handshake.step codec)
        (guardedAcceptor authenticator desktopSize capabilities creds channels) before =
          some (middle, past) ∧
      Answers codec authenticator middle received true) ∧
    ∀ before received after middle past, calls = before ++ .step received :: after →
      Runs.run (Handshake.step codec)
        (guardedAcceptor authenticator desktopSize capabilities creds channels) before =
          some (middle, past) →
      Answers codec authenticator middle received false → ¬ Admitted final := by
  constructor
  · exact admission_answered ran
  · rintro before received after middle past rfl earlier refused
    exact refusal_shuts ran earlier refused

/-- A client whose every message decodes as the one that is waited for. -/
def welcomeCodec : Codec where
  connectionRequest _ := some .ssl
  x224Data _ := some []
  connectInitial _ := some ⟨some .supportSkipChanneljoin, none⟩
  erectDomainPdu _ := some ()
  attachUserRequest _ := some ()
  channelJoinRequest _ := none
  sendDataRequest _ := some []
  clientInfoPdu _ := some ⟨"user", "password", none⟩
  mcsMessage _ := some (.sendDataRequest [])
  shareControlHeader _ := some (.clientConfirmActive [])

/-- The directory says whether everyone is let in. -/
def hostAcceptor : Acceptor Bool NamedChannels :=
  guardedAcceptor (fun accepts _ _ => accepts) ⟨1440, 900⟩ [] none []

/-- A client that is accepted is let through, by the answer of the authenticator. -/
theorem accepted_client_is_admitted :
    ∃ final returned, Runs.run (Handshake.step welcomeCodec) hostAcceptor
        (List.replicate 11 (.step ⟨[], .ok 1, true⟩)) = some (final, returned) ∧
      Admitted final ∧ ∃ before received after middle past,
        List.replicate 11 (.step ⟨[], .ok 1, true⟩) = before ++ .step received :: after ∧
        Runs.run (Handshake.step welcomeCodec) hostAcceptor before = some (middle, past) ∧
        Answers welcomeCodec (fun accepts _ _ => accepts) middle received true := by
  have runs : ∃ result, Runs.run (Handshake.step welcomeCodec) hostAcceptor
      (List.replicate 11 (.step ⟨[], .ok 1, true⟩)) = some result ∧ Gated result.1.state :=
    ⟨_, rfl, trivial⟩
  obtain ⟨⟨final, returned⟩, ran, gated⟩ := runs
  have gate := admitted_only_by_authenticator welcomeCodec (fun accepts _ _ => accepts) ⟨1440, 900⟩ []
    none [] ran
  exact ⟨final, returned, ran, .inl gated, gate.1 (.inl gated)⟩

end Gate
end Osxrdp.AuthenticationGate
