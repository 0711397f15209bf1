import Osxrdp.Handshake
import Osxrdp.InputHandling

/-! Input that arrives before the client's font list: the acceptor keeps it
(`finalization.rs`) and `client_accepted` has it handled before the session. -/
namespace Osxrdp.InputBacklog
open FastPath (rdpHint)
open FastPathEvents (FastPathInput)
open Framing (receive)
open Handshake (CapabilitySet Codec ConnectorError FinalizationSequence FinalizationState decodeShareControl)
open InputHandling
open Mcs (SendData)
open Runs (System run run_step)
open ShareData (Foreign ShareControlHeader ShareControlPdu)
open WireDecoding (Decoding)
open WireDecoding.Decoding (decoded)

section Backlog
variable {σ α : Type}

/-- What the acceptor reads of a data unit. -/
def sharePdu (confirmed : α → List CapabilitySet) : ShareControlPdu α → Handshake.ShareControlPdu
  | .clientConfirmActive pdu => .clientConfirmActive (confirmed pdu)
  | .data header => match header.shareDataPdu with
    | .fontList _ => .fontList
    | _ => .other
  | _ => .other

/-- The decoders of the finalization, beside those of the phases before it. -/
def wireCodec (codec : Codec) (foreign : Foreign α) (confirmed : α → List CapabilitySet) : Codec :=
  { codec with
    sendDataRequest := fun input => (decoded Mcs.X224.decodeSendDataRequest input).map SendData.userData
    shareControlHeader := fun data => (decoded (ShareControlHeader.decode foreign) data).map fun control =>
      sharePdu confirmed control.shareControlPdu }

/-- No static channel is attached while the backlog is handled. -/
def withoutChannels (server : Server σ α) : Server σ α := { server with process := fun _ _ _ => .unknown }

/-- One frame of `handle_input_backlog`, which looks at its first byte. What comes
of a frame that is not on the fast path is not looked at. -/
def handleInputBacklog (server : Server σ α) : System (Session σ) Bytes Effect := fun session frame =>
  match session.phase, frame with
  | .running, [] => none
  | .running, header :: _ => match FastPath.Action.fromFpOutputHeader header with
    | .ok .fastPath => match FastPathInput.decode frame with
      | none => none
      | some (.error error) => some ({ session with phase := .failed (.decode error) }, [])
      | some (.ok (input, _)) => some (session, (handleFastpath input).map .call)
    | .ok .x224 => match handleX224 server session.channels frame with
      | none => none
      | some (.error _) => some (session, [])
      | some (.ok served) => some ({ session with channels := served.channels }, served.effects)
    | .error _ => none
  | _, _ => some (session, [])

/-- The frames that the sequence takes while it waits for the font list, and the
frames behind it. -/
def awaitFontList (codec : Codec) : FinalizationSequence → List Bytes → Option (FinalizationSequence × List Bytes)
  | _, [] => none
  | sequence, frame :: rest =>
    match sequence.step codec { input := frame, encoded := .ok 0, directory := () } with
    | some (.ok (_, next)) =>
      if next.state = .waitFontList then awaitFontList codec next rest else some (next, rest)
    | _ => none

/-- One answer of the server; what encoding it gives is an input. -/
def sendConfirm (codec : Codec) (encoded : FinalizationState → Except ConnectorError Nat)
    (sequence : FinalizationSequence) : Option FinalizationSequence :=
  match sequence.step codec { input := [], encoded := encoded sequence.state, directory := () } with
  | some (.ok (_, next)) => some next
  | _ => none

/-- The four answers. -/
def sendConfirms (codec : Codec) (encoded : FinalizationState → Except ConnectorError Nat)
    (sequence : FinalizationSequence) : Option FinalizationSequence := do
  let sequence ← sendConfirm codec encoded sequence
  let sequence ← sendConfirm codec encoded sequence
  let sequence ← sendConfirm codec encoded sequence
  sendConfirm codec encoded sequence

/-- Between the backlog and the first frame `client_accepted` starts the static
channels, goes through the capabilities, makes the encoder and asks the display
for its updates. Whether all of this succeeds is an input. -/
def enterClientLoop (succeeds : Bool) (session : Session σ) : Session σ :=
  match session.phase with
  | .running => if succeeds then session else { session with phase := .failed .setup }
  | _ => session

/-- From the font list on: the answers, the backlog, then the session over the
frames that come after. -/
def acceptAndServe (server : Server σ α) (codec : Codec) (encoded : FinalizationState → Except ConnectorError Nat)
    (succeeds : Bool) (sequence : FinalizationSequence) (channels : σ) (pieces : List Bytes) :
    Option (Session σ × List Effect) := do
  let (frames, left) := receive rdpHint [] pieces
  let (sequence, rest) ← awaitFontList codec sequence frames
  let sequence ← sendConfirms codec encoded sequence
  let (session, effects) ← run (handleInputBacklog (withoutChannels server)) ⟨channels, .running⟩
    sequence.inputEvents
  let (final, later) ← run (step server) (enterClientLoop succeeds session) rest
  return (final.close left, effects ++ later)

end Backlog

section Delivery
variable {σ α : Type} {server : Server σ α} {session : Session σ} {frame : ClientFrame α}
  {frames : List (ClientFrame α)} {codec : Codec} {sequence : FinalizationSequence}

/-- The backlog is handled as the session handles its frames, but for what comes
of those that are not on the fast path. -/
theorem backlog_eq {header : UInt8} {rest : Bytes} {action : FastPath.Action} (running : session.phase = .running)
    (headed : FastPath.Action.fromFpOutputHeader header = .ok action) :
    handleInputBacklog server session (header :: rest) =
      match dispatchPdu server session.channels action (header :: rest) with
      | none => none
      | some (.ok served) => some ({ session with channels := served.channels }, served.effects)
      | some (.error failure) =>
        if action = .fastPath then some ({ session with phase := .failed failure }, [])
        else some (session, []) := by
  simp only [handleInputBacklog, running, headed]
  cases action with
  | fastPath =>
    cases ran : FastPathInput.decode (header :: rest) with
    | none => simp only [dispatchPdu, ran]
    | some result => cases result with
      | error error => simp only [dispatchPdu, ran, ↓reduceIte]
      | ok read =>
        simp only [dispatchPdu, ran, ← running]
  | x224 =>
    cases ran : handleX224 server session.channels (header :: rest) with
    | none => simp only [dispatchPdu, ran]
    | some result => cases result with
      | error failure => simp only [dispatchPdu, ran, reduceCtorEq, ↓reduceIte]
      | ok served => simp only [dispatchPdu, ran]

/-- Every call of a frame in the backlog is made, and nothing ends the session. -/
theorem backlog_step (sendable : frame.Sendable server) (running : session.phase = .running) :
    ∃ next effects, handleInputBacklog server session (frame.bytes server) = some (next, effects) ∧
      next.phase = .running ∧ calls effects = frame.calls := by
  obtain ⟨header, rest, shape, headed⟩ := FastPath.told_action (ClientFrame.found sendable).told
  have dispatched := dispatch_frame sendable session.channels
  rw [shape] at dispatched ⊢
  rw [backlog_eq running headed]
  rcases dispatched with ⟨served, dispatched, _, made⟩ | ⟨dispatched, forChannel⟩
  · rw [dispatched]
    exact ⟨_, _, rfl, running, made⟩
  · rw [dispatched]
    cases frame with
    | mcs message => exact ⟨_, _, rfl, running, rfl⟩
    | fastPath input => cases forChannel
    | ioData initiatorId control padding => cases forChannel

private theorem backlog_delivers (sendable : ∀ frame ∈ frames, frame.Sendable server)
    (running : session.phase = .running) :
    ∃ next effects, run (handleInputBacklog server) session (frames.map (ClientFrame.bytes server)) =
        some (next, effects) ∧ next.phase = .running ∧ calls effects = frames.flatMap ClientFrame.calls := by
  induction frames generalizing session with
  | nil => exact ⟨session, [], rfl, running, rfl⟩
  | cons frame rest ih =>
    obtain ⟨next, effects, stepped, stays, made⟩ := backlog_step (sendable frame (by simp)) running
    obtain ⟨final, later, ran, ended, madeLater⟩ :=
      ih (fun frame member => sendable frame (List.mem_cons_of_mem _ member)) stays
    refine ⟨final, _, run_step stepped ran, ended, ?_⟩
    rw [calls_append, made, madeLater]
    rfl

/-- What is no font list is kept. -/
theorem awaitFontList_keeps {kept : List Bytes} {ready : Bytes} {rest : List Bytes}
    (others : ∀ bytes ∈ kept, decodeShareControl codec bytes ≠ some .fontList)
    (fontList : decodeShareControl codec ready = some .fontList) (waiting : sequence.state = .waitFontList) :
    awaitFontList codec sequence (kept ++ ready :: rest) =
      some ({ sequence with
        state := .sendSynchronizeConfirm, inputEvents := sequence.inputEvents ++ kept }, rest) := by
  obtain ⟨state, userChannelId, ioChannelId, events⟩ := sequence
  cases waiting
  induction kept generalizing events with
  | nil => simp [awaitFontList, FinalizationSequence.step, fontList]
  | cons bytes later ih =>
    have other := others bytes (by simp)
    have stepped : FinalizationSequence.step codec { input := bytes, encoded := .ok 0, directory := () }
        ⟨.waitFontList, userChannelId, ioChannelId, events⟩ =
          some (.ok (.nothing, ⟨.waitFontList, userChannelId, ioChannelId, events ++ [bytes]⟩)) := by
      simp only [FinalizationSequence.step]
    simp only [List.cons_append, awaitFontList, stepped, ↓reduceIte]
    rw [ih (fun bytes member => others bytes (List.mem_cons_of_mem _ member)), List.append_assoc]
    rfl

private theorem sendConfirm_eq {encoded : FinalizationState → Except ConnectorError Nat}
    (written : ∀ state, ∃ size, encoded state = .ok (size + 1)) {next : FinalizationState}
    (sends : sequence.state = .sendSynchronizeConfirm ∧ next = .sendControlCooperateConfirm ∨
      sequence.state = .sendControlCooperateConfirm ∧ next = .sendGrantedControlConfirm ∨
      sequence.state = .sendGrantedControlConfirm ∧ next = .sendFontMap ∨
      sequence.state = .sendFontMap ∧ next = .finished) :
    sendConfirm codec encoded sequence = some { sequence with state := next } := by
  obtain ⟨size, made⟩ := written sequence.state
  rcases sends with ⟨state, rfl⟩ | ⟨state, rfl⟩ | ⟨state, rfl⟩ | ⟨state, rfl⟩ <;> rw [state] at made <;>
    simp [sendConfirm, FinalizationSequence.step, Handshake.Received.written, Handshake.Written.fromSize, state,
      made, Except.bind, Except.map]

/-- The answers leave the input events as they are. -/
theorem sendConfirms_eq {encoded : FinalizationState → Except ConnectorError Nat}
    (written : ∀ state, ∃ size, encoded state = .ok (size + 1))
    (ready : sequence.state = .sendSynchronizeConfirm) :
    sendConfirms codec encoded sequence = some { sequence with state := .finished } := by
  simp only [sendConfirms, Option.bind_eq_bind]
  rw [sendConfirm_eq written (.inl ⟨ready, rfl⟩), Option.bind_some,
    sendConfirm_eq written (.inr (.inl ⟨rfl, rfl⟩)), Option.bind_some,
    sendConfirm_eq written (.inr (.inr (.inl ⟨rfl, rfl⟩))), Option.bind_some,
    sendConfirm_eq written (.inr (.inr (.inr ⟨rfl, rfl⟩)))]

/-- The frames behind the backlog, where there is a session to serve them. -/
theorem entered_delivers (sendable : ∀ frame ∈ frames, frame.Sendable server) (running : session.phase = .running)
    (succeeds : Bool) :
    ∃ final later, run (step server) (enterClientLoop succeeds session) (frames.map (ClientFrame.bytes server)) =
        some (final, later) ∧
      if succeeds then Delivers frames final.phase (calls later)
      else final.phase = .failed .setup ∧ calls later = [] := by
  cases succeeds with
  | true =>
    have same : enterClientLoop true session = session := by simp only [enterClientLoop, running, ↓reduceIte]
    rw [same]
    exact run_delivers sendable running
  | false =>
    have failed : enterClientLoop false session = { session with phase := .failed .setup } := by
      simp only [enterClientLoop, running, Bool.false_eq_true, ↓reduceIte]
    have ended : (enterClientLoop false session).phase ≠ .running := by
      rw [failed]
      exact fun same => by cases same
    exact ⟨_, [], run_ended ended _, by rw [failed]; exact ⟨rfl, rfl⟩⟩

private theorem bytes_withoutChannels (frame : ClientFrame α) :
    frame.bytes (withoutChannels server) = frame.bytes server := by
  cases frame <;> rfl

private theorem sendable_withoutChannels (frame : ClientFrame α) :
    frame.Sendable (withoutChannels server) ↔ frame.Sendable server := by
  cases frame <;> rfl

variable {confirmed : α → List CapabilitySet}

/-- The acceptor takes the frame for the font list. -/
def TakenForFontList (server : Server σ α) (codec : Codec) (confirmed : α → List CapabilitySet)
    (frame : ClientFrame α) : Prop :=
  decodeShareControl (wireCodec codec server.foreign confirmed) (frame.bytes server) = some .fontList

/-- No input on the fast path is taken for the font list. -/
theorem fastPath_not_taken {input : FastPathInput} :
    ¬ TakenForFontList server codec confirmed (.fastPath input) := by
  obtain ⟨header, rest, shape, headed⟩ := FastPath.told_action input.found.told
  have other : header ≠ 3 := by
    rintro rfl
    cases headed
  have failed : ∃ error, Mcs.readTpktHeader (header :: rest) = some (.error error) := by
    by_cases room : 4 ≤ (header :: rest).length
    · have checked : Decoding.ensureSize 4 (header :: rest) = some (.ok ((), header :: rest)) := if_pos room
      refine ⟨.invalidField "TPKT version" "unsupported version", ?_⟩
      rw [Mcs.readTpktHeader, Decoding.bind_of_ok checked,
        Decoding.bind_of_ok (rfl : Decoding.readU8 (header :: rest) = some (.ok (header, rest))), if_pos other]
      rfl
    · refine ⟨.notEnoughBytes (header :: rest).length 4, ?_⟩
      simp only [Mcs.readTpktHeader, Bind.bind, Decoding.ensureSize, if_neg room]
  obtain ⟨error, failed⟩ := failed
  have refused : decoded Mcs.X224.decodeSendDataRequest input.bytes = none := by
    simp only [shape, decoded, Mcs.X224.decodeSendDataRequest, Mcs.readX224, Bind.bind, failed]
  rw [TakenForFontList, decodeShareControl]
  simp only [wireCodec, ClientFrame.bytes, refused]
  exact Option.some_ne_none _ ∘ Eq.symm

/-- What the acceptor reads of data on the I/O channel. -/
theorem ioData_decoded {initiatorId : UInt16} {control : ShareControlHeader α} {padding : Bytes}
    (sendable : (ClientFrame.ioData initiatorId control padding).Sendable server) :
    decodeShareControl (wireCodec codec server.foreign confirmed)
        ((ClientFrame.ioData initiatorId control padding).bytes server) =
      some (sharePdu confirmed control.received.shareControlPdu) := by
  have request := Mcs.X224.decodeSendDataRequest_reads sendable.2 []
  have unit := ShareControlHeader.decode_reads sendable.1 []
  rw [List.append_nil] at request unit
  have data : decoded Mcs.X224.decodeSendDataRequest
      (Mcs.X224.bytes (ClientFrame.ioMessage server initiatorId control padding)) =
      some ⟨initiatorId, server.ioChannelId, control.bytes server.foreign padding⟩ := by
    rw [decoded, ClientFrame.ioMessage, request]
  have header : decoded (ShareControlHeader.decode server.foreign) (control.bytes server.foreign padding) =
      some control.received := by
    rw [decoded, unit]
  rw [decodeShareControl]
  simp only [wireCodec, ClientFrame.bytes, data, Option.map_some, Option.bind_some, header]

/-- A data unit is taken for the font list when it is one, whatever its other fields hold. -/
theorem ioData_taken_iff {initiatorId : UInt16} {control : ShareControlHeader α} {padding : Bytes}
    (sendable : (ClientFrame.ioData initiatorId control padding).Sendable server) :
    TakenForFontList server codec confirmed (.ioData initiatorId control padding) ↔
      sharePdu confirmed control.received.shareControlPdu = .fontList := by
  rw [TakenForFontList, ioData_decoded sendable, Option.some.injEq]

/-- **No input is lost while the font list is awaited**: whatever frames come before
it, their calls are made first, none of them ending the session. Then come those of
the frames behind it, up to the end of the session, unless this cannot be set up. -/
theorem input_around_the_font_list {before after : List (ClientFrame α)} {ready : ClientFrame α}
    (sendable : ∀ frame ∈ before ++ ready :: after, frame.Sendable server)
    (others : ∀ frame ∈ before, ¬ TakenForFontList server codec confirmed frame)
    (fontList : TakenForFontList server codec confirmed ready) (waiting : sequence.state = .waitFontList)
    (unread : sequence.inputEvents = []) {encoded : FinalizationState → Except ConnectorError Nat}
    (written : ∀ state, ∃ size, encoded state = .ok (size + 1)) (succeeds : Bool) (channels : σ)
    (pieces : List Bytes)
    (whole : pieces.flatten = ((before ++ ready :: after).map (ClientFrame.bytes server)).flatten) :
    ∃ final effects later,
      acceptAndServe server (wireCodec codec server.foreign confirmed) encoded succeeds sequence channels pieces =
        some (final, effects) ∧
      (if succeeds then Delivers after final.phase later else final.phase = .failed .setup ∧ later = []) ∧
      calls effects = before.flatMap ClientFrame.calls ++ later := by
  have received : receive rdpHint [] pieces =
      ((before ++ ready :: after).map (ClientFrame.bytes server), .ok []) := by
    have delimits : ∀ bytes ∈ (before ++ ready :: after).map (ClientFrame.bytes server),
        Framing.Delimits rdpHint bytes := by
      intro bytes member
      obtain ⟨frame, inside, rfl⟩ := List.mem_map.mp member
      exact (ClientFrame.found (sendable frame inside)).delimits
    exact Framing.receive_pieces delimits pieces whole (Framing.short_nil delimits)
  have kept : ∀ bytes ∈ before.map (ClientFrame.bytes server),
      decodeShareControl (wireCodec codec server.foreign confirmed) bytes ≠ some .fontList := by
    intro bytes member
    obtain ⟨frame, inside, rfl⟩ := List.mem_map.mp member
    exact others frame inside
  have awaited : awaitFontList (wireCodec codec server.foreign confirmed) sequence
      (before.map (ClientFrame.bytes server) ++ ready.bytes server :: after.map (ClientFrame.bytes server)) = _ :=
    awaitFontList_keeps kept fontList waiting
  have early : ∀ frame ∈ before, frame.Sendable (withoutChannels server) := fun frame member =>
    (sendable_withoutChannels frame).mpr (sendable frame (List.mem_append_left _ member))
  have late : ∀ frame ∈ after, frame.Sendable server := fun frame member =>
    sendable frame (List.mem_append_right _ (List.mem_cons_of_mem _ member))
  have start : (⟨channels, .running⟩ : Session σ).phase = .running := rfl
  obtain ⟨session, effects, handled, running, made⟩ := backlog_delivers early start
  have same : before.map (ClientFrame.bytes (withoutChannels server)) = before.map (ClientFrame.bytes server) :=
    List.map_congr_left fun frame _ => bytes_withoutChannels frame
  rw [same] at handled
  obtain ⟨final, later, ran, delivers⟩ := entered_delivers late running succeeds
  refine ⟨final, effects ++ later, calls later, ?_, delivers, by rw [calls_append, made]⟩
  rw [acceptAndServe, received]
  simp only [List.map_append, List.map_cons, awaited, unread, List.nil_append, Option.bind_eq_bind,
    Option.bind_some]
  rw [sendConfirms_eq written rfl]
  simp only [Option.bind_some, handled, ran, final.close_left]
  rfl

/-- No decoder of the phases before. -/
def noCodec : Codec := ⟨fun _ => none, fun _ => none, fun _ => none, fun _ => none, fun _ => none, fun _ => none,
  fun _ => none, fun _ => none, fun _ => none, fun _ => none⟩

/-- The key `A` on the fast path. -/
def keyInput (release : Bool) : FastPathInput :=
  ⟨[Gesture.fastPath (.key 30 false release)], by cases release <;> decide⟩

/-- The same as a frame. -/
def keyFrame (release : Bool) : ClientFrame Empty := .fastPath (keyInput release)

/-- The font list of a client that has no fonts. -/
def fontListFrame : ClientFrame Empty :=
  .ioData 1007 ⟨.data ⟨.fontList ⟨0, 0, .fromBitsTruncate 3, 50⟩, .low, .empty, .k8⟩, 1007, 1⟩ []

theorem key_held_over_the_font_list : ∃ final effects later,
    acceptAndServe ioServer (wireCodec noCodec ioServer.foreign fun confirm => confirm.elim) (fun _ => .ok 1)
        true ⟨.waitFontList, 1002, 1003, []⟩ ()
        [([keyFrame false, fontListFrame, keyFrame true].map (ClientFrame.bytes ioServer)).flatten] =
      some (final, effects) ∧
    Delivers [keyFrame true] final.phase later ∧ calls effects = .keyboard (.pressed 30 false) :: later := by
  have sendable : ∀ frame ∈ [keyFrame false, fontListFrame, keyFrame true], frame.Sendable ioServer := by
    simp only [List.forall_mem_cons]
    exact ⟨trivial, ⟨⟨⟨trivial, rfl, by decide⟩, by decide, .inl rfl⟩, by decide, by decide⟩, trivial,
      List.forall_mem_nil _⟩
  have fontList : TakenForFontList ioServer noCodec (fun confirm => confirm.elim) fontListFrame :=
    (ioData_taken_iff (sendable fontListFrame (by simp))).mpr rfl
  have others : ∀ frame ∈ [keyFrame false],
      ¬ TakenForFontList ioServer noCodec (fun confirm => confirm.elim) frame := by
    simp only [List.forall_mem_cons]
    exact ⟨fastPath_not_taken, List.forall_mem_nil _⟩
  exact input_around_the_font_list sendable others fontList rfl rfl (fun _ => ⟨0, rfl⟩) true () _
    (List.append_nil _)

end Delivery
end Osxrdp.InputBacklog
