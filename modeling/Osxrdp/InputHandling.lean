import Osxrdp.FastPathEvents
import Osxrdp.Keyboard
import Osxrdp.Mcs
import Osxrdp.ShareData

/-! `handler.rs` and the half of `server.rs` that serves what the client sends:
its input becomes calls on the input handler, over the fast path and over the
I/O channel. What the static channels do with their messages is a parameter. -/
namespace Osxrdp.InputHandling
open FastPath (findSize rdpHint)
open FastPathEvents (FastPathInput FastPathInputEvent)
open Framing (receive)
open Input (MouseEvent)
open InputEvents
open Keyboard (KeyboardEvent)
open Mcs
open Runs (System run run_step)
open ShareData (Foreign ShareControlHeader ShareControlPdu ShareDataPdu)
open WireDecoding (DecodeError)

/-- What the server calls on the input handler. -/
inductive Call where
  | keyboard (event : KeyboardEvent)
  | mouse (event : MouseEvent)
  deriving DecidableEq, Repr

section Conversions

/-- A key of the fast path. -/
def keyboardFromFastPath (key : UInt8) (flags : FastPathEvents.KeyboardFlags) : KeyboardEvent :=
  let extended := flags.contains FastPathEvents.KeyboardFlags.extended
  if flags.contains FastPathEvents.KeyboardFlags.release then .released key extended else .pressed key extended

/-- A character of the fast path. -/
def keyboardFromFastPathUnicode (key : UInt16) (flags : FastPathEvents.KeyboardFlags) : KeyboardEvent :=
  if flags.contains FastPathEvents.KeyboardFlags.release then .unicodeReleased key else .unicodePressed key

/-- The code is cut to a byte. -/
def keyboardFromScanCode (key : UInt16) (flags : ScanCode.KeyboardFlags) : KeyboardEvent :=
  let extended := flags.contains ScanCode.KeyboardFlags.extended
  if flags.contains ScanCode.KeyboardFlags.release then .released key.toUInt8 extended
  else .pressed key.toUInt8 extended

/-- A character of the slow path. -/
def keyboardFromUnicode (key : UInt16) (flags : Unicode.KeyboardFlags) : KeyboardEvent :=
  if flags.contains Unicode.KeyboardFlags.release then .unicodeReleased key else .unicodePressed key

/-- The locks as the fast path reports them. -/
def keyboardFromSynchronize (flags : FastPathEvents.SynchronizeFlags) : KeyboardEvent :=
  .synchronize (UInt8.ofBitVec flags.bits)

/-- The locks as the slow path reports them. -/
def keyboardFromSyncToggle (flags : SyncToggleFlags) : KeyboardEvent :=
  keyboardFromSynchronize (.fromBitsTruncate (flags.bits.setWidth 8))

/-- The middle button and the horizontal wheel are taken for a motion. -/
def mouseFromPdu (value : MousePdu) : MouseEvent :=
  if value.flags.contains PointerFlags.leftButton then
    if value.flags.contains PointerFlags.down then .leftPressed else .leftReleased
  else if value.flags.contains PointerFlags.rightButton then
    if value.flags.contains PointerFlags.down then .rightPressed else .rightReleased
  else if value.flags.contains PointerFlags.verticalWheel then
    .verticalScroll value.numberOfWheelRotationUnits
  else .move value.xPosition value.yPosition

/-- The extended buttons are taken for the left and the right one. -/
def mouseFromXPdu (value : MouseXPdu) : MouseEvent :=
  if value.flags.contains PointerXFlags.button1 then
    if value.flags.contains PointerXFlags.down then .leftPressed else .leftReleased
  else if value.flags.contains PointerXFlags.button2 then
    if value.flags.contains PointerXFlags.down then .rightPressed else .rightReleased
  else .move value.xPosition value.yPosition

/-- A relative motion. -/
def mouseFromRelPdu (value : MouseRelPdu) : MouseEvent :=
  if value.flags.contains PointerRelFlags.button1 then
    if value.flags.contains PointerRelFlags.down then .leftPressed else .leftReleased
  else if value.flags.contains PointerRelFlags.button2 then
    if value.flags.contains PointerRelFlags.down then .rightPressed else .rightReleased
  else if value.flags.contains PointerRelFlags.button3 then
    if value.flags.contains PointerRelFlags.down then .middlePressed else .middleReleased
  else if value.flags.contains PointerRelFlags.xbutton1 then
    if value.flags.contains PointerRelFlags.down then .button4Pressed else .button4Released
  else if value.flags.contains PointerRelFlags.xbutton2 then
    if value.flags.contains PointerRelFlags.down then .button5Pressed else .button5Released
  else .relMove value.xDelta.toInt32 value.yDelta.toInt32

end Conversions

section Handlers

/-- The quality of the experience is only logged. -/
def fastPathCall : FastPathInputEvent → Option Call
  | .keyboardEvent flags key => some (.keyboard (keyboardFromFastPath key flags))
  | .unicodeKeyboardEvent flags key => some (.keyboard (keyboardFromFastPathUnicode key flags))
  | .syncEvent flags => some (.keyboard (keyboardFromSynchronize flags))
  | .mouseEvent mouse => some (.mouse (mouseFromPdu mouse))
  | .mouseEventEx mouse => some (.mouse (mouseFromXPdu mouse))
  | .mouseEventRel mouse => some (.mouse (mouseFromRelPdu mouse))
  | .qoeEvent _ => none

/-- `handle_fastpath`: the calls of the events, in order. -/
def handleFastpath (input : FastPathInput) : List Call := input.events.filterMap fastPathCall

/-- The call that an event of the slow path is for. -/
def inputCall : InputEvent → Option Call
  | .scanCode key => some (.keyboard (keyboardFromScanCode key.keyCode key.flags))
  | .unicode key => some (.keyboard (keyboardFromUnicode key.unicodeCode key.flags))
  | .sync sync => some (.keyboard (keyboardFromSyncToggle sync.flags))
  | .mouse mouse => some (.mouse (mouseFromPdu mouse))
  | .mouseX mouse => some (.mouse (mouseFromXPdu mouse))
  | .mouseRel mouse => some (.mouse (mouseFromRelPdu mouse))
  | .unused => none

/-- `handle_input_event` -/
def handleInputEvent (events : List InputEvent) : List Call := events.filterMap inputCall

/-- What comes of a message for a static channel: there may be no such channel,
its processor may answer, or it, the encoding of its answer or the writing may fail. -/
inductive ChannelOutcome (σ : Type) where
  | unknown
  | answered (channels : σ) (response : Bytes)
  | failed

/-- The static channels with their state in `σ`, the codecs of what is not looked
into, and the number of the I/O channel. -/
structure Server (σ α : Type) where
  foreign : Foreign α
  process : σ → UInt16 → Bytes → ChannelOutcome σ
  ioChannelId : UInt16

/-- What ends a session with an error: it cannot be set up, the header of a frame is
refused, a message cannot be decoded, or a static channel fails. -/
inductive Failure where
  | setup
  | frame (error : FastPath.FindError)
  | decode (error : DecodeError)
  | channel
  deriving DecidableEq, Repr

/-- What a session does: a call of the handlers, bytes sent. -/
inductive Effect where
  | call (call : Call)
  | response (bytes : Bytes)
  deriving DecidableEq, Repr

/-- A message was served; the client may have asked to disconnect. -/
structure Served (σ : Type) where
  channels : σ
  disconnect : Bool
  effects : List Effect

variable {σ α : Type}

/-- Whether the session is to be shut down, and the calls. -/
def handleShareControl : ShareControlPdu α → Bool × List Call
  | .data header => match header.shareDataPdu with
    | .input events => (false, handleInputEvent events)
    | .shutdownRequest => (true, [])
    | _ => (false, [])
  | _ => (false, [])

/-- `handle_io_channel_data`: input is handled, a shutdown asked for, anything else dropped. -/
def handleIoChannelData (server : Server σ α) (data : SendData) : Option (Except Failure (Bool × List Call)) :=
  match ShareControlHeader.decode server.foreign data.userData with
  | none => none
  | some (.error error) => some (.error (.decode error))
  | some (.ok (control, _)) => some (.ok (handleShareControl control.shareControlPdu))

/-- The message of a static channel. -/
def handleChannelData (server : Server σ α) (channels : σ) (data : SendData) : Except Failure (Served σ) :=
  match server.process channels data.channelId data.userData with
  | .unknown => .ok { channels, disconnect := false, effects := [] }
  | .answered channels response => .ok { channels, disconnect := false, effects := [.response response] }
  | .failed => .error .channel

/-- `handle_x224` -/
def handleX224 (server : Server σ α) (channels : σ) (frame : Bytes) : Option (Except Failure (Served σ)) :=
  match X224.decode frame with
  | none => none
  | some (.error error) => some (.error (.decode error))
  | some (.ok (message, _)) => match message with
    | .sendDataRequest data =>
      if data.channelId = server.ioChannelId then
        (handleIoChannelData server data).map fun result => result.map fun (disconnect, calls) =>
          { channels, disconnect, effects := calls.map .call }
      else some (handleChannelData server channels data)
    | .disconnectProviderUltimatum reason =>
      some (.ok { channels, disconnect := reason = .userRequested, effects := [] })
    | _ => some (.ok { channels, disconnect := false, effects := [] })

/-- `dispatch_pdu` -/
def dispatchPdu (server : Server σ α) (channels : σ) (action : FastPath.Action) (bytes : Bytes) :
    Option (Except Failure (Served σ)) :=
  match action with
  | .fastPath => match FastPathInput.decode bytes with
    | none => none
    | some (.error error) => some (.error (.decode error))
    | some (.ok (input, _)) =>
      some (.ok { channels, disconnect := false, effects := (handleFastpath input).map .call })
  | .x224 => handleX224 server channels bytes

end Handlers

section Session
variable {σ α : Type}

/-- Whether the session goes on. -/
inductive Phase where
  | running
  | disconnected
  | failed (failure : Failure)
  deriving DecidableEq, Repr

/-- The session and the static channels of its client. -/
structure Session (σ : Type) where
  channels : σ
  phase : Phase

/-- The action that `find_size` told of a frame: that of its first byte, which is
none of the others. -/
def frameAction (frame : Bytes) : FastPath.Action :=
  match FastPath.Action.fromFpOutputHeader (frame.headD 0) with
  | .ok action => action
  | .error _ => .fastPath

/-- One frame of the client; after the end nothing is read. -/
def step (server : Server σ α) : System (Session σ) Bytes Effect := fun session frame =>
  match session.phase with
  | .running => match dispatchPdu server session.channels (frameAction frame) frame with
    | none => none
    | some (.error failure) => some ({ session with phase := .failed failure }, [])
    | some (.ok served) =>
      let phase : Phase := if served.disconnect then .disconnected else .running
      some ({ channels := served.channels, phase }, served.effects)
  | _ => some (session, [])

/-- How the stream ends is learned by a session that still reads it. -/
def Session.close (session : Session σ) (left : Except FastPath.FindError Bytes) : Session σ :=
  match session.phase, left with
  | .running, .error error => { session with phase := .failed (.frame error) }
  | _, _ => session

/-- The stream of the client, in the pieces it arrives in. The frames before a
header that is refused are served; with it the session ends. -/
def serve (server : Server σ α) (session : Session σ) (pieces : List Bytes) :
    Option (Session σ × List Effect) :=
  let (frames, left) := receive rdpHint [] pieces
  (run (step server) session frames).map fun (final, effects) => (final.close left, effects)

/-- The call among the effects. -/
def Effect.asCall : Effect → Option Call
  | .call made => some made
  | .response _ => none

/-- The calls that were made, in order. -/
def calls (effects : List Effect) : List Call := effects.filterMap Effect.asCall

end Session

section Delivery
variable {σ α : Type}

/-- What a client sends: input on the fast path, data on the I/O channel with the
padding that it counts, or any other message. -/
inductive ClientFrame (α : Type) where
  | fastPath (input : FastPathInput)
  | ioData (initiatorId : UInt16) (control : ShareControlHeader α) (padding : Bytes)
  | mcs (message : McsMessage)

namespace ClientFrame

/-- The message that carries data on the input and output channel. -/
def ioMessage (server : Server σ α) (initiatorId : UInt16) (control : ShareControlHeader α) (padding : Bytes) :
    McsMessage :=
  .sendDataRequest ⟨initiatorId, server.ioChannelId, control.bytes server.foreign padding⟩

/-- The framing of a frame. -/
def action : ClientFrame α → FastPath.Action
  | .fastPath _ => .fastPath
  | .ioData _ _ _ | .mcs _ => .x224

/-- The bytes of a frame. -/
def bytes (server : Server σ α) : ClientFrame α → Bytes
  | .fastPath input => input.bytes
  | .ioData initiatorId control padding => X224.bytes (ioMessage server initiatorId control padding)
  | .mcs message => X224.bytes message

/-- A frame that fits on the wire. -/
def Sendable (server : Server σ α) : ClientFrame α → Prop
  | .fastPath _ => True
  | .ioData initiatorId control padding =>
    control.Fits server.foreign padding ∧ (ioMessage server initiatorId control padding).Fits
  | .mcs message =>
    message.Fits ∧ ∀ data, message = .sendDataRequest data → data.channelId ≠ server.ioChannelId

/-- The calls it stands for. -/
def calls : ClientFrame α → List Call
  | .fastPath input => handleFastpath input.received
  | .ioData _ control _ => (handleShareControl control.received.shareControlPdu).2
  | .mcs _ => []

/-- The frame asks for the end of the session. -/
def disconnects : ClientFrame α → Bool
  | .fastPath _ => false
  | .ioData _ control _ => (handleShareControl control.received.shareControlPdu).1
  | .mcs (.disconnectProviderUltimatum reason) => reason = .userRequested
  | .mcs _ => false

/-- The frame is for a static channel. -/
def isChannelData : ClientFrame α → Bool
  | .mcs (.sendDataRequest _) => true
  | _ => false

end ClientFrame

variable {server : Server σ α} {session : Session σ} {frame : ClientFrame α} {frames : List (ClientFrame α)}

/-- Bytes that are left over are no error. -/
theorem Session.close_left (session : Session σ) (left : Bytes) : session.close (.ok left) = session := by
  unfold Session.close
  cases session.phase <;> rfl

/-- `find_size` finds the frame in front of any bytes. -/
theorem ClientFrame.found (sendable : frame.Sendable server) :
    FastPath.Found frame.action (frame.bytes server) := by
  cases frame with
  | fastPath input => exact input.found
  | ioData initiatorId control padding => exact X224.found sendable.2
  | mcs message => exact X224.found sendable.1

private theorem calls_map_call (made : List Call) : calls (made.map Effect.call) = made := by
  simp [calls, List.filterMap_map, Function.comp_def, Effect.asCall]

/-- What is done with a frame: its calls are made and its wish to disconnect is
followed, unless a static channel fails. -/
theorem dispatch_frame (sendable : frame.Sendable server) (channels : σ) :
    (∃ served : Served σ, dispatchPdu server channels frame.action (frame.bytes server) = some (.ok served) ∧
        served.disconnect = frame.disconnects ∧ calls served.effects = frame.calls) ∨
      dispatchPdu server channels frame.action (frame.bytes server) = some (.error .channel) ∧
        frame.isChannelData = true := by
  cases frame with
  | fastPath input =>
    have read := input.decode_reads []
    rw [List.append_nil] at read
    refine .inl ⟨⟨channels, false, (handleFastpath input.received).map .call⟩, ?_, rfl, calls_map_call _⟩
    simp only [dispatchPdu, ClientFrame.action, ClientFrame.bytes, read]
  | ioData initiatorId control padding =>
    have read := X224.decode_reads sendable.2 []
    have unit := ShareControlHeader.decode_reads sendable.1 []
    rw [List.append_nil] at read unit
    refine .inl ⟨⟨channels, _, (handleShareControl control.received.shareControlPdu).2.map .call⟩, ?_, rfl,
      calls_map_call _⟩
    simp only [dispatchPdu, ClientFrame.action, ClientFrame.bytes, handleX224, read]
    rw [ClientFrame.ioMessage]
    simp only [handleIoChannelData, unit, ↓reduceIte]
    rfl
  | mcs message =>
    have read := X224.decode_reads sendable.1 []
    rw [List.append_nil] at read
    cases message with
    | sendDataRequest data =>
      have other := sendable.2 data rfl
      simp only [dispatchPdu, ClientFrame.action, ClientFrame.bytes, handleX224, read, if_neg other,
        handleChannelData]
      cases server.process channels data.channelId data.userData with
      | unknown => exact .inl ⟨_, rfl, rfl, rfl⟩
      | answered channels response => exact .inl ⟨_, rfl, rfl, rfl⟩
      | failed => exact .inr ⟨rfl, rfl⟩
    | disconnectProviderUltimatum reason =>
      refine .inl ⟨⟨channels, reason = .userRequested, []⟩, ?_, rfl, rfl⟩
      simp only [dispatchPdu, ClientFrame.action, ClientFrame.bytes, handleX224, read]
    | _ =>
      refine .inl ⟨⟨channels, false, []⟩, ?_, rfl, rfl⟩
      simp only [dispatchPdu, ClientFrame.action, ClientFrame.bytes, handleX224, read]

/-- What a session delivers of the frames: the calls of one after the other, up to
the first that disconnects or that a static channel fails on. -/
inductive Delivers : List (ClientFrame α) → Phase → List Call → Prop
  | all : Delivers [] .running []
  | next {frame : ClientFrame α} {frames : List (ClientFrame α)} {phase : Phase} {later : List Call}
      (stays : frame.disconnects = false) (rest : Delivers frames phase later) :
      Delivers (frame :: frames) phase (frame.calls ++ later)
  | disconnected {frame : ClientFrame α} (frames : List (ClientFrame α)) (asks : frame.disconnects = true) :
      Delivers (frame :: frames) .disconnected frame.calls
  | failed {frame : ClientFrame α} (frames : List (ClientFrame α)) (forChannel : frame.isChannelData = true) :
      Delivers (frame :: frames) (.failed .channel) []

/-- A session that has ended reads nothing. -/
theorem run_ended (ended : session.phase ≠ .running) (read : List Bytes) :
    run (step server) session read = some (session, []) := by
  induction read with
  | nil => rfl
  | cons frame rest ih =>
    have unread : step server session frame = some (session, []) := by
      unfold step
      split
      · exact absurd ‹session.phase = .running› ended
      · rfl
    exact run_step unread ih

private theorem frameAction_told {bytes : Bytes} {info : FastPath.PduInfo} (told : findSize bytes = .ok (some info)) :
    frameAction bytes = info.action := by
  obtain ⟨header, rest, rfl, action⟩ := FastPath.told_action told
  simp only [frameAction, List.headD_cons, action]

/-- A running session dispatches the frame. -/
theorem step_running {bytes : Bytes} (running : session.phase = .running) :
    step server session bytes = match dispatchPdu server session.channels (frameAction bytes) bytes with
      | none => none
      | some (.error failure) => some ({ session with phase := .failed failure }, [])
      | some (.ok served) => some
        ({ channels := served.channels, phase := if served.disconnect then .disconnected else .running },
          served.effects) := by
  simp only [step, running]

theorem calls_append (first second : List Effect) : calls (first ++ second) = calls first ++ calls second :=
  List.filterMap_append ..

/-- Frames that can be sent are delivered, up to the one that ends the session. -/
theorem run_delivers (sendable : ∀ frame ∈ frames, frame.Sendable server) (running : session.phase = .running) :
    ∃ final effects, run (step server) session (frames.map (ClientFrame.bytes server)) = some (final, effects) ∧
      Delivers frames final.phase (calls effects) := by
  induction frames generalizing session with
  | nil =>
    refine ⟨session, [], rfl, ?_⟩
    rw [running]
    exact .all
  | cons frame rest ih =>
    have fits := sendable frame (by simp)
    have action : frameAction (frame.bytes server) = frame.action := frameAction_told (ClientFrame.found fits).told
    have stepped : step server session (frame.bytes server) = _ := step_running running
    rw [action] at stepped
    have later := fun frame member => sendable frame (List.mem_cons_of_mem _ member)
    rw [List.map_cons]
    rcases dispatch_frame fits session.channels with ⟨served, dispatched, disconnect, made⟩ | ⟨dispatched, forChannel⟩
    · rw [dispatched] at stepped
      cases asks : frame.disconnects with
      | true =>
        simp only [disconnect, asks, ↓reduceIte] at stepped
        have ended : (⟨served.channels, .disconnected⟩ : Session σ).phase ≠ .running := fun same => by cases same
        refine ⟨_, _, run_step stepped (run_ended ended _), ?_⟩
        rw [List.append_nil, made]
        exact .disconnected rest asks
      | false =>
        simp only [disconnect, asks, Bool.false_eq_true, ↓reduceIte] at stepped
        have stays : (⟨served.channels, .running⟩ : Session σ).phase = .running := rfl
        obtain ⟨final, effects, ran, delivers⟩ := ih later stays
        refine ⟨final, _, run_step stepped ran, ?_⟩
        rw [calls_append, made]
        exact .next asks delivers
    · rw [dispatched] at stepped
      have ended : (⟨session.channels, .failed .channel⟩ : Session σ).phase ≠ .running := fun same => by cases same
      exact ⟨_, _, run_step stepped (run_ended ended _), .failed rest forChannel⟩

/-- The frames arrive whatever the pieces of the stream, and are served in turn. -/
theorem serve_delivers (sendable : ∀ frame ∈ frames, frame.Sendable server) (running : session.phase = .running)
    (pieces : List Bytes) (whole : pieces.flatten = (frames.map (ClientFrame.bytes server)).flatten) :
    ∃ final effects, serve server session pieces = some (final, effects) ∧
      Delivers frames final.phase (calls effects) := by
  have received : receive rdpHint [] pieces = (frames.map (ClientFrame.bytes server), .ok []) := by
    have delimits : ∀ frame ∈ frames.map (ClientFrame.bytes server), Framing.Delimits rdpHint frame := by
      intro bytes member
      obtain ⟨frame, inside, rfl⟩ := List.mem_map.mp member
      exact (ClientFrame.found (sendable frame inside)).delimits
    exact Framing.receive_pieces delimits pieces whole (Framing.short_nil delimits)
  obtain ⟨final, effects, ran, delivers⟩ := run_delivers sendable running
  refine ⟨final, effects, ?_, delivers⟩
  rw [serve, received]
  simp only [ran, Option.map_some, final.close_left]

end Delivery

section Gestures

/-- What a user does at the keyboard or with the pointer. -/
inductive Gesture where
  | key (code : UInt8) (extended release : Bool)
  | unicode (code : UInt16) (release : Bool)
  | locks (flags : FastPathEvents.SynchronizeFlags)
  | mouse (pdu : MousePdu)
  | mouseX (pdu : MouseXPdu)
  | mouseRel (pdu : MouseRelPdu)
  deriving DecidableEq

namespace Gesture

/-- Two named bits, each set or not. -/
def twoFlags {w : Nat} (first second : BitVec w) (firstSet secondSet : Bool) : BitVec w :=
  (if firstSet then first else 0) ||| if secondSet then second else 0

/-- The gesture on the fast path. -/
def fastPath : Gesture → FastPathInputEvent
  | .key code extended release =>
    .keyboardEvent (.fromBitsTruncate (twoFlags FastPathEvents.KeyboardFlags.extended
      FastPathEvents.KeyboardFlags.release extended release)) code
  | .unicode code release =>
    .unicodeKeyboardEvent (.fromBitsTruncate (twoFlags 0 FastPathEvents.KeyboardFlags.release false release)) code
  | .locks flags => .syncEvent flags
  | .mouse pdu => .mouseEvent pdu
  | .mouseX pdu => .mouseEventEx pdu
  | .mouseRel pdu => .mouseEventRel pdu

/-- The gesture on the slow path. -/
def slowPath : Gesture → InputEvent
  | .key code extended release =>
    .scanCode ⟨.fromBitsTruncate (twoFlags ScanCode.KeyboardFlags.extended ScanCode.KeyboardFlags.release
      extended release), code.toUInt16⟩
  | .unicode code release =>
    .unicode ⟨.fromBitsTruncate (twoFlags 0 Unicode.KeyboardFlags.release false release), code⟩
  | .locks flags => .sync ⟨.fromBitsTruncate (flags.bits.setWidth 32)⟩
  | .mouse pdu => .mouse pdu
  | .mouseX pdu => .mouseX pdu
  | .mouseRel pdu => .mouseRel pdu

/-- The call it comes to. -/
def call : Gesture → Call
  | .key code extended release => .keyboard (if release then .released code extended else .pressed code extended)
  | .unicode code release => .keyboard (if release then .unicodeReleased code else .unicodePressed code)
  | .locks flags => .keyboard (.synchronize (UInt8.ofBitVec flags.bits))
  | .mouse pdu => .mouse (mouseFromPdu pdu.received)
  | .mouseX pdu => .mouse (mouseFromXPdu pdu)
  | .mouseRel pdu => .mouse (mouseFromRelPdu pdu)

private theorem fastPath_call (gesture : Gesture) : fastPathCall gesture.fastPath.received = some gesture.call := by
  cases gesture with
  | key code extended release => cases extended <;> cases release <;> rfl
  | unicode code release => cases release <;> rfl
  | locks flags | mouse pdu | mouseX pdu | mouseRel pdu => rfl

private theorem slowPath_call (gesture : Gesture) : inputCall gesture.slowPath.received = some gesture.call := by
  cases gesture with
  | key code extended release =>
    have kept : code.toUInt16.toUInt8 = code := UInt8.toUInt8_toUInt16 code
    cases extended <;> cases release <;>
      simp only [slowPath, InputEvent.received, inputCall, keyboardFromScanCode, kept] <;> rfl
  | unicode code release =>
    cases release <;> simp only [slowPath, InputEvent.received, inputCall, keyboardFromUnicode] <;> rfl
  | locks flags =>
    have narrowed : (Bitflags.Flags.fromBitsTruncate (flags.bits.setWidth 32) : SyncToggleFlags).bits.setWidth 8 =
        flags.bits := by
      have all : SyncToggleFlags.all.setWidth 8 = FastPathEvents.SynchronizeFlags.all := rfl
      rw [Bitflags.Flags.fromBitsTruncate, BitVec.setWidth_and, BitVec.setWidth_setWidth_of_le _ (by decide),
        BitVec.setWidth_eq, all, flags.named]
    have same : keyboardFromSyncToggle (.fromBitsTruncate (flags.bits.setWidth 32)) =
        .synchronize (UInt8.ofBitVec flags.bits) := by
      rw [keyboardFromSyncToggle, narrowed, Bitflags.Flags.fromBitsTruncate_bits]
      rfl
    exact congrArg (fun event => some (Call.keyboard event)) same
  | mouse pdu | mouseX pdu | mouseRel pdu => rfl

end Gesture

variable {σ α : Type} {server : Server σ α} {session : Session σ} {frame : ClientFrame α} {gestures : List Gesture}
  {sent : List (ClientFrame α × List Gesture)}

/-- The frame holds these gestures, on the one path or on the other. -/
def ClientFrame.Holds : ClientFrame α → List Gesture → Prop
  | .fastPath input, gestures => input.events = gestures.map Gesture.fastPath
  | .ioData _ control _, gestures => ∃ header, control.shareControlPdu = .data header ∧
    header.shareDataPdu = .input (gestures.map Gesture.slowPath)
  | .mcs _, _ => False

private theorem calls_of_events {ε : Type} {event : Gesture → ε} {received : ε → ε} {callOf : ε → Option Call}
    (each : ∀ gesture, callOf (received (event gesture)) = some gesture.call) :
    ((gestures.map event).map received).filterMap callOf = gestures.map Gesture.call := by
  have same : callOf ∘ received ∘ event = fun gesture => some gesture.call := funext each
  rw [List.map_map, List.filterMap_map, same, List.filterMap_eq_map']

/-- Either path stands for the calls of its gestures and for nothing else. -/
theorem ClientFrame.Holds.calls (holds : frame.Holds gestures) :
    frame.calls = gestures.map Gesture.call ∧ frame.disconnects = false ∧ frame.isChannelData = false := by
  cases frame with
  | fastPath input =>
    refine ⟨?_, rfl, rfl⟩
    have events : input.received.events = (gestures.map Gesture.fastPath).map FastPathInputEvent.received :=
      congrArg (List.map _) holds
    rw [ClientFrame.calls, handleFastpath, events]
    exact calls_of_events Gesture.fastPath_call
  | ioData initiatorId control padding =>
    obtain ⟨header, data, input⟩ := holds
    have handled : handleShareControl control.received.shareControlPdu =
        (false, handleInputEvent ((gestures.map Gesture.slowPath).map InputEvent.received)) := by
      rw [ShareControlHeader.received, data, ShareControlPdu.received]
      simp only [ShareData.ShareDataHeader.received, input, handleShareControl, ShareDataPdu.received]
    rw [ClientFrame.calls, ClientFrame.disconnects, handled]
    exact ⟨calls_of_events Gesture.slowPath_call, rfl, rfl⟩
  | mcs message => exact holds.elim

private theorem delivered_gestures {phase : Phase} {made : List Call} (holds : ∀ pair ∈ sent, pair.1.Holds pair.2)
    (delivers : Delivers (sent.map Prod.fst) phase made) :
    phase = .running ∧ made = (sent.flatMap Prod.snd).map Gesture.call := by
  induction sent generalizing made with
  | nil =>
    cases delivers
    exact ⟨rfl, rfl⟩
  | cons pair rest ih =>
    obtain ⟨calls, stays, plain⟩ := (holds pair (by simp)).calls
    rw [List.map_cons] at delivers
    cases delivers with
    | next _ delivered =>
      obtain ⟨running, made⟩ := ih (fun pair member => holds pair (List.mem_cons_of_mem _ member)) delivered
      rw [made, calls, List.flatMap_cons, List.map_append]
      exact ⟨running, rfl⟩
    | disconnected _ asks =>
      rw [stays] at asks
      cases asks
    | failed _ forChannel =>
      rw [plain] at forChannel
      cases forChannel

/-- **The gestures of a user reach the input handler in order**, whatever frames
they are put in, on whichever path each of these goes, and wherever the stream
is cut. -/
theorem gestures_arrive (sendable : ∀ pair ∈ sent, pair.1.Sendable server)
    (holds : ∀ pair ∈ sent, pair.1.Holds pair.2)
    (running : session.phase = .running) (pieces : List Bytes)
    (whole : pieces.flatten = (sent.map fun pair => pair.1.bytes server).flatten) :
    ∃ final effects, serve server session pieces = some (final, effects) ∧ final.phase = .running ∧
      calls effects = (sent.flatMap Prod.snd).map Gesture.call := by
  have frames : ∀ frame ∈ sent.map Prod.fst, frame.Sendable server := by
    intro frame member
    obtain ⟨pair, inside, rfl⟩ := List.mem_map.mp member
    exact sendable pair inside
  have stream : pieces.flatten = ((sent.map Prod.fst).map (ClientFrame.bytes server)).flatten := by
    rw [whole, List.map_map]
    rfl
  obtain ⟨final, effects, served, delivers⟩ := serve_delivers frames running pieces stream
  obtain ⟨phase, made⟩ := delivered_gestures holds delivers
  exact ⟨final, effects, served, phase, made⟩

/-- Nothing but the I/O channel. -/
def ioServer : Server Unit Empty where
  foreign := ShareData.noForeign
  process _ _ _ := .unknown
  ioChannelId := 1003

/-- A key goes down on the fast path, it goes up and the wheel turns on the other. -/
def typed : List (ClientFrame Empty × List Gesture) :=
  [(.fastPath ⟨[Gesture.fastPath (.key 30 false false)], by decide⟩, [.key 30 false false]),
   (.ioData 1007 ⟨.data ⟨.input [Gesture.slowPath (.key 30 false true),
        Gesture.slowPath (.mouse ⟨.fromBitsTruncate PointerFlags.verticalWheel, 120, 0, 0⟩)],
          .low, .empty, .k8⟩, 1007, 1⟩ [0],
     [.key 30 false true, .mouse ⟨.fromBitsTruncate PointerFlags.verticalWheel, 120, 0, 0⟩])]

/-- Keys typed on both paths, cut into single bytes. -/
theorem typed_keys_arrive : ∃ final effects,
    serve ioServer ⟨(), .running⟩ (((typed.map fun pair => pair.1.bytes ioServer).flatten).map fun byte => [byte]) =
        some (final, effects) ∧ final.phase = .running ∧
      calls effects = [.keyboard (.pressed 30 false), .keyboard (.released 30 false),
        .mouse (.verticalScroll 120)] := by
  have sendable : ∀ pair ∈ typed, pair.1.Sendable ioServer := by
    have two : 2 < UInt16.size := by decide
    simp only [typed, List.forall_mem_cons]
    exact ⟨trivial, ⟨⟨⟨two, rfl, by decide⟩, by decide, .inl rfl⟩, by decide, by decide⟩, List.forall_mem_nil _⟩
  have holds : ∀ pair ∈ typed, pair.1.Holds pair.2 := by
    simp only [typed, List.forall_mem_cons]
    exact ⟨rfl, ⟨_, rfl, rfl⟩, List.forall_mem_nil _⟩
  have whole : ∀ bytes : Bytes, (bytes.map fun byte => [byte]).flatten = bytes := by
    intro bytes
    induction bytes with
    | nil => rfl
    | cons byte rest ih => exact congrArg (byte :: ·) ih
  exact gestures_arrive sendable holds rfl _ (whole _)

end Gestures

section Safety
variable {σ α : Type} {server : Server σ α} {session : Session σ}

/-- What panics where a data unit is decoded is the decoder of one that is not looked into. -/
theorem decode_panics {foreign : Foreign α} {src : Bytes} (panics : ShareControlHeader.decode foreign src = none) :
    ∃ kind src, foreign.decode kind src = none := by
  by_contra safe
  have foreignSafe : ∀ kind, WireDecoding.Decoding.SafeFrom 0 (foreign.decode kind) :=
    fun kind src _ panics => safe ⟨kind, src, panics⟩
  exact ShareControlHeader.decode_safe foreignSafe src (Nat.zero_le _) panics

private theorem handleX224_panics {channels : σ} {frame : Bytes} (panics : handleX224 server channels frame = none) :
    ∃ kind src, server.foreign.decode kind src = none := by
  unfold handleX224 at panics
  split at panics
  · exact absurd ‹X224.decode frame = none› (X224.decode_safe frame (Nat.zero_le _))
  · cases panics
  · split at panics
    · split at panics
      · rw [Option.map_eq_none_iff, handleIoChannelData] at panics
        split at panics
        · exact decode_panics ‹_›
        · cases panics
        · cases panics
      · cases panics
    · cases panics
    · cases panics

/-- A frame that was cut off where its header told. -/
theorem dispatchPdu_panics {channels : σ} {frame : Bytes} (cut : Framing.Cut rdpHint frame)
    (panics : dispatchPdu server channels (frameAction frame) frame = none) :
    ∃ kind src, server.foreign.decode kind src = none := by
  obtain ⟨buffer, n, hinted, whole, rfl⟩ := cut
  obtain ⟨info, told, rfl⟩ : ∃ info, findSize buffer = .ok (some info) ∧ info.length = n := by
    unfold rdpHint at hinted
    cases found : findSize buffer with
    | error error =>
      rw [found] at hinted
      cases hinted
    | ok told =>
      rw [found] at hinted
      cases told with
      | none => cases hinted
      | some info =>
        cases hinted
        exact ⟨info, rfl, rfl⟩
  obtain ⟨action, n⟩ := info
  have empty : frameAction [] = .fastPath := rfl
  obtain ⟨header, rest, rfl, headed⟩ := FastPath.told_action told
  have headAction : ∀ tail, frameAction (header :: tail) = action := by
    intro tail
    simp only [frameAction, List.headD_cons, headed]
  have fastPath : ∀ bytes, FastPathInput.decode bytes ≠ none →
      dispatchPdu server channels .fastPath bytes ≠ none := by
    intro bytes safe none
    simp only [dispatchPdu] at none
    split at none
    · exact safe ‹_›
    · cases none
    · cases none
  cases n with
  | zero =>
    rw [List.take_zero, empty] at panics
    exact absurd panics (fastPath [] (Option.some_ne_none _))
  | succ n =>
    rw [List.take_succ_cons, headAction] at panics
    cases action with
    | fastPath =>
      have safe := FastPathInput.decode_of_cut told whole
      rw [List.take_succ_cons] at safe
      exact absurd panics (fastPath _ safe)
    | x224 => exact handleX224_panics panics

/-- **No stream of bytes makes the server panic**, as long as the decoders do not
that are not looked into. A stream with a header that is refused ends the session
behind the frames before it. -/
theorem serve_never_panics (foreignSafe : ∀ kind src, server.foreign.decode kind src ≠ none) (pieces : List Bytes) :
    serve server session pieces ≠ none := by
  intro panics
  rw [serve, Option.map_eq_none_iff] at panics
  obtain ⟨frame, member, reached, failed⟩ := Runs.fails_at_step panics
  have cut : Framing.Cut rdpHint frame := Framing.receive_cuts frame member
  unfold step at failed
  split at failed
  · split at failed
    · obtain ⟨kind, src, panicked⟩ := dispatchPdu_panics cut ‹_›
      exact foreignSafe kind src panicked
    · cases failed
    · cases failed
  · cases failed

/-- A key is pressed; the header behind it tells no frame. -/
theorem unknown_frame_is_survived : serve ioServer ⟨(), .running⟩ [[0x04, 0x04, 0x00, 0x1E, 0x02]] ≠ none :=
  serve_never_panics (fun _ _ => Option.some_ne_none _) _

end Safety
end Osxrdp.InputHandling
