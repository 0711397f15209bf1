import Osxrdp.FastPath

/-! `encoder/fast_path.rs` and the writer of `dispatch_display_update`: an update
goes out in fragments. A client that takes the stream apart in whatever pieces
it arrives, and puts the fragments together again, gets the updates. -/
namespace Osxrdp.UpdateFragments
open FastPath FastPath.FastPathUpdatePdu
open Framing (Delimits receive receive_pieces short_nil)
open WireEncoding (Encoding)
open WireDecoding.Decoding (Reads)
open Runs (run run_step)

/-- The largest fragment, of which the headers leave room. -/
def maxFastpathUpdateSize : Nat := 16374

/-- The bytes for the two headers of a fragment. -/
def fastpathHeaderSize : Nat := 6

/-- An update on its way out. -/
structure UpdateFragmenter where
  code : UpdateCode
  index : Nat
  data : Bytes
  position : Nat
  within : position ≤ data.length

namespace UpdateFragmenter

/-- `UpdateFragmenter::new` -/
def new (code : UpdateCode) (data : Bytes) : UpdateFragmenter :=
  { code, index := 0, data, position := 0, within := Nat.zero_le _ }

/-- `size_hint` -/
def sizeHint (fragmenter : UpdateFragmenter) : Nat :=
  fastpathHeaderSize + min fragmenter.data.length maxFastpathUpdateSize

/-- `encode_fastpath` into `room` bytes; the outer `none` is a panic. -/
def encodeFastpath (fragmenter : UpdateFragmenter) (frag : Fragmentation) (data : Bytes) (room : Nat) :
    Option (Option Bytes) :=
  let update := plain frag fragmenter.code data
  let header := FastPathHeader.new .empty update.size
  (Encoding.andThen header.encode update.encode room).map Except.toOption

/-- `encode_next`: what is consumed of the data and the bytes that are written. -/
def encodeNext (fragmenter : UpdateFragmenter) (room : Nat) :
    Option (Option ({ consumed // fragmenter.position + consumed ≤ fragmenter.data.length } × Bytes)) :=
  let left := fragmenter.data.drop fragmenter.position
  if fragmenter.data.length - fragmenter.position = 0 then some none
  else if long : fragmenter.data.length - fragmenter.position ≤ maxFastpathUpdateSize then
    let frag := if fragmenter.index > 0 then .last else .single
    (fragmenter.encodeFastpath frag left room).map (·.map fun written =>
      (⟨fragmenter.data.length - fragmenter.position, by have := fragmenter.within; omega⟩, written))
  else
    let frag := if fragmenter.index > 0 then .next else .first
    (fragmenter.encodeFastpath frag (left.take maxFastpathUpdateSize) room).map (·.map fun written =>
      (⟨maxFastpathUpdateSize, by omega⟩, written))

/-- `UpdateFragmenter::next`: the next fragment, written to a buffer. -/
def next (fragmenter : UpdateFragmenter) (room : Nat) : Option (Option (Bytes × UpdateFragmenter)) :=
  (fragmenter.encodeNext room).map (·.map fun (consumed, written) =>
    (written, { fragmenter with
      position := fragmenter.position + consumed.val
      index := fragmenter.index + 1
      within := consumed.property }))

/-- The `while let` loop that writes the fragments out. Each takes at least a
byte of the data, so the bytes that are left bound their number. -/
def writeAll (room : Nat) : Nat → UpdateFragmenter → Option (List Bytes)
  | 0, _ => some []
  | fuel + 1, fragmenter => (fragmenter.next room).bind fun
    | none => some []
    | some (written, later) => (writeAll room fuel later).map (written :: ·)

end UpdateFragmenter

/-- What is sent to the client: an update, or a packet that goes out as it is. -/
inductive Message where
  | update (code : UpdateCode) (data : Bytes)
  | packet (packet : Bytes)
  deriving DecidableEq

/-- The length of the buffer after it was resized for an update that needs more. -/
def resize (buffer : Nat) (fragmenter : UpdateFragmenter) : Nat :=
  if fragmenter.sizeHint > buffer then fragmenter.sizeHint else buffer

/-- The state is the length of the buffer that fragments are encoded into. -/
def send : Runs.System Nat Message Bytes
  | buffer, .packet packet => some (buffer, [tpkt packet])
  | buffer, .update code data =>
    let fragmenter := UpdateFragmenter.new code data
    let buffer := resize buffer fragmenter
    (fragmenter.writeAll buffer data.length).map fun written => (buffer, written)

/-- A frame as the client understands it. -/
inductive Frame where
  | fragment (update : FastPathUpdatePdu)
  | packet (packet : Bytes)
  deriving DecidableEq

/-- The bytes of a frame. -/
def Frame.bytes : Frame → Bytes
  | .fragment update => pduBytes update
  | .packet data => tpkt data

/-- What the client makes of the bytes of one frame. -/
def decodeFrame (bytes : Bytes) : Option Frame :=
  match findSize bytes with
  | .ok (some ⟨.x224, _⟩) => some (.packet (bytes.drop 4))
  | .ok (some ⟨.fastPath, _⟩) =>
    match (do let _ ← FastPathHeader.decode; FastPathUpdatePdu.decode) bytes with
    | some (.ok (update, [])) => some (.fragment update)
    | _ => none
  | _ => none

/-- Fragments are put together; one out of order is refused. -/
def reassemble : Runs.System (Option (UpdateCode × Bytes)) Frame Message
  | pending, .packet packet => some (pending, [.packet packet])
  | none, .fragment update => match update.fragmentation with
    | .single => some (none, [.update update.updateCode update.data])
    | .first => some (some (update.updateCode, update.data), [])
    | .next | .last => none
  | some (code, data), .fragment update =>
    if update.updateCode ≠ code then none else match update.fragmentation with
    | .next => some (some (code, data ++ update.data), [])
    | .last => some (none, [.update code (data ++ update.data)])
    | .single | .first => none

/-- What a client has received when all pieces of the stream are there. -/
def clientReceives (pieces : List Bytes) : Option (List Message) :=
  match receive rdpHint [] pieces with
  | (frames, .ok []) => (frames.mapM decodeFrame).bind fun frames =>
    match run reassemble none frames with
    | some (none, messages) => some messages
    | _ => none
  | _ => none

/-- An update without data has no fragments. -/
def Message.isSent : Message → Bool
  | .update _ data => !data.isEmpty
  | .packet _ => true

section Frames
variable {frag : Fragmentation} {code : UpdateCode} {data packet : Bytes} {room : Nat}

private theorem minimalSize_le (header : FastPathHeader) : header.minimalSize ≤ 3 := by
  unfold FastPathHeader.minimalSize sizeofLength
  split <;> omega

private theorem pdu_small (fits : data.length ≤ maxFastpathUpdateSize) :
    (FastPathHeader.new .empty (plain frag code data).size).dataLength +
      (FastPathHeader.new .empty (plain frag code data).size).minimalSize < 32768 := by
  have size : (plain frag code data).size = 3 + data.length := rfl
  have header := minimalSize_le (.new .empty (plain frag code data).size)
  have limit : data.length ≤ 16374 := fits
  simp only [FastPathHeader.new] at header ⊢
  omega

private theorem data_small (fits : data.length ≤ maxFastpathUpdateSize) : data.length < UInt16.size :=
  Nat.lt_of_le_of_lt fits (by decide)

private theorem pdu_length (fits : data.length ≤ maxFastpathUpdateSize) :
    (pduBytes (plain frag code data)).length ≤ fastpathHeaderSize + data.length := by
  have size : (plain frag code data).size = 3 + data.length := rfl
  have header := minimalSize_le (.new .empty (plain frag code data).size)
  rw [pduBytes, List.length_append, FastPathHeader.bytes_length (pdu_small fits), bytes_length, fastpathHeaderSize]
  omega

private theorem encodeFastpath_writes {fragmenter : UpdateFragmenter} (fits : data.length ≤ maxFastpathUpdateSize)
    (enough : fastpathHeaderSize + data.length ≤ room) :
    fragmenter.encodeFastpath frag data room = some (some (pduBytes (plain frag fragmenter.code data))) := by
  have header := FastPathHeader.encode_writes (.new .empty (plain frag fragmenter.code data).size) rfl
    (pdu_small fits)
  have update := encode_writes frag fragmenter.code (data_small fits)
  have written := (header.andThen update) room (Nat.le_trans (pdu_length fits) enough)
  rw [UpdateFragmenter.encodeFastpath, written]
  rfl

private theorem pdu_found (fits : data.length ≤ maxFastpathUpdateSize) :
    Found .fastPath (pduBytes (plain frag code data)) :=
  fastPath_found (bytes_length frag code data).symm (pdu_small fits)

/-- A fragment as the server sends it, or a packet that TPKT can carry. -/
def Frame.Sendable : Frame → Prop
  | .fragment update => ∃ frag code data, update = plain frag code data ∧ data.length ≤ maxFastpathUpdateSize
  | .packet data => 4 + data.length < UInt16.size

/-- The client tells where a frame ends as soon as it can. -/
theorem Frame.Sendable.delimits {frame : Frame} (sendable : frame.Sendable) :
    Delimits rdpHint frame.bytes := by
  cases frame with
  | fragment update =>
    obtain ⟨frag, code, data, rfl, fits⟩ := sendable
    exact (pdu_found fits).delimits
  | packet packet => exact (tpkt_found sendable).delimits

private theorem decodeFrame_pdu (fits : data.length ≤ maxFastpathUpdateSize) :
    decodeFrame (pduBytes (plain frag code data)) = some (.fragment (plain frag code data)) := by
  have header := FastPathHeader.decode_reads (.new .empty (plain frag code data).size) rfl (pdu_small fits)
  have update := decode_reads frag code (data_small fits)
  have decoded := (header.bind (f := fun _ => FastPathUpdatePdu.decode) update) []
  rw [List.append_nil] at decoded
  rw [decodeFrame, (pdu_found fits).told]
  simp only [pduBytes, decoded]

private theorem decodeFrame_tpkt (small : 4 + packet.length < UInt16.size) :
    decodeFrame (tpkt packet) = some (.packet packet) := by
  rw [decodeFrame, (tpkt_found small).told]
  rfl

/-- The client reads the frame. -/
theorem Frame.Sendable.decodes {frame : Frame} (sendable : frame.Sendable) :
    decodeFrame frame.bytes = some frame := by
  cases frame with
  | fragment update =>
    obtain ⟨frag, code, data, rfl, fits⟩ := sendable
    exact decodeFrame_pdu fits
  | packet packet => exact decodeFrame_tpkt sendable

private theorem decodeFrames {frames : List Frame} (sendable : ∀ frame ∈ frames, frame.Sendable) :
    (frames.map Frame.bytes).mapM decodeFrame = some frames := by
  have each : ∀ frame ∈ frames, (decodeFrame ∘ Frame.bytes) frame = some (id frame) :=
    fun frame member => (sendable frame member).decodes
  rw [List.mapM_map, Framing.mapM_of_forall each, List.map_id]

end Frames

section Fragments
variable {fragmenter : UpdateFragmenter} {room : Nat}

open UpdateFragmenter

/-- What the client has of an update when the fragmenter is at some place in it. -/
def UpdateFragmenter.pending (fragmenter : UpdateFragmenter) : Option (UpdateCode × Bytes) :=
  if fragmenter.index = 0 then none else some (fragmenter.code, fragmenter.data.take fragmenter.position)

/-- Until its first fragment is sent, nothing of an update is. -/
def UpdateFragmenter.Unsent (fragmenter : UpdateFragmenter) : Prop := fragmenter.index = 0 → fragmenter.position = 0

/-- The fragmenter once it has sent some more of its data. -/
def UpdateFragmenter.advance (fragmenter : UpdateFragmenter) (consumed : Nat)
    (within : fragmenter.position + consumed ≤ fragmenter.data.length) : UpdateFragmenter :=
  { fragmenter with position := fragmenter.position + consumed, index := fragmenter.index + 1, within }

private theorem next_more (enough : fragmenter.sizeHint ≤ room)
    (more : maxFastpathUpdateSize < fragmenter.data.length - fragmenter.position) :
    fragmenter.next room = some (some
      (pduBytes (plain (if fragmenter.index > 0 then .next else .first) fragmenter.code
        ((fragmenter.data.drop fragmenter.position).take maxFastpathUpdateSize)),
        fragmenter.advance maxFastpathUpdateSize (by omega))) := by
  have fits : ((fragmenter.data.drop fragmenter.position).take maxFastpathUpdateSize).length ≤
      maxFastpathUpdateSize := by
    rw [List.length_take]
    exact Nat.min_le_left ..
  have room : fastpathHeaderSize +
      ((fragmenter.data.drop fragmenter.position).take maxFastpathUpdateSize).length ≤ room := by
    rw [sizeHint] at enough
    omega
  simp only [UpdateFragmenter.next, encodeNext]
  rw [if_neg (by omega), dif_neg (by omega), encodeFastpath_writes fits room]
  rfl

private theorem next_last (enough : fragmenter.sizeHint ≤ room)
    (left : 0 < fragmenter.data.length - fragmenter.position)
    (last : fragmenter.data.length - fragmenter.position ≤ maxFastpathUpdateSize) :
    fragmenter.next room = some (some
      (pduBytes (plain (if fragmenter.index > 0 then .last else .single) fragmenter.code
        (fragmenter.data.drop fragmenter.position)),
        fragmenter.advance (fragmenter.data.length - fragmenter.position) (by omega))) := by
  have fits : (fragmenter.data.drop fragmenter.position).length ≤ maxFastpathUpdateSize := by
    rw [List.length_drop]
    exact last
  have room : fastpathHeaderSize + (fragmenter.data.drop fragmenter.position).length ≤ room := by
    rw [sizeHint] at enough
    rw [List.length_drop] at fits ⊢
    omega
  simp only [UpdateFragmenter.next, encodeNext]
  rw [if_neg (by omega), dif_pos last, encodeFastpath_writes fits room]
  rfl

private theorem writeAll_done (done : fragmenter.data.length - fragmenter.position = 0) (fuel : Nat) :
    fragmenter.writeAll room fuel = some [] := by
  cases fuel with
  | zero => rfl
  | succ fuel =>
    have next : fragmenter.next room = some none := by
      rw [UpdateFragmenter.next, encodeNext, if_pos done]
      rfl
    rw [writeAll, next]
    rfl

/-- A fragment that is not the last is added to what the client has. -/
theorem reassemble_more (unsent : fragmenter.Unsent)
    (within : fragmenter.position + maxFastpathUpdateSize ≤ fragmenter.data.length) :
    reassemble fragmenter.pending (.fragment (plain (if fragmenter.index > 0 then .next else .first) fragmenter.code
        ((fragmenter.data.drop fragmenter.position).take maxFastpathUpdateSize))) =
      some ((fragmenter.advance maxFastpathUpdateSize within).pending, []) := by
  by_cases start : fragmenter.index = 0
  · have position := unsent start
    simp only [pending, start, if_true, reassemble, plain, advance, position, Nat.zero_add, List.drop_zero]
    rfl
  · have first : fragmenter.index > 0 := by omega
    have extended := List.take_add (l := fragmenter.data) (i := fragmenter.position) (j := maxFastpathUpdateSize)
    simp only [pending, start, first, if_true, if_false, reassemble, plain, advance, extended]
    simp

/-- The last fragment completes the update. -/
theorem reassemble_last (unsent : fragmenter.Unsent) :
    reassemble fragmenter.pending (.fragment (plain (if fragmenter.index > 0 then .last else .single) fragmenter.code
        (fragmenter.data.drop fragmenter.position))) =
      some (none, [.update fragmenter.code fragmenter.data]) := by
  by_cases start : fragmenter.index = 0
  · have position := unsent start
    simp only [pending, start, if_true, reassemble, plain, position, List.drop_zero]
    rfl
  · have first : fragmenter.index > 0 := by omega
    simp only [pending, start, first, if_true, if_false, reassemble, plain, List.take_append_drop]
    simp

/-- The fragments that are still to come complete the update. -/
theorem writeAll_spec (fragmenter : UpdateFragmenter) (unsent : fragmenter.Unsent)
    (enough : fragmenter.sizeHint ≤ room) (fuel : Nat)
    (covers : fragmenter.data.length - fragmenter.position ≤ fuel)
    (left : 0 < fragmenter.data.length - fragmenter.position) :
    ∃ frames, fragmenter.writeAll room fuel = some (frames.map Frame.bytes) ∧
      (∀ frame ∈ frames, frame.Sendable) ∧
      run reassemble fragmenter.pending frames = some (none, [.update fragmenter.code fragmenter.data]) := by
  induction fuel generalizing fragmenter with
  | zero => omega
  | succ fuel ih =>
    by_cases last : fragmenter.data.length - fragmenter.position ≤ maxFastpathUpdateSize
    · refine ⟨[.fragment _], ?_, ?_, run_step (reassemble_last unsent) Runs.run_nil⟩
      · have done : (fragmenter.advance (fragmenter.data.length - fragmenter.position) (by omega)).data.length -
            (fragmenter.advance (fragmenter.data.length - fragmenter.position) (by omega)).position = 0 := by
          simp only [advance]
          omega
        rw [writeAll, next_last enough left last]
        simp only [Option.bind_some, writeAll_done done]
        rfl
      · rw [List.forall_mem_singleton]
        exact ⟨_, _, _, rfl, by rw [List.length_drop]; exact last⟩
    · have within : fragmenter.position + maxFastpathUpdateSize ≤ fragmenter.data.length := by omega
      have more := next_more enough (Nat.lt_of_not_le last)
      obtain ⟨frames, written, sendable, completes⟩ :=
        ih (fragmenter.advance maxFastpathUpdateSize within) (fun never => by cases never) enough
          (by simp only [advance, maxFastpathUpdateSize] at last ⊢; omega)
          (by simp only [advance] at last ⊢; omega)
      refine ⟨.fragment _ :: frames, ?_, ?_, run_step (reassemble_more unsent within) completes⟩
      · rw [writeAll, more]
        simp only [Option.bind_some, written]
        rfl
      · rw [List.forall_mem_cons]
        refine ⟨⟨_, _, _, rfl, ?_⟩, sendable⟩
        rw [List.length_take]
        exact Nat.min_le_left ..

end Fragments

section Stream
variable {messages : List Message}

/-- A packet is no longer than its TPKT header can tell. -/
def Message.Fits : Message → Prop
  | .update _ _ => True
  | .packet data => 4 + data.length < UInt16.size

/-- A message is sent in frames. -/
theorem send_spec {message : Message} (fits : message.Fits) (buffer : Nat) :
    ∃ after frames, send buffer message = some (after, frames.map Frame.bytes) ∧
      (∀ frame ∈ frames, frame.Sendable) ∧
      run reassemble none frames = some (none, [message].filter Message.isSent) := by
  cases message with
  | packet packet =>
    exact ⟨buffer, [.packet packet], rfl, List.forall_mem_singleton.mpr fits, rfl⟩
  | update code data =>
    have enough : (UpdateFragmenter.new code data).sizeHint ≤ resize buffer (.new code data) := by
      unfold resize
      split <;> omega
    by_cases empty : data = []
    · subst empty
      exact ⟨resize buffer (.new code []), [], rfl, List.forall_mem_nil _, rfl⟩
    · have left : 0 < data.length := List.length_pos_of_ne_nil empty
      obtain ⟨frames, written, sendable, completes⟩ :=
        writeAll_spec (.new code data) (fun _ => rfl) enough data.length (Nat.sub_le ..) left
      refine ⟨resize buffer (.new code data), frames, ?_, sendable, ?_⟩
      · simp only [send, written]
        rfl
      · have sent : [Message.update code data].filter Message.isSent = [.update code data] := by
          simp [Message.isSent, empty]
        rw [sent]
        exact completes

/-- Messages that fit are sent, and make the same updates again. -/
theorem run_send (buffer : Nat) (fits : ∀ message ∈ messages, message.Fits) :
    ∃ after frames, run send buffer messages = some (after, frames.map Frame.bytes) ∧
      (∀ frame ∈ frames, frame.Sendable) ∧
      run reassemble none frames = some (none, messages.filter Message.isSent) := by
  induction messages generalizing buffer with
  | nil => exact ⟨buffer, [], rfl, List.forall_mem_nil _, rfl⟩
  | cons message rest ih =>
    obtain ⟨middle, first, sent, sendable, completes⟩ := send_spec (fits message (by simp)) buffer
    obtain ⟨after, frames, ran, sendableRest, completesRest⟩ :=
      ih middle fun message member => fits message (List.mem_cons_of_mem _ member)
    refine ⟨after, first ++ frames, ?_, List.forall_mem_append.mpr ⟨sendable, sendableRest⟩, ?_⟩
    · rw [List.map_append]
      exact run_step sent ran
    · rw [← List.singleton_append, List.filter_append]
      exact Runs.run_append.mpr ⟨none, _, _, completes, completesRest, rfl⟩

/-- Frames come out of the stream as they were sent, wherever it was cut. -/
theorem clientReceives_frames {frames : List Frame} (sendable : ∀ frame ∈ frames, frame.Sendable)
    (completes : run reassemble none frames = some (none, messages)) {pieces : List Bytes}
    (whole : pieces.flatten = (frames.map Frame.bytes).flatten) : clientReceives pieces = some messages := by
  have delimits : ∀ frame ∈ frames.map Frame.bytes, Delimits rdpHint frame := by
    intro bytes member
    obtain ⟨frame, listed, rfl⟩ := List.mem_map.mp member
    exact (sendable frame listed).delimits
  have received := receive_pieces delimits pieces whole (short_nil delimits)
  rw [clientReceives, received]
  simp only [decodeFrames sendable, Option.bind_some, completes]

/-- **Whatever is sent, and however the stream is cut on its way, the client gets
every packet and every update that has data, whole and in order.** -/
theorem client_receives_what_is_sent (messages : List Message) (fits : ∀ message ∈ messages, message.Fits)
    (buffer : Nat) : ∃ after written, run send buffer messages = some (after, written) ∧
      ∀ pieces, pieces.flatten = written.flatten →
        clientReceives pieces = some (messages.filter Message.isSent) := by
  obtain ⟨after, frames, ran, sendable, completes⟩ := run_send buffer fits
  exact ⟨after, _, ran, fun pieces whole => clientReceives_frames sendable completes whole⟩

/-- A pointer that is hidden, a packet and a bitmap. -/
theorem client_receives_pointer_and_packet :
    ∃ after written, run send 0 [.update .hiddenPointer [], .packet [7], .update .bitmap [1, 2]] =
        some (after, written) ∧
      ∀ pieces, pieces.flatten = written.flatten →
        clientReceives pieces = some [.packet [7], .update .bitmap [1, 2]] := by
  have fits : ∀ message ∈ [Message.update .hiddenPointer [], .packet [7], .update .bitmap [1, 2]],
      message.Fits :=
    List.forall_mem_cons.mpr ⟨trivial, List.forall_mem_cons.mpr ⟨by unfold Message.Fits; decide,
      List.forall_mem_singleton.mpr trivial⟩⟩
  exact client_receives_what_is_sent _ fits 0

end Stream
end Osxrdp.UpdateFragments
