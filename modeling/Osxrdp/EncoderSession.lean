import Osxrdp.DisplaySteps

/-! A VideoToolbox session as a decoder sees it: outputs in order, the first a
keyframe, each P-frame on top of the output before it. `encode` returns nothing
when the session puts nothing out, and also when an output comes too late. -/
namespace Osxrdp.EncoderSession
open Display FramePipeline
open DisplaySteps (recreateStream_prepares followFrameSize_prepares)
open Runs (Throughout)

/-- What a session puts out for a frame, and whether its callback comes within
`ENCODE_TIMEOUT`. Data that `extract_nal_data` cannot read is empty here. -/
structure Output where
  data : Bytes
  isKeyframe : Bool
  inTime : Bool
  deriving DecidableEq, Repr

/-- How VideoToolbox takes a frame: it refuses it, calls back without a sample,
or with one. -/
inductive Callback where
  | refused
  | noSample
  | output (sample : Output)
  deriving DecidableEq, Repr

/-- How `encode` fares with a callback. -/
def Callback.outcome : Callback → EncodeOutcome
  | .refused => .failed
  | .noSample => .nothing
  | .output sample => if sample.inTime then .delivered sample.data sample.isKeyframe else .nothing

/-- The output comes in time and can be read. -/
def Output.Arrives (output : Output) : Prop := output.inTime = true ∧ output.data ≠ []

instance : DecidablePred Output.Arrives := fun _ => inferInstanceAs (Decidable (_ ∧ _))

/-- A call of `VtH264Encoder::new` for a session that replaces the last one, or
of `encode`. -/
inductive EncoderCall where
  | new
  | encode
  deriving DecidableEq, Repr

section Calls

/-- A forced keyframe is made by a new session. -/
def forceCalls (forced : Bool) (created : Created) : List EncoderCall :=
  if forced && created.encoder then [.new] else []

/-- The encoder call of `recreate_stream`. -/
def recreateCalls (updates : MacDisplayUpdates) (created : Created) : List EncoderCall :=
  match updates.capture with
  | .sckit _ =>
    if created.stream = true ∧ updates.mode = .h264 ∧ created.encoder = true then [.new] else []
  | .cgDisplay => if updates.mode = .h264 ∧ created.encoder = true then [.new] else []

/-- The calls of `handle_ycbcr_frame`. -/
def ycbcrCalls (updates : MacDisplayUpdates) (forced : Bool) (lock : Option PrevFrame) (created : Created) :
    List EncoderCall :=
  match updates.h264Encoder with
  | none => []
  | some _ => forceCalls forced created ++ if lock.isSome then [.encode] else []

/-- The calls for an image. There are none for bitmaps. -/
def imageCalls (avc420Enabled forced : Bool) (updates : MacDisplayUpdates) (lock : Option PrevFrame)
    (created : Created) : List EncoderCall :=
  if updates.mode = .bgra ∨ avc420Enabled = false then [] else ycbcrCalls updates forced lock created

/-- The calls for a sample of ScreenCaptureKit: of a recreation, and of the frame. -/
def sckitCalls (avc420Enabled forced : Bool) (updates : MacDisplayUpdates) (capture : Capture) :
    List EncoderCall :=
  match capture.sample with
  | .ended => []
  | .noImage =>
    if updates.missedFrames + 1 ≥ 30 then recreateCalls updates capture.created else []
  | .image width height lock =>
    let frameSize : DesktopSize := ⟨width.toUInt16, height.toUInt16⟩
    let (ok, followed, _) := { updates with missedFrames := 0 }.followFrameSize frameSize capture.created
    (if frameSize ≠ updates.streamSize then recreateCalls updates capture.created else []) ++
      if ok then imageCalls avc420Enabled forced followed lock capture.created else []

/-- The calls for a copy of the display. -/
def cgDisplayCalls (avc420Enabled forced : Bool) (updates : MacDisplayUpdates) (capture : Capture) :
    List EncoderCall :=
  if updates.mode = .bgra ∨ avc420Enabled = false then []
  else if capture.cvPixelBuffer then
    match updates.h264Encoder with
    | none => []
    | some _ => forceCalls forced capture.created ++ [.encode]
  else []

/-- The encoder calls of one iteration of the loop of `next_update`, in order. -/
def encoderCalls (avc420Enabled forced : Bool) (updates : MacDisplayUpdates) (capture : Capture) :
    List EncoderCall :=
  match updates.capture with
  | .sckit _ => sckitCalls avc420Enabled forced updates capture
  | .cgDisplay => cgDisplayCalls avc420Enabled forced updates capture

end Calls

/-- The encoded frame among what an iteration returns. -/
def returnedFrame (events : List Display.Event) : Option Avc420Update :=
  events.findSome? fun event => match event with
    | .update (.avc420 update) => some update
    | _ => none

/-- A new session, or an output of the current one with the frame that was
returned to the server for it. -/
inductive Event where
  | session
  | output (sample : Output) (returned : Option Avc420Update)
  deriving DecidableEq, Repr

/-- One call on the encoder. A session that has put out nothing yet does not put
out a P-frame. -/
def sessionStep (callback : Callback) (returned : Option Avc420Update) : Runs.System Bool EncoderCall Event
  | _, .new => some (false, [.session])
  | produced, .encode => match callback with
    | .refused | .noSample => some (produced, [])
    | .output sample =>
      if sample.isKeyframe || produced then some (true, [.output sample returned]) else none

/-- An update stream, and whether the session of its encoder has put out a frame. -/
structure Encoding where
  updates : MacDisplayUpdates
  produced : Bool
  deriving DecidableEq, Repr

/-- A call of `next_update` that finds no frame, or one captured frame. -/
inductive Input where
  | poll (avc420Enabled : Bool) (tx : Watch.Sender (Option DesktopSize))
  | frame (avc420Enabled forced : Bool) (capture : Capture) (callback : Callback)

/-- The stream's step, with the calls on its encoder. -/
def step (platform : Platform) : Runs.System Encoding Input Event
  | encoding, .poll avc420Enabled tx =>
    some ({ encoding with updates := (encoding.updates.poll avc420Enabled tx).2 }, [])
  | encoding, .frame avc420Enabled forced capture callback =>
    (encoding.updates.frame platform avc420Enabled forced { capture with encoded := callback.outcome }).bind
      fun (updates, _, events) =>
        (Runs.run (sessionStep callback (returnedFrame events)) encoding.produced
          (encoderCalls avc420Enabled forced encoding.updates capture)).map
            fun (produced, shown) => (⟨updates, produced⟩, shown)

section Encodes
variable {platform : Platform} {avc420Enabled forced flag : Bool} {updates after : MacDisplayUpdates}
  {capture : Capture} {events : List Display.Event}

/-- What `encode` returns to its caller, an error being nothing. -/
def encoded (encoder : VtH264Encoder) (outcome : EncodeOutcome) : Option Avc420Update :=
  match encoder.encode outcome with
  | .ok update => update
  | .error () => none

/-- New sessions, and the encoder before and after them. -/
structure Replaces (before : Option VtH264Encoder) (news : List EncoderCall) (after : Option VtH264Encoder) :
    Prop where
  only : ∀ call ∈ news, call = .new
  kept : news = [] → after = before

/-- An iteration calls `encode` at most once, on the encoder that it leaves and
after any new session, and the frame that it returns is what the call returned. -/
inductive Encodes (outcome : EncodeOutcome) (before : Option VtH264Encoder) :
    List EncoderCall → Option VtH264Encoder → Option Avc420Update → Prop
  | skip (news : List EncoderCall) (after : Option VtH264Encoder) (replaces : Replaces before news after) :
    Encodes outcome before news after none
  | encode (news : List EncoderCall) (encoder : VtH264Encoder) (replaces : Replaces before news (some encoder)) :
    Encodes outcome before (news ++ [.encode]) (some encoder) (encoded encoder outcome)

theorem Replaces.refl (encoder : Option VtH264Encoder) : Replaces encoder [] encoder :=
  ⟨List.forall_mem_nil _, fun _ => rfl⟩

theorem Replaces.trans {before middle after : Option VtH264Encoder} {news later : List EncoderCall}
    (first : Replaces before news middle) (second : Replaces middle later after) :
    Replaces before (news ++ later) after := by
  refine ⟨List.forall_mem_append.mpr ⟨first.only, second.only⟩, fun none => ?_⟩
  obtain ⟨noFirst, noSecond⟩ := List.append_eq_nil_iff.mp none
  exact (second.kept noSecond).trans (first.kept noFirst)

theorem Encodes.prepend {outcome : EncodeOutcome} {before middle after : Option VtH264Encoder}
    {calls news : List EncoderCall} {returned : Option Avc420Update} (replaces : Replaces before news middle)
    (encodes : Encodes outcome middle calls after returned) :
    Encodes outcome before (news ++ calls) after returned := by
  cases encodes with
  | skip later after replacesLater => exact .skip _ _ (replaces.trans replacesLater)
  | encode later encoder replacesLater =>
    rw [← List.append_assoc]
    exact .encode _ _ (replaces.trans replacesLater)

private theorem forceKeyframe_encoder {encoder : VtH264Encoder} (held : updates.h264Encoder = some encoder)
    (forced : Bool) (created : Created) :
    (updates.forceKeyframe encoder forced created).h264Encoder = some encoder := by
  unfold MacDisplayUpdates.forceKeyframe
  split
  · rfl
  · exact held

private theorem forceCalls_replaces (encoder : Option VtH264Encoder) (forced : Bool) (created : Created) :
    Replaces encoder (forceCalls forced created) encoder := by
  refine ⟨?_, fun _ => rfl⟩
  unfold forceCalls
  split
  · exact List.forall_mem_singleton.mpr rfl
  · exact List.forall_mem_nil _

private theorem resizeStream_replaces (updates : MacDisplayUpdates) (size : DesktopSize) (created : Created) :
    Replaces updates.h264Encoder
      (if updates.mode = .h264 ∧ created.encoder = true then [.new] else [])
      (updates.resizeStream size created).2.h264Encoder := by
  unfold MacDisplayUpdates.resizeStream
  by_cases video : updates.mode = .h264
  · by_cases made : created.encoder = true
    · rw [if_pos ⟨video, made⟩]
      exact ⟨List.forall_mem_singleton.mpr rfl, nofun⟩
    · rw [if_neg fun both => made both.2]
      simp only [if_pos video, if_neg made]
      exact .refl _
  · rw [if_neg fun both => video both.1]
    simp only [if_neg video]
    exact .refl _

/-- A recreation of the stream replaces the encoder by the sessions made. -/
theorem recreateStream_replaces (updates : MacDisplayUpdates) (size : DesktopSize) (created : Created) :
    Replaces updates.h264Encoder (recreateCalls updates created)
      (updates.recreateStream size created).2.1.h264Encoder := by
  unfold recreateCalls MacDisplayUpdates.recreateStream
  cases updates.capture with
  | cgDisplay => exact resizeStream_replaces updates size created
  | sckit stream =>
    dsimp only
    by_cases made : created.stream = true
    · simp only [made, true_and, if_true]
      exact resizeStream_replaces { updates with capture := .sckit _ } size created
    · rw [if_neg made, if_neg fun all => made all.1]
      exact .refl _

private theorem returnedFrame_append_createStream {calls : List Display.Event}
    (creates : ∀ event ∈ calls, event = .createStream) :
    returnedFrame (calls ++ events) = returnedFrame events := by
  induction calls with
  | nil => rfl
  | cons event rest ih =>
    obtain rfl := creates event (by simp)
    exact ih fun later member => creates later (List.mem_cons_of_mem _ member)

private theorem returnedFrame_createStream {calls : List Display.Event}
    (creates : ∀ event ∈ calls, event = .createStream) : returnedFrame calls = none := by
  have appended : returnedFrame (calls ++ []) = returnedFrame [] := returnedFrame_append_createStream creates
  rwa [List.append_nil] at appended

/-- A pushed frame leaves the encoder alone, and only bitmaps are returned. -/
theorem pushFrame_encoder {frame : PrevFrame}
    (pushed : updates.pushFrame platform frame = some (after, events)) :
    after.h264Encoder = updates.h264Encoder ∧ returnedFrame events = none := by
  obtain ⟨pipeline, _, shown⟩ := Option.map_eq_some_iff.mp pushed
  obtain ⟨rfl, rfl⟩ := Prod.mk.inj shown
  exact ⟨rfl, by simp [returnedFrame]⟩

private theorem pushCapture_encoder {displayBgra : Option PrevFrame}
    (pushed : updates.pushCapture platform forced displayBgra = some (after, flag, events)) :
    after.h264Encoder = updates.h264Encoder ∧ returnedFrame events = none := by
  cases displayBgra with
  | none =>
    cases pushed
    exact ⟨rfl, rfl⟩
  | some frame =>
    obtain ⟨⟨_, shown⟩, queued, same⟩ := Option.map_eq_some_iff.mp pushed
    cases same
    exact pushFrame_encoder queued

/-- An iteration that does not come to the encoder. -/
theorem Encodes.unused {outcome : EncodeOutcome} {before after : Option VtH264Encoder}
    {returned : Option Avc420Update} (left : after = before ∧ returned = none) :
    Encodes outcome before [] after returned := by
  obtain ⟨rfl, rfl⟩ := left
  exact .skip _ _ (.refl _)

private theorem handleYcbcrFrame_encodes (updates : MacDisplayUpdates) (forced : Bool) (lock : Option PrevFrame)
    (capture : Capture) :
    Encodes capture.encoded updates.h264Encoder (ycbcrCalls updates forced lock capture.created)
      (updates.handleYcbcrFrame forced lock capture).1.h264Encoder
      (returnedFrame (updates.handleYcbcrFrame forced lock capture).2.2) := by
  unfold ycbcrCalls MacDisplayUpdates.handleYcbcrFrame
  cases held : updates.h264Encoder with
  | none =>
    dsimp only
    rw [held]
    exact .skip _ _ (.refl _)
  | some encoder =>
    have kept := forceKeyframe_encoder held forced capture.created
    have replaces := forceCalls_replaces (some encoder) forced capture.created
    cases lock with
    | none =>
      dsimp only
      rw [kept, Option.isSome_none, if_neg Bool.false_ne_true, List.append_nil]
      exact .skip _ _ replaces
    | some frame =>
      have encodes : Encodes capture.encoded (some encoder) _ _ _ := .encode _ encoder replaces
      rw [Option.isSome_some, if_pos rfl]
      unfold encoded at encodes
      dsimp only
      split
      · rename_i update same
        rw [same] at encodes
        rw [kept]
        exact encodes
      · rename_i same
        rw [same] at encodes
        rw [kept]
        exact encodes
      · rename_i same
        rw [same] at encodes
        rw [kept]
        exact encodes

private theorem handleImage_encodes {lock : Option PrevFrame}
    (handled : updates.handleImage platform avc420Enabled forced lock capture = some (after, flag, events)) :
    Encodes capture.encoded updates.h264Encoder (imageCalls avc420Enabled forced updates lock capture.created)
      after.h264Encoder (returnedFrame events) := by
  unfold MacDisplayUpdates.handleImage at handled
  unfold imageCalls
  by_cases bitmaps : updates.mode = .bgra ∨ avc420Enabled = false
  · rw [if_pos bitmaps] at handled ⊢
    cases lock with
    | none =>
      cases handled
      exact .skip _ _ (.refl _)
    | some frame =>
      obtain ⟨⟨_, shown⟩, pushed, same⟩ := Option.map_eq_some_iff.mp handled
      cases same
      exact .unused (pushFrame_encoder pushed)
  · rw [if_neg bitmaps] at handled ⊢
    have encodes := handleYcbcrFrame_encodes updates forced lock capture
    rwa [Option.some.inj handled] at encodes

private theorem followFrameSize_replaces (updates : MacDisplayUpdates) (size : DesktopSize) (created : Created) :
    Replaces updates.h264Encoder (if size ≠ updates.streamSize then recreateCalls updates created else [])
      (updates.followFrameSize size created).2.1.h264Encoder := by
  unfold MacDisplayUpdates.followFrameSize
  split
  · exact recreateStream_replaces updates size created
  · exact .refl _

private theorem sckitFrame_encodes
    (framed : updates.sckitFrame platform avc420Enabled forced capture = some (after, flag, events)) :
    Encodes capture.encoded updates.h264Encoder (sckitCalls avc420Enabled forced updates capture)
      after.h264Encoder (returnedFrame events) := by
  unfold MacDisplayUpdates.sckitFrame at framed
  unfold sckitCalls
  cases sample : capture.sample with
  | ended =>
    simp only [sample] at framed
    cases framed
    exact .skip _ _ (.refl _)
  | noImage =>
    simp only [sample] at framed
    by_cases stalled : updates.missedFrames + 1 ≥ 30
    · have replaces := recreateStream_replaces { updates with missedFrames := updates.missedFrames + 1 }
        updates.streamSize capture.created
      obtain ⟨_, creates⟩ := recreateStream_prepares { updates with missedFrames := updates.missedFrames + 1 }
        updates.streamSize capture.created
      rw [if_pos stalled] at framed ⊢
      generalize { updates with missedFrames := updates.missedFrames + 1 }.recreateStream updates.streamSize
        capture.created = result at framed replaces creates
      obtain ⟨ok, recreated, calls⟩ := result
      cases framed
      rw [returnedFrame_createStream fun event member => (creates event member).1]
      cases ok with
      | false => exact .skip _ _ replaces
      | true => exact .skip _ _ replaces
    · rw [if_neg stalled] at framed ⊢
      cases framed
      exact .skip _ _ (.refl _)
  | image width height lock =>
    simp only [sample] at framed
    dsimp only
    have replaces := followFrameSize_replaces { updates with missedFrames := 0 }
      ⟨width.toUInt16, height.toUInt16⟩ capture.created
    obtain ⟨_, creates⟩ := followFrameSize_prepares { updates with missedFrames := 0 }
      ⟨width.toUInt16, height.toUInt16⟩ capture.created
    have creates := fun event member => (creates event member).1
    generalize { updates with missedFrames := 0 }.followFrameSize ⟨width.toUInt16, height.toUInt16⟩
      capture.created = result at framed replaces creates ⊢
    obtain ⟨ok, followed, calls⟩ := result
    cases ok with
    | false =>
      cases framed
      rw [returnedFrame_createStream creates]
      exact .prepend replaces (.skip _ _ (.refl _))
    | true =>
      obtain ⟨⟨_, _, shown⟩, handled, appended⟩ := Option.map_eq_some_iff.mp framed
      cases appended
      rw [returnedFrame_append_createStream creates]
      exact .prepend replaces (handleImage_encodes handled)

private theorem cgDisplayFrame_encodes
    (framed : updates.cgDisplayFrame platform avc420Enabled forced capture = some (after, flag, events)) :
    Encodes capture.encoded updates.h264Encoder (cgDisplayCalls avc420Enabled forced updates capture)
      after.h264Encoder (returnedFrame events) := by
  unfold MacDisplayUpdates.cgDisplayFrame at framed
  unfold cgDisplayCalls
  by_cases bitmaps : updates.mode = .bgra ∨ avc420Enabled = false
  · rw [if_pos bitmaps] at framed ⊢
    exact .unused (pushCapture_encoder framed)
  rw [if_neg bitmaps] at framed ⊢
  by_cases captured : capture.cvPixelBuffer = true
  · rw [if_pos captured] at framed ⊢
    cases held : updates.h264Encoder with
    | none =>
      simp only [held] at framed
      have unused := pushCapture_encoder framed
      rw [held] at unused
      exact .unused unused
    | some encoder =>
      simp only [held] at framed
      have kept := forceKeyframe_encoder held forced capture.created
      have encodes : Encodes capture.encoded (some encoder) _ _ _ :=
        .encode _ encoder (forceCalls_replaces (some encoder) forced capture.created)
      unfold encoded at encodes
      cases result : encoder.encode capture.encoded with
      | ok returned =>
        rw [result] at encodes
        cases returned with
        | none =>
          simp only [result] at framed
          cases framed
          rw [kept]
          exact encodes
        | some update =>
          simp only [result] at framed
          cases framed
          rw [kept]
          exact encodes
      | error failure =>
        rw [result] at encodes
        simp only [result] at framed
        obtain ⟨same, unreturned⟩ := pushCapture_encoder framed
        rw [same, unreturned, kept]
        exact encodes
  · rw [if_neg captured] at framed ⊢
    exact .unused (pushCapture_encoder framed)

/-- The encoder calls of an iteration account for its encoder and for the frame
that it returns. -/
theorem frame_encodes
    (framed : updates.frame platform avc420Enabled forced capture = some (after, flag, events)) :
    Encodes capture.encoded updates.h264Encoder (encoderCalls avc420Enabled forced updates capture)
      after.h264Encoder (returnedFrame events) := by
  unfold MacDisplayUpdates.frame at framed
  unfold encoderCalls
  cases source : updates.capture with
  | sckit stream =>
    rw [source] at framed
    exact sckitFrame_encodes framed
  | cgDisplay =>
    rw [source] at framed
    exact cgDisplayFrame_encodes framed

end Encodes

/-- The last output of the current session, with the frame returned for it. -/
def lastOutput (past : List Event) : Option (Output × Option Avc420Update) :=
  match past.getLast? with
  | some (.output sample returned) => some (sample, returned)
  | some .session | none => none

/-- A returned P-frame directly follows an output that was returned too. -/
def FollowsReturned (past : List Event) : Event → Prop
  | .output _ (some update) => update.isKeyframe = false → ∃ last ∈ lastOutput past, last.2.isSome
  | .output _ none | .session => True

instance (past : List Event) : DecidablePred (FollowsReturned past)
  | .output _ (some _) => inferInstanceAs (Decidable (_ → _))
  | .output _ none | .session => isTrue trivial

/-- Every returned frame can be decoded from those returned before. -/
def Decodable (past : List Event) : Prop := Throughout FollowsReturned past

instance (past : List Event) : Decidable (Decodable past) := inferInstanceAs (Decidable (Throughout _ past))

/-- The first frame that is returned after a lost output is a keyframe. -/
def KeyframeAfterLoss (past : List Event) : Prop :=
  ∀ before lost middle sample update after,
    past = before ++ .output lost none :: (middle ++ .output sample (some update) :: after) →
      (∀ sample update, .output sample (some update) ∉ middle) → update.isKeyframe = true

/-- A P-frame only arrives when the output before it in its session did. -/
def InSequence (past : List Event) (encoding : Encoding) : Input → Prop
  | .frame avc420Enabled forced capture (.output sample) =>
    .encode ∈ encoderCalls avc420Enabled forced encoding.updates capture → sample.Arrives →
      sample.isKeyframe = false → ∀ last ∈ lastOutput past, last.1.Arrives
  | .frame _ _ _ .refused | .frame _ _ _ .noSample | .poll _ _ => True

instance (past : List Event) (encoding : Encoding) : DecidablePred (InSequence past encoding)
  | .frame _ _ _ (.output _) => inferInstanceAs (Decidable (_ → _))
  | .frame _ _ _ .refused | .frame _ _ _ .noSample | .poll _ _ => isTrue trivial

/-- Frames that can be decoded come back from a loss with a keyframe. -/
theorem keyframeAfterLoss_of_decodable {past : List Event} (decodable : Decodable past) :
    KeyframeAfterLoss past := by
  intro before lost middle sample update after split unreturned
  have follows := decodable (before ++ .output lost none :: middle) (.output sample (some update)) after
    (by rw [split, List.append_assoc, List.cons_append])
  by_contra predicted
  obtain ⟨last, member, returned⟩ := follows (Bool.eq_false_iff.mpr predicted)
  have latest : (before ++ .output lost none :: middle).getLast? = (Event.output lost none :: middle).getLast? :=
    List.getLast?_append_of_ne_nil before (List.cons_ne_nil _ _)
  unfold lastOutput at member
  rw [latest] at member
  split at member
  · rename_i shown shownFrame same
    cases member
    obtain ⟨update, rfl⟩ := Option.isSome_iff_exists.mp returned
    rcases List.mem_cons.mp (List.mem_of_getLast? same) with first | later
    · cases first
    · exact unreturned shown update later
  · cases member
  · cases member

section Steps
variable {callback : Callback} {returned : Option Avc420Update} {produced next : Bool}
  {past shown : List Event} {news : List EncoderCall} {encoder : VtH264Encoder} {sample : Output}

/-- What `encode` returns for an output that arrives, and only then. -/
theorem encoded_output (encoder : VtH264Encoder) (sample : Output) :
    encoded encoder (Callback.output sample).outcome =
      if sample.Arrives then
        some { data := sample.data, width := encoder.width, height := encoder.height,
               isKeyframe := sample.isKeyframe }
      else none := by
  obtain ⟨data, isKeyframe, inTime⟩ := sample
  cases inTime with
  | false => simp [encoded, Callback.outcome, VtH264Encoder.encode, Output.Arrives]
  | true =>
    cases data with
    | nil => simp [encoded, Callback.outcome, VtH264Encoder.encode, Output.Arrives]
    | cons byte rest => simp [encoded, Callback.outcome, VtH264Encoder.encode, Output.Arrives]

/-- What is known of the current session from what it has put out. -/
structure Tracked (past : List Event) (produced : Bool) : Prop where
  produced : produced = (lastOutput past).isSome
  returned : ∀ last ∈ lastOutput past, last.2.isSome = true ↔ last.1.Arrives

private theorem lastOutput_session (past : List Event) : lastOutput (past ++ [.session]) = none := by
  simp [lastOutput]

private theorem lastOutput_output (past : List Event) (sample : Output) (returned : Option Avc420Update) :
    lastOutput (past ++ [.output sample returned]) = some (sample, returned) := by
  simp [lastOutput]

private theorem decodable_snoc (event : Event) :
    Decodable (past ++ [event]) ↔ Decodable past ∧ FollowsReturned past event := by
  simp [Decodable, Runs.throughout_append]

private theorem news_shown (only : ∀ call ∈ news, call = .new) (tracked : Tracked past produced)
    (ran : Runs.run (sessionStep callback returned) produced news = some (next, shown)) :
    Tracked (past ++ shown) next ∧ (Decodable (past ++ shown) ↔ Decodable past) ∧
      (lastOutput (past ++ shown) = lastOutput past ∨ next = false) := by
  induction news generalizing past produced shown with
  | nil =>
    cases ran
    rw [List.append_nil]
    exact ⟨tracked, Iff.rfl, .inl rfl⟩
  | cons call rest ih =>
    obtain ⟨middle, emitted, later, stepped, continued, rfl⟩ := Runs.run_cons.mp ran
    obtain rfl := only call (by simp)
    cases stepped
    have fresh : Tracked (past ++ [.session]) false := by
      constructor
      · rw [lastOutput_session]
        rfl
      · rw [lastOutput_session]
        exact nofun
    obtain ⟨tracked, same, last⟩ := ih (fun call member => only call (List.mem_cons_of_mem _ member)) fresh continued
    rw [← List.append_assoc]
    refine ⟨tracked, same.trans ((decodable_snoc _).trans (and_iff_left trivial)), .inr ?_⟩
    rcases last with last | last
    · rw [tracked.produced, last, lastOutput_session]
      rfl
    · exact last

/-- A call of `encode` keeps track of the session. What it puts out can be
decoded when it does not arrive, or is a keyframe, or the last output arrived. -/
theorem encode_shown (tracked : Tracked past produced)
    (stepped : sessionStep callback (encoded encoder callback.outcome) produced .encode = some (next, shown)) :
    Tracked (past ++ shown) next ∧ (Decodable (past ++ shown) ↔ Decodable past ∧
      ∀ sample, callback = .output sample → sample.Arrives → sample.isKeyframe = false →
        ∀ last ∈ lastOutput past, last.1.Arrives) := by
  cases callback with
  | refused =>
    cases stepped
    rw [List.append_nil]
    exact ⟨tracked, (and_iff_left nofun).symm⟩
  | noSample =>
    cases stepped
    rw [List.append_nil]
    exact ⟨tracked, (and_iff_left nofun).symm⟩
  | output sample =>
    unfold sessionStep at stepped
    dsimp only at stepped
    split at stepped
    case isFalse => cases stepped
    case isTrue allowed =>
      cases stepped
      rw [encoded_output]
      refine ⟨⟨?_, ?_⟩, ?_⟩
      · rw [lastOutput_output]
        rfl
      · rw [lastOutput_output]
        rintro _ ⟨⟩
        split
        · rename_i arrives
          exact iff_of_true rfl arrives
        · rename_i lost
          exact iff_of_false Bool.false_ne_true lost
      · rw [decodable_snoc]
        refine and_congr_right fun _ => ?_
        by_cases arrives : sample.Arrives
        · rw [if_pos arrives]
          constructor
          · rintro follows _ ⟨⟩ _ predicted last member
            obtain ⟨found, found_member, returned⟩ := follows predicted
            obtain rfl := Option.mem_unique member found_member
            exact (tracked.returned _ member).mp returned
          · intro inSequence predicted
            have earlier : produced = true := by
              rcases Bool.or_eq_true_iff.mp allowed with keyframe | earlier
              · exact (Bool.false_ne_true (predicted.symm.trans keyframe)).elim
              · exact earlier
            rw [tracked.produced] at earlier
            obtain ⟨last, member⟩ := Option.isSome_iff_exists.mp earlier
            have lastArrives := inSequence sample rfl arrives predicted last member
            exact ⟨last, member, (tracked.returned last member).mpr lastArrives⟩
        · rw [if_neg arrives]
          refine iff_of_true trivial ?_
          rintro _ ⟨⟩ arrived
          exact (arrives arrived).elim

variable {platform : Platform} {encoding after : Encoding} {input : Input} {emitted : List Event}

private theorem inSequence_iff {avc420Enabled forced : Bool} {capture : Capture} :
    InSequence past encoding (.frame avc420Enabled forced capture callback) ↔
      (.encode ∈ encoderCalls avc420Enabled forced encoding.updates capture →
        ∀ sample, callback = .output sample → sample.Arrives → sample.isKeyframe = false →
          ∀ last ∈ lastOutput past, last.1.Arrives) := by
  cases callback with
  | refused => exact iff_of_true trivial fun _ => nofun
  | noSample => exact iff_of_true trivial fun _ => nofun
  | output sample =>
    constructor
    · rintro inSequence called _ ⟨⟩
      exact inSequence called
    · exact fun inSequence called => inSequence called sample rfl

private theorem fresh_keyframe
    (stepped : sessionStep (.output sample) returned false .encode = some (next, shown)) :
    sample.isKeyframe = true := by
  unfold sessionStep at stepped
  dsimp only at stepped
  split at stepped
  · rename_i allowed
    rwa [Bool.or_false] at allowed
  · cases stepped

/-- A step keeps track of the session, and shows a frame that cannot be decoded
exactly when a P-frame arrives out of sequence. -/
theorem step_decodable_iff (tracked : Tracked past encoding.produced)
    (stepped : step platform encoding input = some (after, emitted)) :
    Tracked (past ++ emitted) after.produced ∧
      (Decodable (past ++ emitted) ↔ Decodable past ∧ InSequence past encoding input) := by
  cases input with
  | poll avc420Enabled tx =>
    cases stepped
    rw [List.append_nil]
    exact ⟨tracked, (and_iff_left trivial).symm⟩
  | frame avc420Enabled forced capture callback =>
    obtain ⟨⟨updates, flag, events⟩, framed, session⟩ := Option.bind_eq_some_iff.mp stepped
    obtain ⟨⟨produced, shown⟩, ran, same⟩ := Option.map_eq_some_iff.mp session
    cases same
    have encodes : Encodes callback.outcome _ (encoderCalls avc420Enabled forced encoding.updates capture) _
        (returnedFrame events) := frame_encodes framed
    rw [inSequence_iff]
    generalize encoderCalls avc420Enabled forced encoding.updates capture = calls at encodes ran ⊢
    generalize returnedFrame events = returned at encodes ran
    generalize updates.h264Encoder = left at encodes
    cases encodes with
    | skip news after replaces =>
      obtain ⟨tracked, same, _⟩ := news_shown replaces.only tracked ran
      refine ⟨tracked, same.trans (and_iff_left fun called => ?_).symm⟩
      cases replaces.only _ called
    | encode news encoder replaces =>
      obtain ⟨middle, sessions, output, replaced, continued, rfl⟩ := Runs.run_append.mp ran
      obtain ⟨next, emitted, rest, encoded, ended, rfl⟩ := Runs.run_cons.mp continued
      cases ended
      obtain ⟨trackedNew, sameNew, last⟩ := news_shown replaces.only tracked replaced
      obtain ⟨trackedNext, decodable⟩ := encode_shown trackedNew encoded
      rw [List.append_nil, ← List.append_assoc]
      refine ⟨trackedNext, decodable.trans (and_congr sameNew ?_)⟩
      rw [imp_iff_right (List.mem_append_right news (List.mem_singleton_self _))]
      rcases last with kept | fresh
      · rw [kept]
      · have keyframe (sample : Output) (same : callback = .output sample) : sample.isKeyframe = true := by
          rw [same, fresh] at encoded
          exact fresh_keyframe encoded
        refine iff_of_true ?_ ?_ <;>
          exact fun sample same _ predicted => (Bool.false_ne_true (predicted.symm.trans (keyframe sample same))).elim

end Steps

/-- **A session's frames stay decodable exactly when no P-frame arrives after an
output of its session that did not.** -/
theorem frames_decodable_iff (platform : Platform) (updates : MacDisplayUpdates) {inputs : List Input}
    {final : Encoding} {events : List Event}
    (ran : Runs.run (step platform) ⟨updates, false⟩ inputs = some (final, events)) :
    (Decodable events ∧ KeyframeAfterLoss events) ↔
      Runs.Meets (step platform) InSequence [] ⟨updates, false⟩ inputs := by
  have whole : Decodable ([] ++ events) ↔ Decodable [] ∧
      Runs.Meets (step platform) InSequence [] ⟨updates, false⟩ inputs := by
    refine Runs.history_iff_meets Decodable (fun encoding past => Tracked past encoding.produced)
      ?_ ?_ ⟨rfl, nofun⟩ ran
    · intro encoding past input next emitted tracked stepped
      exact (step_decodable_iff tracked stepped).2
    · intro encoding past input next emitted tracked stepped
      exact (step_decodable_iff tracked stepped).1
  rw [and_iff_left_of_imp keyframeAfterLoss_of_decodable]
  exact whole.trans (and_iff_right Runs.throughout_nil)

/-- One capture of the display, as a pixel buffer. -/
def displayCapture : Capture where
  sample := .noImage
  displayBgra := none
  cvPixelBuffer := true
  created := ⟨true, true⟩
  encoded := .nothing

/-- A stream of the display after a mode switch, which goes through CoreGraphics. -/
def displayStream : MacDisplayUpdates where
  capture := .cgDisplay
  streamSize := ⟨1440, 900⟩
  targetSize := ⟨1440, 900⟩
  mode := .h264
  bgraPipeline := .new ⟨1440, 900⟩ .fit
  resizeRx := ⟨0⟩
  h264Encoder := some ⟨1440, 900⟩
  missedFrames := 0

/-- The loss of a P-frame is repaired by a forced keyframe. -/
def forcedAfterLoss : List Input :=
  [.frame true false displayCapture (.output ⟨[1], true, true⟩),
    .frame true false displayCapture (.output ⟨[2], false, true⟩),
    .frame true false displayCapture (.output ⟨[3], false, false⟩),
    .frame true true displayCapture (.output ⟨[4], true, true⟩)]

/-- A keyframe that was forced after a loss. -/
theorem forced_after_loss_is_decodable : ∃ final events,
    Runs.run (step exactPlatform) ⟨displayStream, false⟩ forcedAfterLoss = some (final, events) ∧
      Decodable events ∧ KeyframeAfterLoss events := by
  have succeeds : (Runs.run (step exactPlatform) ⟨displayStream, false⟩ forcedAfterLoss).isSome := by decide
  obtain ⟨⟨final, events⟩, ran⟩ := Option.isSome_iff_exists.mp succeeds
  exact ⟨final, events, ran, (frames_decodable_iff exactPlatform displayStream ran).mpr (by decide)⟩

/-- A keyframe arrives, the next output is late, and the P-frame after it is
returned all the same. -/
theorem late_output_breaks_the_picture : ∃ final events,
    Runs.run (step exactPlatform) ⟨displayStream, false⟩
      [.frame true false displayCapture (.output ⟨[1], true, true⟩),
        .frame true false displayCapture (.output ⟨[2], false, false⟩),
        .frame true false displayCapture (.output ⟨[3], false, true⟩)] = some (final, events) ∧
      ¬(Decodable events ∧ KeyframeAfterLoss events) :=
  ⟨_, _, rfl, fun holds => absurd holds.1 (by decide)⟩

end Osxrdp.EncoderSession
