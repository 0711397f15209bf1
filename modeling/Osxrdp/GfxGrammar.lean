import Osxrdp.Gfx
import Osxrdp.Runs

/-! The messages of a `GfxServer` from one start of its channel to the next are
whole blocks, whoever queued them and whenever they are drained. -/
namespace Osxrdp.GfxGrammar
open Gfx

/-- The quantiser of a frame has six bits. -/
abbrev SixBits := { n : UInt8 // n < 64 }

/-- The operations on a `GfxServer`. -/
inductive Op where
  | start (channelId : UInt32)
  | process (payload : Option ClientPdu)
  | close
  | setDesktopSize (width height : UInt16)
  | setDrdynvcChannelId (id : UInt16)
  | clearNeedsKeyframe
  | initSurface
  | sendAvc420Frame (now : UInt64) (h264Data : Bytes) (width height : UInt16) (quantParameter : SixBits)
    (isKeyframe : Bool)
  | drainPending
  deriving DecidableEq, Repr

/-- A message, or the start of the channel. -/
inductive Event where
  | started
  | message (pdu : ServerPdu)
  deriving DecidableEq, Repr

/-- A surface is initialised only while the server is active. -/
def step (encodeVec : EncodeVec) : Runs.System GfxServer Op Event
  | gfx, .start channelId =>
    let (gfx, messages) := gfx.start channelId
    some (gfx, .started :: messages.map .message)
  | gfx, .process payload =>
    let (gfx, messages) := gfx.process payload
    some (gfx, messages.map .message)
  | gfx, .close => some (gfx.close, [])
  | gfx, .setDesktopSize width height => some (gfx.setDesktopSize width height, [])
  | gfx, .setDrdynvcChannelId id => some (gfx.setDrdynvcChannelId id, [])
  | gfx, .clearNeedsKeyframe => some (gfx.clearNeedsKeyframe, [])
  | gfx, .initSurface => if gfx.isActive then some (gfx.initSurface, []) else none
  | gfx, .sendAvc420Frame now h264Data width height quantParameter isKeyframe =>
    (gfx.sendAvc420Frame encodeVec now h264Data width height quantParameter.val isKeyframe).map fun gfx => (gfx, [])
  | gfx, .drainPending =>
    let (gfx, messages) := gfx.drainPending
    some (gfx, messages.map .message)

/-- A whole block of messages. -/
inductive Block where
  | confirm (confirmed : CapabilitySet) (reset : ResetGraphicsPdu) (create : CreateSurfacePdu)
    (map : MapSurfaceToOutputPdu)
  | surface (reset : ResetGraphicsPdu) (create : CreateSurfacePdu) (map : MapSurfaceToOutputPdu)
  | frame (timestamp : Timestamp) (id : UInt32) (wire : WireToSurface1Pdu)
  deriving DecidableEq, Repr

namespace Block

/-- The messages of a block. -/
def pdus : Block → List ServerPdu
  | .confirm confirmed reset create map =>
    [.capabilitiesConfirm confirmed, .resetGraphics reset, .createSurface create, .mapSurfaceToOutput map]
  | .surface reset create map => [.resetGraphics reset, .createSurface create, .mapSurfaceToOutput map]
  | .frame timestamp id wire => [.startFrame ⟨timestamp, id⟩, .wireToSurface1 wire, .endFrame id]

/-- The block answers an advertisement. -/
def isConfirm : Block → Bool
  | .confirm _ _ _ _ => true
  | _ => false

/-- The surface that a block is about. -/
def Names (surfaceId : UInt16) : Block → Prop
  | .confirm _ _ create map | .surface _ create map => create.surfaceId = surfaceId ∧ map.surfaceId = surfaceId
  | .frame _ _ wire => wire.surfaceId = surfaceId

/-- The id of the frame. -/
def frameId : Block → Option UInt32
  | .frame _ id _ => some id
  | _ => none

end Block

/-- A confirmation comes first, one surface is meant throughout, and the ids of
the frames count up, from the largest back to 0. -/
structure WellFormed (surfaceId : UInt16) (blocks : List Block) : Prop where
  opens : ∀ first ∈ blocks.head?, first.isConfirm = true
  names : ∀ block ∈ blocks, block.Names surfaceId
  counts : (blocks.filterMap Block.frameId).IsChain fun id next => next = id + 1

/-- What is sent are whole blocks, in an order that a client understands. -/
def Grammatical (messages : List ServerPdu) : Prop :=
  ∃ surfaceId blocks, messages = blocks.flatMap Block.pdus ∧ WellFormed surfaceId blocks

/-- The messages up to the next start of the channel. -/
def untilStart : List Event → List ServerPdu
  | .message pdu :: rest => pdu :: untilStart rest
  | .started :: _ | [] => []

/-- From each start to the next, or to the end, the messages are grammatical. -/
def AllGrammatical (events : List Event) : Prop :=
  ∀ before after, events = before ++ .started :: after → Grammatical (untilStart after)

section Blocks
variable {surfaceId : UInt16} {blocks more : List Block} {block : Block}

private theorem WellFormed.of_append (wellFormed : WellFormed surfaceId (blocks ++ more)) :
    WellFormed surfaceId blocks := by
  refine ⟨fun first head => ?_, fun block member => wellFormed.names block (List.mem_append_left _ member), ?_⟩
  · apply wellFormed.opens first
    rw [List.head?_append, head, Option.some_or]
    rfl
  · have counts := wellFormed.counts
    rw [List.filterMap_append] at counts
    exact counts.left_of_append

/-- One more block, whose frame follows the last one. -/
theorem WellFormed.concat (wellFormed : WellFormed surfaceId blocks) (names : block.Names surfaceId)
    (opens : blocks = [] → block.isConfirm = true)
    (follows : ∀ id ∈ (blocks.filterMap Block.frameId).getLast?, ∀ next ∈ block.frameId, next = id + 1) :
    WellFormed surfaceId (blocks ++ [block]) := by
  refine ⟨fun first head => ?_, ?_, ?_⟩
  · cases blocks with
    | nil =>
      cases head
      exact opens rfl
    | cons one rest => exact wellFormed.opens first head
  · intro other member
    rcases List.mem_append.mp member with before | last
    · exact wellFormed.names other before
    · rw [List.mem_singleton.mp last]
      exact names
  · rw [List.filterMap_append, List.isChain_append]
    refine ⟨wellFormed.counts, ?_, fun id last next first => follows id last next ?_⟩
    · cases block with
      | frame timestamp id wire => exact List.isChain_singleton id
      | _ => exact List.isChain_nil
    · cases block with
      | frame timestamp id wire => exact first
      | _ => exact nomatch first

end Blocks

/-- What has been handed out since the start, and what is pending, in blocks. -/
structure Progress (gfx : GfxServer) (messages : List ServerPdu) (sent queued : List Block) : Prop where
  handedOut : messages = sent.flatMap Block.pdus
  pending : gfx.pending = queued.flatMap Block.pdus
  wellFormed : WellFormed gfx.surfaceId (sent ++ queued)
  counter : ∀ id ∈ ((sent ++ queued).filterMap Block.frameId).getLast?, gfx.frameId = id + 1
  opened : gfx.state ≠ .waitingCapabilities → sent ++ queued ≠ []

/-- What was sent so far, with what is queued, are whole blocks. -/
def InBlocks (gfx : GfxServer) (messages : List ServerPdu) : Prop :=
  ∃ sent queued, Progress gfx messages sent queued

section Operations
variable {gfx next : GfxServer} {messages : List ServerPdu} {sent queued : List Block}

/-- What was sent so far is grammatical, whatever is queued behind it. -/
theorem InBlocks.grammatical (inBlocks : InBlocks gfx messages) : Grammatical messages := by
  obtain ⟨sent, queued, progress⟩ := inBlocks
  exact ⟨gfx.surfaceId, sent, progress.handedOut, progress.wellFormed.of_append⟩

/-- Taking the queue out keeps to whole blocks. -/
theorem InBlocks.drain (inBlocks : InBlocks gfx messages) :
    InBlocks gfx.drainPending.1 (messages ++ gfx.drainPending.2) := by
  obtain ⟨sent, queued, progress⟩ := inBlocks
  have all : sent ++ queued ++ [] = sent ++ queued := List.append_nil _
  refine ⟨sent ++ queued, [], ⟨?_, rfl, ?_, ?_, ?_⟩⟩
  · rw [List.flatMap_append, ← progress.handedOut, ← progress.pending]
    rfl
  · rw [all]
    exact progress.wellFormed
  · rw [all]
    exact progress.counter
  · rw [all]
    exact progress.opened

/-- An operation that queues nothing. -/
theorem InBlocks.keep (inBlocks : InBlocks gfx messages) (pending : next.pending = gfx.pending)
    (surfaceId : next.surfaceId = gfx.surfaceId) (frameId : next.frameId = gfx.frameId)
    (state : next.state ≠ .waitingCapabilities → gfx.state ≠ .waitingCapabilities) :
    InBlocks next messages := by
  obtain ⟨sent, queued, progress⟩ := inBlocks
  refine ⟨sent, queued, ⟨progress.handedOut, pending.trans progress.pending, ?_, ?_, fun open' => ?_⟩⟩
  · rw [surfaceId]
    exact progress.wellFormed
  · rw [frameId]
    exact progress.counter
  · exact progress.opened (state open')

/-- An operation that queues one block. -/
theorem InBlocks.queue (inBlocks : InBlocks gfx messages) (block : Block)
    (pending : next.pending = gfx.pending ++ block.pdus) (surfaceId : next.surfaceId = gfx.surfaceId)
    (names : block.Names gfx.surfaceId)
    (opens : block.isConfirm = true ∨ gfx.state ≠ .waitingCapabilities)
    (counter : match block.frameId with
      | some id => id = gfx.frameId ∧ next.frameId = gfx.frameId + 1
      | none => next.frameId = gfx.frameId) : InBlocks next messages := by
  obtain ⟨sent, queued, progress⟩ := inBlocks
  have all : sent ++ (queued ++ [block]) = (sent ++ queued) ++ [block] := (List.append_assoc _ _ _).symm
  refine ⟨sent, queued ++ [block], ⟨progress.handedOut, ?_, ?_, ?_, ?_⟩⟩
  · rw [pending, progress.pending]
    simp
  · rw [all, surfaceId]
    refine progress.wellFormed.concat names (fun empty => ?_) fun id last other first => ?_
    · exact opens.resolve_right fun waits => progress.opened waits empty
    · rw [Option.mem_def.mp first] at counter
      rw [counter.1, progress.counter id last]
  · rw [all, List.filterMap_append]
    cases framed : block.frameId with
    | none =>
      rw [framed] at counter
      simp only [List.filterMap_cons, framed, List.filterMap_nil, List.append_nil]
      rw [counter]
      exact progress.counter
    | some id =>
      rw [framed] at counter
      simp only [List.filterMap_cons, framed, List.filterMap_nil]
      rw [List.getLast?_append]
      rintro _ ⟨⟩
      exact counter.2.trans (congrArg (· + 1) counter.1.symm)
  · rw [all]
    simp

/-- A message of the client keeps to whole blocks. -/
theorem InBlocks.process (inBlocks : InBlocks gfx messages) (payload : Option ClientPdu) :
    InBlocks (gfx.process payload).1 (messages ++ (gfx.process payload).2) := by
  match payload with
  | none =>
    rw [GfxServer.process, List.append_nil]
    exact inBlocks
  | some .frameAcknowledge => exact inBlocks.drain
  | some (.capabilitiesAdvertise caps) =>
    apply InBlocks.drain
    cases supported : caps.any CapabilitySet.permitsAvc420 with
    | false =>
      rw [GfxServer.handleCapabilitiesAdvertise_refused supported]
      exact inBlocks.keep rfl rfl rfl id
    | true =>
      rw [GfxServer.handleCapabilitiesAdvertise_supported supported]
      exact inBlocks.queue (.confirm (confirmedSet caps) _ _ _) rfl rfl ⟨rfl, rfl⟩ (.inl rfl) rfl

/-- A new surface is a block of its own. -/
theorem InBlocks.initSurface (inBlocks : InBlocks gfx messages) (active : gfx.state = .active) :
    InBlocks gfx.initSurface messages := by
  rw [GfxServer.initSurface_eq]
  exact inBlocks.queue (.surface _ _ _) rfl rfl ⟨rfl, rfl⟩ (.inr (by simp [active])) rfl

/-- A frame is a block of its own. -/
theorem InBlocks.sendAvc420Frame {encodeVec : EncodeVec} (allocates : Allocates encodeVec)
    (inBlocks : InBlocks gfx messages) {now : UInt64} {data : Bytes} {width height : UInt16}
    {quantParameter : SixBits} {isKeyframe : Bool}
    (sent : gfx.sendAvc420Frame encodeVec now data width height quantParameter.val isKeyframe = some next) :
    InBlocks next messages := by
  by_cases active : gfx.state = .active
  · obtain ⟨bitmapData, queued⟩ := GfxServer.sendAvc420Frame_active allocates now active data width height
      isKeyframe quantParameter.property
    cases queued.symm.trans sent
    exact inBlocks.queue (.frame _ gfx.frameId _) rfl rfl rfl (.inr (by simp [active])) ⟨rfl, rfl⟩
  · rw [GfxServer.sendAvc420Frame_inactive now active] at sent
    cases sent
    exact inBlocks

/-- A start begins with nothing, and another step hands out what keeps to blocks. -/
theorem step_inBlocks {encodeVec : EncodeVec} (allocates : Allocates encodeVec) {op : Op}
    {emitted : List Event} (stepped : step encodeVec gfx op = some (next, emitted)) :
    (emitted = [.started] ∧ InBlocks next []) ∨ ∃ pdus, emitted = pdus.map Event.message ∧
      ∀ messages, InBlocks gfx messages → InBlocks next (messages ++ pdus) := by
  have silent (kept : ∀ messages, InBlocks gfx messages → InBlocks next messages) :
      ∃ pdus, [] = pdus.map Event.message ∧
        ∀ messages, InBlocks gfx messages → InBlocks next (messages ++ pdus) := by
    refine ⟨[], rfl, fun messages inBlocks => ?_⟩
    rw [List.append_nil]
    exact kept messages inBlocks
  cases op with
  | start channelId =>
    cases stepped
    refine .inl ⟨rfl, [], [], rfl, rfl, ⟨nofun, nofun, List.isChain_nil⟩, nofun, fun open' => (open' rfl).elim⟩
  | process payload =>
    cases stepped
    exact .inr ⟨_, rfl, fun messages inBlocks => inBlocks.process payload⟩
  | close =>
    cases stepped
    exact .inr (silent fun messages inBlocks => inBlocks.keep rfl rfl rfl fun open' => (open' rfl).elim)
  | setDesktopSize width height =>
    cases stepped
    exact .inr (silent fun messages inBlocks => inBlocks.keep rfl rfl rfl id)
  | setDrdynvcChannelId channelId =>
    cases stepped
    exact .inr (silent fun messages inBlocks => inBlocks.keep rfl rfl rfl id)
  | clearNeedsKeyframe =>
    cases stepped
    exact .inr (silent fun messages inBlocks => inBlocks.keep rfl rfl rfl id)
  | initSurface =>
    change (if gfx.isActive then some _ else none) = _ at stepped
    split at stepped
    · rename_i active
      cases stepped
      exact .inr (silent fun messages inBlocks => inBlocks.initSurface (GfxServer.isActive_iff.mp active))
    · exact nomatch stepped
  | sendAvc420Frame now data width height quantParameter isKeyframe =>
    obtain ⟨after, sent, same⟩ := Option.map_eq_some_iff.mp stepped
    cases same
    exact .inr (silent fun messages inBlocks => inBlocks.sendAvc420Frame allocates sent)
  | drainPending =>
    cases stepped
    exact .inr ⟨_, rfl, fun messages inBlocks => inBlocks.drain⟩

end Operations

/-- Messages after the last start belong to blocks, and those before another
start are grammatical. -/
def Segmented (gfx : GfxServer) (past : List Event) : Prop :=
  ∀ before after, past = before ++ .started :: after →
    (Event.started ∈ after → Grammatical (untilStart after)) ∧
      (Event.started ∉ after → InBlocks gfx (untilStart after))

private theorem untilStart_closed {events more : List Event} (closed : Event.started ∈ events) :
    untilStart (events ++ more) = untilStart events := by
  induction events with
  | nil => exact nomatch closed
  | cons event rest ih =>
    cases event with
    | started => rfl
    | message pdu =>
      have later : Event.started ∈ rest := by simpa using closed
      rw [List.cons_append, untilStart, untilStart, ih later]

private theorem untilStart_open {events : List Event} (isOpen : Event.started ∉ events) (pdus : List ServerPdu) :
    untilStart (events ++ pdus.map Event.message) = untilStart events ++ pdus := by
  induction events with
  | nil =>
    induction pdus with
    | nil => rfl
    | cons pdu rest ih => exact congrArg (pdu :: ·) ih
  | cons event rest ih =>
    cases event with
    | started => simp at isOpen
    | message pdu =>
      have later : Event.started ∉ rest := by simpa using isOpen
      rw [List.cons_append, untilStart, untilStart, ih later, List.cons_append]

private theorem untilStart_started (events : List Event) :
    untilStart (events ++ [.started]) = untilStart events := by
  induction events with
  | nil => rfl
  | cons event rest ih =>
    cases event with
    | started => rfl
    | message pdu => rw [List.cons_append, untilStart, untilStart, ih]

section Segments
variable {gfx next : GfxServer} {past : List Event}

/-- What was sent since each start is grammatical. -/
theorem Segmented.allGrammatical (segmented : Segmented gfx past) : AllGrammatical past := by
  intro before after split
  by_cases closed : Event.started ∈ after
  · exact (segmented before after split).1 closed
  · exact ((segmented before after split).2 closed).grammatical

/-- A start begins a new run of messages. -/
theorem Segmented.start (segmented : Segmented gfx past) (begins : InBlocks next []) :
    Segmented next (past ++ [.started]) := by
  intro before after split
  obtain ⟨more, rfl, shown⟩ | ⟨more, rfl, shown⟩ := List.append_eq_append_iff.mp split
  · cases more with
    | nil =>
      cases shown
      exact ⟨nofun, fun _ => begins⟩
    | cons _ more => simp at shown
  · cases more with
    | nil =>
      cases shown
      exact ⟨nofun, fun _ => begins⟩
    | cons first more =>
      rw [List.cons_append] at shown
      obtain ⟨rfl, rfl⟩ := List.cons_eq_cons.mp shown
      refine ⟨fun _ => ?_, fun isOpen => (isOpen (by simp)).elim⟩
      rw [untilStart_started]
      exact segmented.allGrammatical before more rfl

/-- What is sent after a start is added to it. -/
theorem Segmented.messages (segmented : Segmented gfx past) {pdus : List ServerPdu}
    (kept : ∀ messages, InBlocks gfx messages → InBlocks next (messages ++ pdus)) :
    Segmented next (past ++ pdus.map Event.message) := by
  intro before after split
  have unstarted : Event.started ∉ pdus.map Event.message := by simp
  obtain ⟨more, rfl, shown⟩ | ⟨more, rfl, shown⟩ := List.append_eq_append_iff.mp split
  · exact (unstarted (by simp [shown])).elim
  · cases more with
    | nil =>
      have shown : Event.started :: after = pdus.map Event.message := shown
      exact (unstarted (shown ▸ List.mem_cons_self)).elim
    | cons first more =>
      rw [List.cons_append] at shown
      obtain ⟨rfl, rfl⟩ := List.cons_eq_cons.mp shown
      obtain ⟨closed, isOpen⟩ := segmented before more rfl
      by_cases inside : Event.started ∈ more
      · refine ⟨fun _ => ?_, fun absent => (absent (List.mem_append_left _ inside)).elim⟩
        rw [untilStart_closed inside]
        exact closed inside
      · refine ⟨fun member => ?_, fun _ => ?_⟩
        · exact ((List.mem_append.mp member).elim inside unstarted).elim
        · rw [untilStart_open inside]
          exact kept _ (isOpen inside)

end Segments

/-- **The output between two starts of the channel is grammatical.** -/
theorem output_is_grammatical {encodeVec : EncodeVec} (allocates : Allocates encodeVec)
    (desktopWidth desktopHeight : UInt16) {ops : List Op} {final : GfxServer} {events : List Event}
    (ran : Runs.run (step encodeVec) (.new desktopWidth desktopHeight) ops = some (final, events)) :
    AllGrammatical events := by
  have segmented : Segmented final ([] ++ events) := by
    refine Runs.invariant_of_step Segmented ?_ [] (fun before after split => ?_) ran
    · intro gfx past op next emitted segmented stepped
      obtain ⟨rfl, begins⟩ | ⟨pdus, rfl, kept⟩ := step_inBlocks allocates stepped
      · exact segmented.start begins
      · exact segmented.messages kept
    · simp at split
  exact segmented.allGrammatical

/-- The display loop and the client take turns, over two starts of the channel. -/
def twoStarts : List Op :=
  [.start 3, .process (some (.capabilitiesAdvertise [.v10 0])),
    .sendAvc420Frame 0 [1] 1280 800 ⟨28, by decide⟩ true, .initSurface,
    .sendAvc420Frame 1 [2] 1280 800 ⟨28, by decide⟩ true, .process (some .frameAcknowledge),
    .sendAvc420Frame 2 [3] 1280 800 ⟨28, by decide⟩ false, .close, .process none, .drainPending,
    .start 4, .setDesktopSize 1920 1080, .process (some (.capabilitiesAdvertise [.v8_1 0x12])),
    .sendAvc420Frame 3 [4] 1920 1080 ⟨28, by decide⟩ true, .drainPending]

/-- A channel that is opened twice. -/
theorem two_starts_are_grammatical : ∃ final events,
    Runs.run (step zeroedBuffer) (.new 1280 800) twoStarts = some (final, events) ∧ AllGrammatical events := by
  have succeeds : (Runs.run (step zeroedBuffer) (.new 1280 800) twoStarts).isSome := by decide
  obtain ⟨⟨final, events⟩, ran⟩ := Option.isSome_iff_exists.mp succeeds
  exact ⟨final, events, ran, output_is_grammatical zeroedBuffer_allocates 1280 800 ran⟩

end Osxrdp.GfxGrammar
