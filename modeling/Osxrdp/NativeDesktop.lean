import Osxrdp.DisplaySteps
import Osxrdp.FrameConvergence

/-! `AspectMode::Native`: the handler announces a desktop of the display's shape
that fits the client, and the pipeline paints frames of the display's size. The
bitmaps stay on the display, and on the desktop as long as that is no smaller. -/
namespace Osxrdp.NativeDesktop
open Display DisplayMode FramePipeline DisplaySteps
open BgraFramePipeline
open FrameConvergence (toNat_of_nonZeroU16 toUInt16_toNat)
open Raster (Rect)
open Runs (Throughout)

/-- A desktop at least as large as the display on both axes. -/
def Covers (desktop native : DesktopSize) : Prop :=
  native.width.toNat ≤ desktop.width.toNat ∧ native.height.toNat ≤ desktop.height.toNat

section Layout
variable {native : DesktopSize}

private theorem le_roundToU16 {n : Nat} {q : ℚ} (small : n ≤ 65535) (close : (n : ℚ) - 1 / 2 < q) :
    n ≤ (roundToU16 q).toNat := by
  have rounded : (n : ℤ) ≤ round q := by
    rw [round_eq]
    apply Int.le_floor.mpr
    push_cast
    linarith
  have bounded : min (round q).toNat 65535 < UInt16.size := by
    simp [UInt16.size]
  have value : (roundToU16 q).toNat = min (round q).toNat 65535 := UInt16.toNat_ofNat_of_lt' bounded
  rw [value]
  omega

private theorem shrink_le (fl : Rounding 53) {q : ℚ} (nonneg : 0 ≤ q) : q - q / 2 ^ 53 ≤ fl.round q := by
  have bound := fl.le_round q
  rwa [abs_of_nonneg nonneg] at bound

private theorem twice_rounded (fl : Rounding 53) {n : Nat} {q : ℚ} (small : n ≤ 65535)
    (close : (n : ℚ) - n / 2 ^ 53 ≤ q) :
    (n : ℚ) - 1 / 2 < fl.round q := by
  have bound : (n : ℚ) ≤ 65535 := by exact_mod_cast small
  have positive : (0 : ℚ) ≤ n := by positivity
  have least : (0 : ℚ) ≤ (n : ℚ) - n / 2 ^ 53 := by
    norm_num
    linarith
  have once := fl.monotone close
  have twice := shrink_le fl least
  norm_num at once twice ⊢
  linarith

private theorem le_roundToU16_nat {n m : Nat} (small : n ≤ 65535) (le : n ≤ m) :
    n ≤ (roundToU16 (m : ℚ)).toNat := by
  apply le_roundToU16 small
  have cast : (n : ℚ) ≤ m := by exact_mod_cast le
  linarith

/-- The rounded ratio of the display scales a client's side to at least the
display's other side, up to what one rounding loses. -/
theorem ratio_scales (fl : Rounding 53) {w h : Nat} (width : 0 < w) (height : 0 < h) :
    (∀ side : Nat, h ≤ side → (w : ℚ) - w / 2 ^ 53 ≤ side * fl.div w h) ∧
      ∀ side : Nat, w ≤ side → (h : ℚ) - h / 2 ^ 53 ≤ side / fl.div w h := by
  have widthPos : (0 : ℚ) < w := by exact_mod_cast width
  have heightPos : (0 : ℚ) < h := by exact_mod_cast height
  have exact : (0 : ℚ) < w / h := div_pos widthPos heightPos
  have shape : (h : ℚ) * (w / h) = w := mul_div_cancel₀ _ heightPos.ne'
  have close := abs_le.mp (fl.close (w / h))
  rw [abs_of_pos exact] at close
  obtain ⟨ratio, same⟩ : ∃ ratio, ratio = fl.div w h := ⟨_, rfl⟩
  rw [← same]
  have lower : (w : ℚ) / h * (1 - 1 / 2 ^ 53) ≤ ratio := by
    rw [same, Rounding.div]
    linarith [close.1]
  have upper : ratio ≤ (w : ℚ) / h * (1 + 1 / 2 ^ 53) := by
    rw [same, Rounding.div]
    linarith [close.2]
  have positive : 0 < ratio := lt_of_lt_of_le (mul_pos exact (by norm_num)) lower
  constructor
  · intro side high
    have sideCast : (h : ℚ) ≤ side := by exact_mod_cast high
    calc (w : ℚ) - w / 2 ^ 53 = (h : ℚ) * (w / h) * (1 - 1 / 2 ^ 53) := by
          rw [shape]
          ring
      _ = (h : ℚ) * (w / h * (1 - 1 / 2 ^ 53)) := mul_assoc _ _ _
      _ ≤ h * ratio := mul_le_mul_of_nonneg_left lower heightPos.le
      _ ≤ side * ratio := mul_le_mul_of_nonneg_right sideCast positive.le
  · intro side wide
    have sideCast : (w : ℚ) ≤ side := by exact_mod_cast wide
    rw [le_div_iff₀ positive]
    have shrunk : (0 : ℚ) ≤ h * (1 - 1 / 2 ^ 53) := mul_nonneg heightPos.le (by norm_num)
    calc ((h : ℚ) - h / 2 ^ 53) * ratio = (h : ℚ) * (1 - 1 / 2 ^ 53) * ratio := by ring
      _ ≤ (h : ℚ) * (1 - 1 / 2 ^ 53) * (w / h * (1 + 1 / 2 ^ 53)) := mul_le_mul_of_nonneg_left upper shrunk
      _ = (h : ℚ) * (w / h) * (1 - 1 / 2 ^ 106) := by ring
      _ ≤ (w : ℚ) := by
          rw [shape]
          exact mul_le_of_le_one_right widthPos.le (by norm_num)
      _ ≤ (side : ℚ) := sideCast

private theorem le_max_toNat {n : Nat} {value : UInt16} (least : n ≤ value.toNat) : n ≤ (max value 1).toNat := by
  have larger : max value 1 = if value ≤ 1 then 1 else value := rfl
  rw [larger]
  split
  · rename_i small
    exact least.trans (UInt16.le_iff_toNat_le.mp small)
  · exact least

private theorem nativeModeSize_cases (fl : Rounding 53) (native : DesktopSize) (clientW clientH : UInt32) :
    nativeModeSize fl native clientW clientH =
        ⟨max (roundToU16 (fl.mul clientH.toNat (fl.div native.width.toNat native.height.toNat))) 1,
          max (roundToU16 clientH.toNat) 1⟩ ∨
      nativeModeSize fl native clientW clientH =
        ⟨max (roundToU16 clientW.toNat) 1,
          max (roundToU16 (fl.div clientW.toNat (fl.div native.width.toNat native.height.toNat))) 1⟩ := by
  unfold nativeModeSize
  dsimp only
  generalize (if clientH = 0 then _ else _) = wider
  cases wider with
  | true => exact .inl rfl
  | false => exact .inr rfl

/-- A client that is no smaller than the display is given a desktop that is none either. -/
theorem nativeModeSize_covers (fl : Rounding 53) (width : native.width ≠ 0) (height : native.height ≠ 0)
    {clientW clientH : UInt32} (wide : native.width.toNat ≤ clientW.toNat)
    (high : native.height.toNat ≤ clientH.toNat) :
    Covers (nativeModeSize fl native clientW clientH) native := by
  have widthLe : native.width.toNat ≤ 65535 := Nat.lt_succ_iff.mp native.width.toNat_lt
  have heightLe : native.height.toNat ≤ 65535 := Nat.lt_succ_iff.mp native.height.toNat_lt
  have widthPos : 0 < native.width.toNat := Nat.pos_of_ne_zero fun zero => width (UInt16.toNat_inj.mp zero)
  have heightPos : 0 < native.height.toNat := Nat.pos_of_ne_zero fun zero => height (UInt16.toNat_inj.mp zero)
  obtain ⟨scalesWidth, scalesHeight⟩ := ratio_scales fl widthPos heightPos
  rcases nativeModeSize_cases fl native clientW clientH with wider | taller
  · rw [wider]
    have scaled := twice_rounded fl widthLe (scalesWidth _ high)
    exact ⟨le_max_toNat (le_roundToU16 widthLe scaled), le_max_toNat (le_roundToU16_nat heightLe high)⟩
  · rw [taller]
    have scaled := twice_rounded fl heightLe (scalesHeight _ wide)
    exact ⟨le_max_toNat (le_roundToU16_nat widthLe wide), le_max_toNat (le_roundToU16 heightLe scaled)⟩

end Layout

/-- The update stays within a width and a height. -/
def Inside (update : BitmapUpdate) (size : DesktopSize) : Prop :=
  update.x.toNat + update.width.val.toNat ≤ size.width.toNat ∧
    update.y.toNat + update.height.val.toNat ≤ size.height.toNat

instance (update : BitmapUpdate) (size : DesktopSize) : Decidable (Inside update size) :=
  inferInstanceAs (Decidable (_ ∧ _))

/-- What is inside the display is inside a desktop that covers it. -/
theorem Inside.covered {update : BitmapUpdate} {native desktop : DesktopSize} (inside : Inside update native)
    (covers : Covers desktop native) : Inside update desktop :=
  ⟨inside.1.trans covers.1, inside.2.trans covers.2⟩

/-- A frame of the size of the display. -/
def Fills (native : DesktopSize) (frame : PrevFrame) : Prop :=
  frame.width = native.width.toNat ∧ frame.height = native.height.toNat

/-- What is relied on of `find_different_rects_sub::<4>` here: its rectangles lie
inside the image. -/
def StaysInside (findDifferentRectsSub : PrevFrame → PrevFrame → List Rect) : Prop :=
  ∀ before after : PrevFrame, before.width = after.width → before.height = after.height →
    ∀ rect ∈ findDifferentRectsSub before after, rect.InArea after.width after.height

/-- A pipeline in Native mode that has only seen frames of the display's size. -/
structure Bounded (native : DesktopSize) (pipeline : BgraFramePipeline) : Prop where
  aspectMode : pipeline.aspectMode = .native
  prev : ∀ prev ∈ pipeline.prev, Fills native prev
  pending : ∀ update ∈ pipeline.pending, Inside update native

section Pipeline
variable {platform : Platform} {native : DesktopSize} {pipeline next : BgraFramePipeline} {frame : PrevFrame}
  {bitmap : BitmapUpdate}

/-- The full-frame update of a frame of the display's size. -/
theorem makeBitmap_inside (fills : Fills native frame) (made : makeBitmap frame = some bitmap) :
    bitmap.x = 0 ∧ bitmap.y = 0 ∧ Inside bitmap native := by
  have widthLe : frame.width ≤ 65535 := fills.1 ▸ Nat.lt_succ_iff.mp native.width.toNat_lt
  have heightLe : frame.height ≤ 65535 := fills.2 ▸ Nat.lt_succ_iff.mp native.height.toNat_lt
  unfold makeBitmap at made
  obtain ⟨width, madeWidth, made⟩ := Option.bind_eq_some_iff.mp made
  obtain ⟨height, madeHeight, made⟩ := Option.bind_eq_some_iff.mp made
  obtain ⟨stride, _, made⟩ := Option.bind_eq_some_iff.mp made
  cases made
  refine ⟨rfl, rfl, ?_, ?_⟩
  · rw [toNat_of_nonZeroU16 madeWidth widthLe, fills.1]
    exact (Nat.zero_add _).le
  · rw [toNat_of_nonZeroU16 madeHeight heightLe, fills.2]
    exact (Nat.zero_add _).le

/-- A dirty rectangle inside the frame leaves only updates that stay on the display. -/
theorem queueRect_inside {pending queued : List BitmapUpdate} {rect : Rect} (originX : bitmap.x = 0)
    (originY : bitmap.y = 0) (held : ∀ update ∈ pending, Inside update native)
    (inside : rect.InArea native.width.toNat native.height.toNat)
    (looped : queueRect bitmap pending rect = some queued) : ∀ update ∈ queued, Inside update native := by
  obtain ⟨_, _, right, bottom⟩ := inside
  have widthLe := native.width.toNat_lt
  have heightLe := native.height.toNat_lt
  unfold queueRect at looped
  split at looped
  case h_2 =>
    cases looped
    exact held
  case h_1 rw' rh madeWidth madeHeight =>
    obtain ⟨sub, cut, same⟩ := Option.map_eq_some_iff.mp looped
    unfold BitmapUpdate.sub at cut
    split at cut
    · cases cut
      cases same
      exact held
    · obtain ⟨data, _, rfl⟩ := Option.map_eq_some_iff.mp cut
      cases same
      have x : rect.x.toUInt16.toNat = rect.x := toUInt16_toNat (by omega)
      have y : rect.y.toUInt16.toNat = rect.y := toUInt16_toNat (by omega)
      refine List.forall_mem_append.mpr ⟨held, List.forall_mem_singleton.mpr ⟨?_, ?_⟩⟩
      · rw [toNat_of_nonZeroU16 madeWidth (by omega), originX, UInt16.zero_add, x]
        exact right
      · rw [toNat_of_nonZeroU16 madeHeight (by omega), originY, UInt16.zero_add, y]
        exact bottom

private theorem queueRects_inside (originX : bitmap.x = 0) (originY : bitmap.y = 0) (rects : List Rect)
    (inside : ∀ rect ∈ rects, rect.InArea native.width.toNat native.height.toNat)
    {pending queued : List BitmapUpdate} (held : ∀ update ∈ pending, Inside update native)
    (looped : rects.foldlM (queueRect bitmap) pending = some queued) :
    ∀ update ∈ queued, Inside update native := by
  induction rects generalizing pending with
  | nil =>
    cases looped
    exact held
  | cons rect rest ih =>
    rw [List.foldlM_cons] at looped
    obtain ⟨middle, first, later⟩ := Option.bind_eq_some_iff.mp looped
    have kept := queueRect_inside originX originY held (inside rect (by simp)) first
    exact ih (fun rect member => inside rect (List.mem_cons_of_mem _ member)) kept later

/-- A push whose transformed frame fills an area queues only updates inside it. -/
theorem pushFrame_inside {src : PrevFrame} (stays : StaysInside platform.findDifferentRectsSub)
    (transformed : transformFrame platform.fl pipeline.aspectMode pipeline.targetSize src = some frame)
    (fills : Fills native frame) (held : ∀ update ∈ pipeline.pending, Inside update native)
    (pushed : pipeline.pushFrame platform src = some next) :
    ∃ prev pending, next = { pipeline with prev, pending } ∧ (prev = pipeline.prev ∨ prev = some frame) ∧
      ∀ update ∈ pending, Inside update native := by
  simp only [BgraFramePipeline.pushFrame, transformed, Option.bind_some] at pushed
  cases made : makeBitmap frame with
  | none =>
    simp only [made, Option.some.injEq] at pushed
    exact ⟨pipeline.prev, pipeline.pending, pushed.symm, .inl rfl, held⟩
  | some bitmap =>
    obtain ⟨originX, originY, inside⟩ := makeBitmap_inside fills made
    have full : ∀ update ∈ pipeline.pending ++ [bitmap], Inside update native :=
      List.forall_mem_append.mpr ⟨held, List.forall_mem_singleton.mpr inside⟩
    cases previous : pipeline.prev with
    | none =>
      simp only [made, previous, Option.some.injEq] at pushed
      exact ⟨_, _, pushed.symm, .inr rfl, full⟩
    | some prev =>
      simp only [made, previous] at pushed
      split at pushed
      · exact ⟨_, _, (Option.some.inj pushed).symm, .inr rfl, full⟩
      · rename_i sameSize
        rw [not_or, not_not, not_not] at sameSize
        have rects (rect : Rect) (member : rect ∈ platform.findDifferentRectsSub prev frame) :
            rect.InArea native.width.toNat native.height.toNat := by
          have area := stays prev frame sameSize.1 sameSize.2 rect member
          rwa [fills.1, fills.2] at area
        unfold queueChanges at pushed
        dsimp only at pushed
        split at pushed
        · exact ⟨_, _, (Option.some.inj pushed).symm, .inr rfl, held⟩
        · split at pushed
          · exact ⟨_, _, (Option.some.inj pushed).symm, .inr rfl, full⟩
          · obtain ⟨pending, looped, same⟩ := Option.map_eq_some_iff.mp pushed
            exact ⟨_, pending, same.symm, .inr rfl, queueRects_inside originX originY _ rects held looped⟩

private theorem pushFrame_bounded (stays : StaysInside platform.findDifferentRectsSub)
    (bounded : Bounded native pipeline)
    (fills : Fills native frame) (pushed : pipeline.pushFrame platform frame = some next) :
    Bounded native next := by
  have whole : transformFrame platform.fl pipeline.aspectMode pipeline.targetSize frame = some frame := by
    simp [transformFrame, needsCropScale, bounded.aspectMode]
  obtain ⟨prev, pending, rfl, source, inside⟩ := pushFrame_inside stays whole fills bounded.pending pushed
  refine ⟨bounded.aspectMode, ?_, inside⟩
  rcases source with rfl | rfl
  · exact bounded.prev
  · rintro _ ⟨⟩
    exact fills

end Pipeline

/-- A bitmap that is shown stays on the display. -/
def OnDisplay (native : DesktopSize) : Event → Prop
  | .update (.bitmap bitmap) => Inside bitmap native
  | _ => True

section Streams
variable {platform : Platform} {native : DesktopSize} {avc420Enabled forced flag : Bool}
  {before after : MacDisplayUpdates} {capture : Capture} {events : List Event}

private theorem reset_bounded {pipeline : BgraFramePipeline} (bounded : Bounded native pipeline) :
    Bounded native pipeline.reset := ⟨bounded.aspectMode, nofun, nofun⟩

private theorem prepares_bounded (prepares : Prepares before after) (bounded : Bounded native before.bgraPipeline) :
    Bounded native after.bgraPipeline := by
  rcases prepares.pipeline with kept | reset
  · rw [kept]
    exact bounded
  · rw [reset]
    exact reset_bounded bounded

private theorem popUpdate_bounded (updates : MacDisplayUpdates) (bounded : Bounded native updates.bgraPipeline) :
    Bounded native updates.popUpdate.2.bgraPipeline ∧
      ∀ update ∈ updates.popUpdate.1, OnDisplay native (.update update) := by
  unfold MacDisplayUpdates.popUpdate BgraFramePipeline.popUpdate
  cases queued : updates.bgraPipeline.pending with
  | nil => exact ⟨bounded, nofun⟩
  | cons update rest =>
    have pending := bounded.pending
    rw [queued] at pending
    have rest (later : BitmapUpdate) (member : later ∈ rest) := pending later (List.mem_cons_of_mem _ member)
    refine ⟨⟨bounded.aspectMode, bounded.prev, rest⟩, ?_⟩
    rintro _ ⟨⟩
    exact pending update (by simp)

/-- What a captured frame queues and returns is inside the display. -/
theorem frame_bounded (stays : StaysInside platform.findDifferentRectsSub)
    (bounded : Bounded native before.bgraPipeline)
    (fills : ∀ frame, Captured capture frame → Fills native frame)
    (framed : before.frame platform avc420Enabled forced capture = some (after, flag, events)) :
    Bounded native after.bgraPipeline ∧ ∀ event ∈ events, OnDisplay native event := by
  cases frame_moves framed with
  | rest prepared calls shown prepares creates unpushed =>
    refine ⟨prepares_bounded prepares bounded,
      List.forall_mem_append.mpr ⟨fun event call => ?_, fun event later => ?_⟩⟩
    · rw [(creates event call).1]
      trivial
    · have encoded := unpushed event later
      cases event with
      | update update =>
        cases update with
        | bitmap bitmap => exact encoded.elim
        | _ => trivial
      | _ => trivial
  | push prepared after calls shown prepares creates frame captured pushed =>
    obtain ⟨pipeline, queued, popped⟩ := Option.map_eq_some_iff.mp pushed
    have next := pushFrame_bounded stays (prepares_bounded prepares bounded) (fills frame captured) queued
    obtain ⟨kept, shows⟩ := popUpdate_bounded { prepared with bgraPipeline := pipeline } next
    cases popped
    refine ⟨kept, List.forall_mem_append.mpr ⟨fun event call => ?_, forall_mem_shown shows⟩⟩
    rw [(creates event call).1]
    trivial

/-- What a poll returns is inside the display. -/
theorem poll_bounded (avc420Enabled : Bool) (tx : Watch.Sender (Option DesktopSize))
    (bounded : Bounded native before.bgraPipeline) :
    Bounded native (before.poll avc420Enabled tx).2.bgraPipeline ∧
      ∀ update ∈ (before.poll avc420Enabled tx).1, OnDisplay native (.update update) := by
  have still (size : DesktopSize) : Bounded native (before.bgraPipeline.setTarget size) :=
    ⟨bounded.aspectMode, bounded.prev, bounded.pending⟩
  obtain ⟨size, _, _, ⟨_, polled⟩ | ⟨_, polled⟩⟩ | ⟨_, polled⟩ := poll_cases before avc420Enabled tx
  · rw [polled]
    refine ⟨still size, ?_⟩
    rintro _ ⟨⟩
    trivial
  · rw [polled]
    exact popUpdate_bounded _ (still size)
  · rw [polled]
    exact popUpdate_bounded _ bounded

/-- A resize that a poll returns is the size on the channel. -/
theorem poll_resize {tx : Watch.Sender (Option DesktopSize)} {size : DesktopSize}
    (returned : (before.poll avc420Enabled tx).1 = some (.resize size)) : tx.value = some size := by
  obtain ⟨sent, _, value, ⟨_, polled⟩ | ⟨_, polled⟩⟩ | ⟨_, polled⟩ := poll_cases before avc420Enabled tx
  · rw [polled] at returned
    cases returned
    exact value
  · rw [polled] at returned
    have quiet := (popUpdate_same _).2 _ returned
    cases quiet
  · rw [polled] at returned
    have quiet := (popUpdate_same _).2 _ returned
    cases quiet

end Streams

/-- The size that the client has been told, if the event tells one. -/
def announced : Event → Option DesktopSize
  | .size size | .update (.resize size) => some size
  | _ => none

/-- The desktop size that the client was told last. -/
def lastAnnounced (past : List Event) : Option DesktopSize := (past.filterMap announced).getLast?

/-- Every bitmap stays on the desktop as it was announced before. -/
def PaintsInside (past : List Event) : Prop :=
  Throughout (fun before event => ∀ bitmap, event = .update (.bitmap bitmap) →
    ∀ desktop ∈ lastAnnounced before, Inside bitmap desktop) past

instance (before : List Event) : ∀ event : Event, Decidable (∀ bitmap, event = .update (.bitmap bitmap) →
    ∀ desktop ∈ lastAnnounced before, Inside bitmap desktop)
  | .update (.bitmap bitmap) =>
    decidable_of_iff (∀ desktop ∈ lastAnnounced before, Inside bitmap desktop)
      ⟨by rintro inside _ ⟨⟩; exact inside, fun all => all bitmap rfl⟩
  | .update (.resize _) | .update (.avc420 _) | .size _ | .started _ | .ended | .failed | .createStream
  | .sent _ | .modeChanged => isTrue nofun

instance (past : List Event) : Decidable (PaintsInside past) := inferInstanceAs (Decidable (Throughout _ past))

/-- The frames of this step are captured at the size of the display. -/
def CapturesNative (native : DesktopSize) : Op → Prop
  | .frame _ capture => ∀ frame, Captured capture frame → Fills native frame
  | _ => True

/-- No client asks for less than the display on either axis. -/
def AsksNative (native : DesktopSize) : Op → Prop
  | .requestLayout (some (clientW, clientH)) _ =>
    native.width.toNat ≤ clientW.toNat ∧ native.height.toNat ≤ clientH.toNat
  | _ => True

/-- The display is never switched, and every pipeline has only seen its frames. -/
structure OnNative (native : DesktopSize) (world : World) : Prop where
  host : cgDisplaySize world.host = native
  cached : ∀ size ∈ world.display.nativeSize, size = native
  aspectMode : world.display.aspectMode = .native
  unswitched : world.display.modeSwitcher = none
  streams : ∀ live ∈ world.streams, Bounded native live.updates.bgraPipeline

/-- What the handler announces is no smaller than the display. -/
structure Roomy (native : DesktopSize) (display : MacDisplay) : Prop where
  current : ∀ size ∈ display.currentSize, Covers size native
  sent : ∀ size ∈ display.resizeTx.value, Covers size native

section Steps
variable {platform : Platform} {native : DesktopSize} {world next : World} {op : Op} {events : List Event}

/-- A desktop covers itself. -/
theorem Covers.refl (native : DesktopSize) : Covers native native := ⟨le_rfl, le_rfl⟩

private theorem OnNative.native_eq (onNative : OnNative native world) : world.display.native world.host = native := by
  unfold MacDisplay.native
  cases cached : world.display.nativeSize with
  | none => exact onNative.host
  | some size => exact onNative.cached size cached

private theorem max_one_ne_zero (n : UInt16) : max n 1 ≠ 0 := by
  intro zero
  have least : 1 ≤ (max n 1).toNat := by
    have larger : max n 1 = if n ≤ 1 then 1 else n := rfl
    rw [larger]
    split
    · decide
    · rename_i large
      have bound := UInt16.lt_iff_toNat_lt.mp (UInt16.not_le.mp large)
      exact Nat.le_of_lt bound
  rw [zero] at least
  cases least

/-- The display is not empty. -/
theorem OnNative.nonzero (onNative : OnNative native world) : native.width ≠ 0 ∧ native.height ≠ 0 := by
  rw [← onNative.host]
  exact ⟨max_one_ne_zero _, max_one_ne_zero _⟩

/-- In Native mode a layout request only announces a size. -/
theorem requestLayout_native (aspectMode : world.display.aspectMode = .native) (clientW clientH : UInt32)
    (outcome : SwitchOutcome) :
    world.display.requestLayout platform.fl world.host (some (clientW, clientH)) outcome =
      (world.host, world.display.announce
        (nativeModeSize platform.fl (world.display.native world.host) clientW clientH)) := by
  simp only [MacDisplay.requestLayout, aspectMode]

private theorem announce_keeps (native : DesktopSize) (display : MacDisplay) (size : DesktopSize) :
    ((display.announce size).1.nativeSize = display.nativeSize ∧
        (display.announce size).1.aspectMode = display.aspectMode ∧
        (display.announce size).1.modeSwitcher = display.modeSwitcher) ∧
      ∀ event ∈ (display.announce size).2, OnDisplay native event := by
  unfold MacDisplay.announce
  split
  · exact ⟨⟨rfl, rfl, rfl⟩, nofun⟩
  · exact ⟨⟨rfl, rfl, rfl⟩, List.forall_mem_singleton.mpr trivial⟩

/-- Every step keeps to the display, and shows only what is on it. -/
theorem step_onNative (stays : StaysInside platform.findDifferentRectsSub) (onNative : OnNative native world)
    (captures : CapturesNative native op) (stepped : Display.step platform world op = some (next, events)) :
    OnNative native next ∧ ∀ event ∈ events, OnDisplay native event := by
  have isNative := onNative.native_eq
  obtain ⟨host, cached, aspectMode, unswitched, streams⟩ := onNative
  cases step_transition stepped with
  | size =>
    refine ⟨⟨host, ?_, ?_, ?_, streams⟩, List.forall_mem_singleton.mpr trivial⟩
    · unfold MacDisplay.size
      split
      · exact cached
      · rintro _ ⟨⟩
        exact isNative
    · unfold MacDisplay.size
      split <;> exact aspectMode
    · unfold MacDisplay.size
      split <;> exact unswitched
  | noMonitor outcome => exact ⟨⟨host, cached, aspectMode, unswitched, streams⟩, nofun⟩
  | requestLayout client outcome =>
    obtain ⟨clientW, clientH⟩ := client
    rw [requestLayout_native aspectMode]
    obtain ⟨⟨sameNative, sameAspect, sameSwitcher⟩, shown⟩ := announce_keeps native world.display
      (nativeModeSize platform.fl (world.display.native world.host) clientW clientH)
    refine ⟨⟨host, ?_, sameAspect.trans aspectMode, sameSwitcher.trans unswitched, streams⟩, shown⟩
    rw [sameNative]
    exact cached
  | updates created =>
    have readied : (world.display.updates world.host created).2.1.nativeSize = some native ∧
        (world.display.updates world.host created).2.1.aspectMode = .native ∧
        (world.display.updates world.host created).2.1.modeSwitcher = none ∧
        ∀ event ∈ (world.display.updates world.host created).2.2, OnDisplay native event := by
      rcases updates_cases world.host world.display created with failed | ⟨updates, _, started⟩
      · rw [failed]
        exact ⟨congrArg some isNative, aspectMode, unswitched, forall_mem_startCalls trivial trivial⟩
      · rw [started]
        exact ⟨congrArg some isNative, aspectMode, unswitched, forall_mem_startCalls trivial trivial⟩
    refine ⟨⟨host, ?_, readied.2.1, readied.2.2.1, List.forall_mem_append.mpr ⟨streams, ?_⟩⟩, readied.2.2.2⟩
    · rw [readied.1]
      rintro _ ⟨⟩
      rfl
    · intro live member
      obtain ⟨updates, started, rfl⟩ := List.mem_map.mp member
      obtain ⟨capture, _, encoded⟩ := Option.bind_eq_some_iff.mp (updates_start (Option.mem_toList.mp started))
      obtain ⟨encoder, _, rfl⟩ := Option.map_eq_some_iff.mp encoded
      exact ⟨aspectMode, nofun, nofun⟩
  | poll index live found =>
    obtain ⟨bounded, shown⟩ := poll_bounded world.avc420Enabled world.display.resizeTx
      (streams live (List.mem_of_getElem? found))
    exact ⟨⟨host, cached, aspectMode, unswitched, forall_mem_set streams bounded⟩, forall_mem_shown shown⟩
  | frame index capture live updates forceKeyframe events found framed =>
    obtain ⟨bounded, shown⟩ := frame_bounded stays (streams live (List.mem_of_getElem? found)) captures framed
    exact ⟨⟨host, cached, aspectMode, unswitched, forall_mem_set streams bounded⟩, shown⟩
  | drop index live found =>
    refine ⟨⟨host, cached, aspectMode, unswitched, fun live member => ?_⟩, nofun⟩
    exact streams live (List.mem_of_mem_eraseIdx member)
  | clientDisconnected outcome =>
    refine ⟨⟨?_, ?_, ?_, ?_, ?_⟩, nofun⟩ <;>
      simp only [World.disconnect, MacDisplay.clientDisconnected, unswitched]
    · exact host
    · exact nofun
    · exact aspectMode
    · exact streams
  | setAvc420Enabled enabled => exact ⟨⟨host, cached, aspectMode, unswitched, streams⟩, nofun⟩
  | setForceKeyframe forced => exact ⟨⟨host, cached, aspectMode, unswitched, streams⟩, nofun⟩

private theorem announced_quiet {event : Event} (quiet : Quiet event) : announced event = none := by
  cases event with
  | update update =>
    cases update with
    | resize size => cases quiet
    | bitmap bitmap => rfl
    | avc420 update => rfl
  | ended => rfl
  | failed => rfl
  | _ => exact nomatch quiet

private theorem silent_roomy (silent : ∀ event ∈ events, announced event = none) :
    ∀ event ∈ events, ∀ size ∈ announced event, Covers size native := by
  intro event member size told
  rw [silent event member] at told
  cases told

private theorem announce_roomy {display : MacDisplay} {size : DesktopSize} (roomy : Roomy native display)
    (covers : Covers size native) : Roomy native (display.announce size).1 ∧
      ∀ event ∈ (display.announce size).2, announced event = none := by
  unfold MacDisplay.announce
  split
  · exact ⟨roomy, nofun⟩
  · refine ⟨⟨?_, ?_⟩, List.forall_mem_singleton.mpr rfl⟩
    · rintro _ ⟨⟩
      exact covers
    · rintro _ ⟨⟩
      exact covers

/-- Clients that ask for no less than the display are told of no smaller desktop. -/
theorem step_roomy (onNative : OnNative native world) (roomy : Roomy native world.display)
    (asks : AsksNative native op) (stepped : Display.step platform world op = some (next, events)) :
    Roomy native next.display ∧ ∀ event ∈ events, ∀ size ∈ announced event, Covers size native := by
  cases step_transition stepped with
  | size =>
    have same := size_same world.host world.display
    refine ⟨⟨same.currentSize ▸ roomy.current, same.resizeTx ▸ roomy.sent⟩, List.forall_mem_singleton.mpr ?_⟩
    rintro _ ⟨⟩
    unfold MacDisplay.size
    cases current : world.display.currentSize with
    | some size => exact roomy.current size current
    | none =>
      dsimp only
      rw [onNative.native_eq]
      exact .refl native
  | noMonitor outcome => exact ⟨roomy, nofun⟩
  | requestLayout client outcome =>
    obtain ⟨clientW, clientH⟩ := client
    rw [requestLayout_native onNative.aspectMode, onNative.native_eq]
    obtain ⟨width, height⟩ := onNative.nonzero
    obtain ⟨kept, silent⟩ := announce_roomy roomy (nativeModeSize_covers platform.fl width height asks.1 asks.2)
    exact ⟨kept, silent_roomy silent⟩
  | updates created =>
    rcases updates_cases world.host world.display created with failed | ⟨updates, _, started⟩
    · rw [failed]
      exact ⟨⟨roomy.current, roomy.sent⟩, silent_roomy (forall_mem_startCalls rfl rfl)⟩
    · rw [started]
      exact ⟨⟨roomy.current, roomy.sent⟩, silent_roomy (forall_mem_startCalls rfl rfl)⟩
  | poll index live found =>
    refine ⟨roomy, forall_mem_shown fun update returned size told => ?_⟩
    cases update with
    | resize resized =>
      cases told
      exact roomy.sent size (poll_resize returned)
    | bitmap bitmap => cases told
    | avc420 update => cases told
  | frame index capture live updates forceKeyframe events found framed =>
    obtain ⟨_, quiet⟩ := frame_same framed
    refine ⟨roomy, silent_roomy fun event member => ?_⟩
    rcases quiet event member with quiet | ⟨created, _⟩
    · exact announced_quiet quiet
    · rw [created]
      rfl
  | drop index live found => exact ⟨roomy, nofun⟩
  | clientDisconnected outcome => exact ⟨⟨nofun, roomy.sent⟩, nofun⟩
  | setAvc420Enabled enabled => exact ⟨roomy, nofun⟩
  | setForceKeyframe forced => exact ⟨roomy, nofun⟩

end Steps

section Runs
variable {platform : Platform} {host : Host} {mode : CaptureMode} {ops : List Op} {final : World}
  {events : List Event}

private theorem fresh_onNative (host : Host) (mode : CaptureMode) :
    OnNative (cgDisplaySize host) (.fresh host mode .native) :=
  ⟨rfl, nofun, rfl, rfl, List.forall_mem_nil _⟩

/-- What a run shows stays on the display. -/
theorem run_onNative (stays : StaysInside platform.findDifferentRectsSub)
    (captures : ∀ op ∈ ops, CapturesNative (cgDisplaySize host) op)
    (ran : Runs.run (Display.step platform) (.fresh host mode .native) ops = some (final, events)) :
    ∀ event ∈ events, OnDisplay (cgDisplaySize host) event := by
  have kept := Runs.invariant_of_meets
    (fun world past => OnNative (cgDisplaySize host) world ∧ ∀ event ∈ past, OnDisplay (cgDisplaySize host) event)
    (fun world past op next emitted inv captures stepped => by
      obtain ⟨onNative, shown⟩ := step_onNative stays inv.1 captures stepped
      exact ⟨onNative, List.forall_mem_append.mpr ⟨inv.2, shown⟩⟩)
    ⟨fresh_onNative host mode, List.forall_mem_nil _⟩ (Runs.meets_of_forall captures) ran
  exact kept.2

/-- Every desktop announced in a run covers the display. -/
theorem run_roomy (stays : StaysInside platform.findDifferentRectsSub)
    (captures : ∀ op ∈ ops, CapturesNative (cgDisplaySize host) op)
    (asks : ∀ op ∈ ops, AsksNative (cgDisplaySize host) op)
    (ran : Runs.run (Display.step platform) (.fresh host mode .native) ops = some (final, events)) :
    ∀ event ∈ events, ∀ size ∈ announced event, Covers size (cgDisplaySize host) := by
  have kept := Runs.invariant_of_meets
    (fun world past => (OnNative (cgDisplaySize host) world ∧ Roomy (cgDisplaySize host) world.display) ∧
      ∀ event ∈ past, ∀ size ∈ announced event, Covers size (cgDisplaySize host))
    (fun world past op next emitted inv meets stepped => by
      obtain ⟨onNative, _⟩ := step_onNative stays inv.1.1 meets.1 stepped
      obtain ⟨roomy, told⟩ := step_roomy inv.1.1 inv.1.2 meets.2 stepped
      exact ⟨⟨onNative, roomy⟩, List.forall_mem_append.mpr ⟨inv.2, told⟩⟩)
    ⟨⟨fresh_onNative host mode, nofun, nofun⟩, List.forall_mem_nil _⟩
    (Runs.meets_and (Runs.meets_of_forall captures) (Runs.meets_of_forall asks)) ran
  exact kept.2

private theorem lastAnnounced_mem {past : List Event} {desktop : DesktopSize}
    (last : desktop ∈ lastAnnounced past) : ∃ event ∈ past, desktop ∈ announced event :=
  List.mem_filterMap.mp (List.mem_of_getLast? last)

end Runs

/-- **In Native mode every bitmap stays on the display, and with it on any
announced desktop that is no smaller; and every announced desktop is none
while no client asks for less than the display on an axis.** -/
theorem bitmaps_stay_on_display (platform : Platform) (stays : StaysInside platform.findDifferentRectsSub)
    (host : Host) (mode : CaptureMode) {ops : List Op} {final : World} {events : List Event}
    (captures : ∀ op ∈ ops, CapturesNative (cgDisplaySize host) op)
    (ran : Runs.run (Display.step platform) (.fresh host mode .native) ops = some (final, events)) :
    (∀ bitmap, .update (.bitmap bitmap) ∈ events → Inside bitmap (cgDisplaySize host) ∧
        ∀ desktop, Covers desktop (cgDisplaySize host) → Inside bitmap desktop) ∧
      ((∀ op ∈ ops, AsksNative (cgDisplaySize host) op) →
        (∀ event ∈ events, ∀ desktop ∈ announced event, Covers desktop (cgDisplaySize host)) ∧
          PaintsInside events) := by
  have shown := run_onNative stays captures ran
  have inside (bitmap : BitmapUpdate) (member : .update (.bitmap bitmap) ∈ events) :
      Inside bitmap (cgDisplaySize host) := shown (.update (.bitmap bitmap)) member
  refine ⟨fun bitmap member => ⟨inside bitmap member, fun _ => (inside bitmap member).covered⟩, fun asks => ?_⟩
  have told := run_roomy stays captures asks ran
  refine ⟨told, ?_⟩
  rintro before event after rfl bitmap rfl desktop last
  obtain ⟨earlier, member, names⟩ := lastAnnounced_mem last
  have painted := inside bitmap (by simp)
  exact painted.covered (told earlier (by simp [member]) desktop names)

/-- One frame of the laptop's display, from ScreenCaptureKit. -/
def wholeDisplay : Capture where
  sample := .image 1440 900 (some
    { data := List.replicate 5184000 255, stride := 5760, width := 1440, height := 900 })
  displayBgra := none
  cvPixelBuffer := false
  created := ⟨true, true⟩
  encoded := .nothing

/-- A client with a window larger than the display. -/
def largeClient : List Op :=
  [.updates ⟨true, true⟩, .requestLayout (some (1920, 1200)) .spawnFailed, .size, .poll 0, .frame 0 wholeDisplay]

/-- A difference that takes the whole frame stays inside it. -/
theorem singleTileDiff_staysInside : StaysInside singleTileDiff := by
  intro before after _ _ rect member
  unfold singleTileDiff at member
  split at member
  · cases member
  · rename_i different
    cases List.mem_singleton.mp member
    push Not at different
    obtain ⟨row, inRows, column, inColumns, _⟩ := different
    exact ⟨Nat.zero_lt_of_lt inColumns, Nat.zero_lt_of_lt inRows, (Nat.zero_add _).le, (Nat.zero_add _).le⟩

/-- A client with a large window. -/
theorem large_client_is_painted_inside : ∃ final events,
    Runs.run (Display.step exactPlatform) (.fresh laptop .bgra .native) largeClient = some (final, events) ∧
      PaintsInside events := by
  have succeeds : (Runs.run (Display.step exactPlatform) (.fresh laptop .bgra .native) largeClient).isSome := by
    decide
  obtain ⟨⟨final, events⟩, ran⟩ := Option.isSome_iff_exists.mp succeeds
  have fills (frame : PrevFrame) (captured : Captured wholeDisplay frame) : Fills (cgDisplaySize laptop) frame := by
    rcases captured with display | ⟨width, height, sample⟩
    · cases display
    · cases sample
      exact ⟨rfl, rfl⟩
  have captures : ∀ op ∈ largeClient, CapturesNative (cgDisplaySize laptop) op := by
    simp only [largeClient, List.forall_mem_cons]
    exact ⟨trivial, trivial, trivial, trivial, fills, List.forall_mem_nil _⟩
  have asks : ∀ op ∈ largeClient, AsksNative (cgDisplaySize laptop) op := by
    simp only [largeClient, List.forall_mem_cons]
    exact ⟨trivial, ⟨by decide, by decide⟩, trivial, trivial, trivial, List.forall_mem_nil _⟩
  exact ⟨final, events, ran,
    (bitmaps_stay_on_display exactPlatform singleTileDiff_staysInside laptop .bgra captures ran).2 asks |>.2⟩

/-- A client with a window smaller than the display is told of a smaller desktop,
and the first frame is painted beyond it. -/
theorem small_client_is_painted_outside : ∃ final events,
    Runs.run (Display.step exactPlatform) (.fresh laptop .bgra .native)
      [.updates ⟨true, true⟩, .requestLayout (some (1024, 768)) .spawnFailed, .size, .poll 0, .poll 0,
        .frame 0 wholeDisplay] = some (final, events) ∧ ¬PaintsInside events :=
  ⟨_, _, rfl, by decide +kernel⟩

end Osxrdp.NativeDesktop
