import Osxrdp.Framebuffers

/-! The encoder sends only what its framebuffer does not show yet. The framebuffer
follows the picture of the client, so that a client which paints the parts shows
what the whole updates would have painted, whatever codec carries them. -/
namespace Osxrdp.EncoderConvergence
open FramePipeline Display
open DisplayEncoder DisplayEncoder.Framebuffer DisplayEncoder.UpdateEncoder
open Framebuffers
open Raster (Picture Rect paint paintAll paintAll_append)
open Runs (run run_step)
open UpdateFragments (UpdateFragmenter)

/-- What is relied on of `find_different_rects_sub::<4>`: for an image that lies
in another, its rectangles are disjoint, lie inside the image and cover every
pixel in which the two differ. -/
def FindsSubDifferences (find : FindDifferentRectsSub) : Prop :=
  ∀ before after x y, before.Valid → after.Valid → x + after.width ≤ before.width →
    y + after.height ≤ before.height →
    (find before after x y).Pairwise Rect.Disjoint ∧
    (∀ rect ∈ find before after x y, rect.InArea after.width after.height) ∧
    ∀ column < after.width, ∀ row < after.height,
      before.picture (x + column) (y + row) ≠ after.picture column row →
        ∃ rect ∈ find before after x y, rect.Contains column row

/-- An update that lies in the desktop, with data for all its pixels. -/
structure OnDesktop (size : DesktopSize) (bitmap : BitmapUpdate) : Prop where
  readable : Readable bitmap
  right : bitmap.x.toNat + bitmap.width.val.toNat ≤ size.width.toNat
  bottom : bitmap.y.toNat + bitmap.height.val.toNat ≤ size.height.toNat

/-- An updater that encodes every part of the desktop whose data end with its last pixel. -/
def EncodesParts {σ : Type} (size : DesktopSize) (handle : Handle σ)
    (Encodes : UpdateFragmenter → BitmapUpdate → Prop) : Prop :=
  ∀ updater bitmap, OnDesktop size bitmap →
    bitmap.data.length = bitmap.stride.val * (bitmap.height.val.toNat - 1) + 4 * bitmap.width.val.toNat →
    ∃ fragmenter next, handle updater bitmap = some (.ok fragmenter, next) ∧ Encodes fragmenter bitmap

section Step
variable {σ : Type} {handle : Handle σ} {find : FindDifferentRectsSub} {size : DesktopSize}
  {Encodes : UpdateFragmenter → BitmapUpdate → Prop} {encoder : UpdateEncoder σ} {bitmap part : BitmapUpdate}
  {past : List BitmapUpdate} {diffs : List Rect}

/-- The framebuffer shows what the updates so far have painted, whatever was there before. -/
structure Follows (size : DesktopSize) (encoder : UpdateEncoder σ) (past : List BitmapUpdate) : Prop where
  size_eq : encoder.desktopSize = size
  updater : encoder.bitmapUpdater.isSome = true
  shows : ∀ framebuffer, encoder.framebuffer = some framebuffer →
    framebuffer.width.val = size.width ∧ framebuffer.height.val = size.height ∧ framebuffer.image.Readable ∧
      ∀ blank, ∀ column < size.width.toNat, ∀ row < size.height.toNat,
        framebuffer.image.picture column row = paintAll (past.map BitmapUpdate.patch) blank column row

private theorem image_valid {image : PrevFrame} (readable : image.Readable) {width height : UInt16}
    (widthEq : image.width = width.toNat) (heightEq : image.height = height.toNat) : image.Valid :=
  ⟨readable, by rw [widthEq]; exact Nat.le_of_lt_succ width.toNat_lt,
    by rw [heightEq]; exact Nat.le_of_lt_succ height.toNat_lt⟩

private theorem bitmap_valid (readable : Readable bitmap) : (bitmapImage bitmap).Valid :=
  image_valid ⟨nonzero_pos _, nonzero_pos _, readable.stride_le, readable.data_le⟩ rfl rfl

/-- What is to be sent: disjoint rectangles of the update that cover all that it changes. -/
structure Changes (past : List BitmapUpdate) (bitmap : BitmapUpdate) (diffs : List Rect) : Prop where
  disjoint : diffs.Pairwise Rect.Disjoint
  inside : ∀ diff ∈ diffs, diff.InArea bitmap.width.val.toNat bitmap.height.val.toNat
  covers : ∀ blank, ∀ column row, bitmap.patch.rect.Contains column row →
    paintAll (past.map BitmapUpdate.patch) blank column row ≠
      bitmap.patch.pixel (column - bitmap.x.toNat) (row - bitmap.y.toNat) →
    ∃ diff ∈ diffs, diff.Contains (column - bitmap.x.toNat) (row - bitmap.y.toNat)

/-- The parts are where the bitmap differs from what the client shows. -/
theorem bitmapDiffs_changes (finds : FindsSubDifferences find) (follows : Follows size encoder past)
    (onDesktop : OnDesktop size bitmap) : Changes past bitmap (encoder.bitmapDiffs find bitmap) := by
  unfold bitmapDiffs
  cases held : encoder.framebuffer with
  | none =>
    refine ⟨List.pairwise_singleton _ _, ?_, fun blank column row contains _ => ⟨_, List.mem_singleton_self _, ?_⟩⟩
    · rw [List.forall_mem_singleton]
      exact ⟨nonzero_pos _, nonzero_pos _, Nat.le_of_eq (Nat.zero_add _), Nat.le_of_eq (Nat.zero_add _)⟩
    · simp only [BitmapUpdate.patch, Rect.Contains, whole] at contains ⊢
      omega
  | some framebuffer =>
    obtain ⟨width, height, readable, pixels⟩ := follows.shows framebuffer held
    have inRight := onDesktop.right
    have inBottom := onDesktop.bottom
    obtain ⟨disjoint, inside, covers⟩ := finds framebuffer.image (bitmapImage bitmap) bitmap.x.toNat bitmap.y.toNat
      (image_valid readable rfl rfl) (bitmap_valid onDesktop.readable)
      (by simpa only [image, bitmapImage, width] using inRight)
      (by simpa only [image, bitmapImage, height] using inBottom)
    refine ⟨disjoint, inside, fun blank column row contains different => ?_⟩
    have within := contains
    simp only [BitmapUpdate.patch, Rect.Contains] at within
    obtain ⟨left, right, top, bottom⟩ := within
    refine covers (column - bitmap.x.toNat) (by simp only [bitmapImage]; omega) (row - bitmap.y.toNat)
      (by simp only [bitmapImage]; omega) ?_
    rw [Nat.add_sub_cancel' left, Nat.add_sub_cancel' top, pixels blank column (by omega) row (by omega)]
    exact different

/-- Once the parts are sent, the framebuffer has the update too. -/
theorem bitmapUpdateFramebuffer_follows (changes : Changes past bitmap diffs) (follows : Follows size encoder past)
    (onDesktop : OnDesktop size bitmap) :
    ∃ after, encoder.bitmapUpdateFramebuffer bitmap diffs = some after ∧ Follows size after (past ++ [bitmap]) := by
  have painted : ∀ blank, paintAll ((past ++ [bitmap]).map BitmapUpdate.patch) blank =
      paint bitmap.patch (paintAll (past.map BitmapUpdate.patch) blank) := by
    intro blank
    rw [List.map_append, paintAll_append]
    rfl
  unfold bitmapUpdateFramebuffer
  split
  · rename_i full
    obtain ⟨x, y, width, height⟩ := full
    refine ⟨{ encoder with framebuffer := some ⟨bitmap.width, bitmap.height, bitmap.data, bitmap.stride.val⟩ },
      by rw [Framebuffer.ofBitmap, if_pos ⟨x, y⟩]; rfl, follows.size_eq, follows.updater, ?_⟩
    rintro framebuffer ⟨⟩
    rw [follows.size_eq] at width height
    refine ⟨width, height, (bitmap_valid onDesktop.readable).toReadable, fun blank column inColumns row inRows => ?_⟩
    have contains : bitmap.patch.rect.Contains column row := by
      simp only [BitmapUpdate.patch, Rect.Contains, x, y, width, height]
      simp [inColumns, inRows]
    rw [painted blank, paint, if_pos contains]
    simp [BitmapUpdate.patch, PrevFrame.picture, image, x, y]
  · cases held : encoder.framebuffer with
    | none =>
      refine ⟨encoder, rfl, follows.size_eq, follows.updater, fun framebuffer shown => ?_⟩
      rw [held] at shown
      cases shown
    | some framebuffer =>
      obtain ⟨width, height, readable, pixels⟩ := follows.shows framebuffer held
      have within : Within framebuffer bitmap :=
        ⟨by rw [width]; exact onDesktop.right, by rw [height]; exact onDesktop.bottom⟩
      obtain ⟨parts, after, areParts, updated, paints⟩ :=
        updateDiffs_paints readable onDesktop.readable within changes.inside
      refine ⟨{ encoder with framebuffer := some after }, by simp only [updated, Option.map_some],
        follows.size_eq, follows.updater, ?_⟩
      rintro framebuffer' ⟨⟩
      refine ⟨paints.width ▸ width, paints.height ▸ height, paints.readable,
        fun blank column inColumns row inRows => ?_⟩
      rw [painted blank, ← areParts.paint_update changes.inside (changes.covers blank),
        paints.pixels column (by rw [width]; exact inColumns) row (by rw [height]; exact inRows)]
      exact Raster.paintAll_congr _ (pixels blank column inColumns row inRows)

/-- A part of a bitmap on the desktop is on the desktop. -/
theorem OnDesktop.of_part (onDesktop : OnDesktop size bitmap) {diff : Rect} (isPart : IsPart bitmap part diff)
    (inside : diff.InArea bitmap.width.val.toNat bitmap.height.val.toNat) : OnDesktop size part := by
  obtain ⟨_, _, right, bottom⟩ := inside
  have place := isPart.place
  simp only [BitmapUpdate.patch, Rect.mk.injEq] at place
  obtain ⟨x, y, width, height⟩ := place
  have inRight := onDesktop.right
  have inBottom := onDesktop.bottom
  exact ⟨isPart.readable, by omega, by omega⟩

private theorem tryCoordinate_ok {n : Nat} {value : UInt16} (made : tryU16 n = some value) (name : String) :
    tryCoordinate name n = .ok value := by
  rw [tryCoordinate, made]

private theorem tryLength_ok {n : Nat} {value : NonZeroU16} (made : (tryU16 n).bind NonZeroU16.new = some value)
    (name : String) : tryLength name n = .ok value := by
  obtain ⟨plain, madePlain, nonzero⟩ := Option.bind_eq_some_iff.mp made
  simp only [tryLength, tryCoordinate_ok madePlain, bind, Except.bind, nonzero]

/-- One rectangle becomes one part of the update. -/
theorem nextDiff_part (encodes : EncodesParts size handle Encodes) (onDesktop : OnDesktop size bitmap)
    {updater : σ} (held : encoder.bitmapUpdater = some updater) {pos : Nat} {diff : Rect}
    (there : diffs[pos]? = some diff)
    (inside : diff.InArea bitmap.width.val.toNat bitmap.height.val.toNat) :
    ∃ part fragmenter next, IsPart bitmap part diff ∧ Encodes fragmenter part ∧
      nextDiff handle encoder diffs bitmap pos = some (some (.ok fragmenter),
        ⟨{ encoder with bitmapUpdater := some next }, .bitmapDiffs diffs bitmap (pos + 1)⟩) := by
  obtain ⟨x, y, width, height, part, madeX, madeY, madeWidth, madeHeight, cut, isPart⟩ :=
    cut_spec onDesktop.readable inside
  obtain ⟨fragmenter, next, handled, encoded⟩ :=
    encodes updater part (onDesktop.of_part isPart inside) isPart.exact_data
  refine ⟨part, fragmenter, next, isPart, encoded, ?_⟩
  simp only [nextDiff, there, tryCoordinate_ok madeX, tryCoordinate_ok madeY, tryLength_ok madeWidth,
    tryLength_ok madeHeight, bind, Except.bind, pure, Except.pure, Option.bind_some, cut, UpdateEncoder.bitmap,
    held, handled, Option.map_some]

/-- The iteration gives a part for each rectangle that is left, then brings the framebuffer up to date. -/
theorem drain_parts (find : FindDifferentRectsSub) (encodes : EncodesParts size handle Encodes)
    (onDesktop : OnDesktop size bitmap)
    (inside : ∀ diff ∈ diffs, diff.InArea bitmap.width.val.toNat bitmap.height.val.toNat)
    (encoder : UpdateEncoder σ) (pos fuel : Nat) {updater : σ} (left : pos + fuel = diffs.length)
    (held : encoder.bitmapUpdater = some updater) :
    ∃ sent parts next, Parts bitmap (diffs.drop pos) parts ∧ List.Forall₂ Encodes sent parts ∧
      EncoderIter.drain handle find fuel ⟨encoder, .bitmapDiffs diffs bitmap pos⟩ =
        (({ encoder with bitmapUpdater := some next } : UpdateEncoder σ).bitmapUpdateFramebuffer bitmap diffs).map
          fun after => (sent, .ok after) := by
  induction fuel generalizing pos encoder updater with
  | zero =>
    have done : diffs[pos]? = none := List.getElem?_eq_none (by omega)
    have same : { encoder with bitmapUpdater := some updater } = encoder := by rw [← held]
    refine ⟨[], [], updater, ?_, .nil, ?_⟩
    · rw [List.drop_eq_nil_of_le (by omega)]
      exact .nil
    · rw [same]
      simp only [EncoderIter.drain, EncoderIter.next, nextDiff, done, Option.map_map]
      rfl
  | succ fuel ih =>
    have more : pos < diffs.length := by omega
    have there : diffs[pos]? = some diffs[pos] := List.getElem?_eq_getElem more
    obtain ⟨part, fragmenter, next, isPart, encoded, given⟩ :=
      nextDiff_part encodes onDesktop held there (inside _ (List.getElem_mem more))
    obtain ⟨sent, parts, last, areParts, encodedRest, drained⟩ :=
      ih { encoder with bitmapUpdater := some next } (pos + 1) (by omega) rfl
    refine ⟨fragmenter :: sent, part :: parts, last, ?_, .cons encoded encodedRest, ?_⟩
    · rw [List.drop_eq_getElem_cons more]
      exact .cons isPart areParts
    · simp only [EncoderIter.drain, EncoderIter.next, given, Option.bind_some, drained, Option.map_map]
      rfl

/-- What a step hands on: encoded parts that paint the update, and no more of it than there is. -/
structure Sends (Encodes : UpdateFragmenter → BitmapUpdate → Prop) (past : List BitmapUpdate)
    (bitmap : BitmapUpdate) (sent : List UpdateFragmenter) (parts : List BitmapUpdate) : Prop where
  encoded : List.Forall₂ Encodes sent parts
  paints : ∀ blank, paintAll (parts.map BitmapUpdate.patch) (paintAll (past.map BitmapUpdate.patch) blank) =
    paintAll ((past ++ [bitmap]).map BitmapUpdate.patch) blank
  area : (parts.map fun part => part.patch.rect.area).sum ≤ bitmap.patch.rect.area

private theorem parts_area {parts : List BitmapUpdate} (areParts : Parts bitmap diffs parts) :
    (parts.map fun part => part.patch.rect.area).sum = (diffs.map Rect.area).sum := by
  induction areParts with
  | nil => rfl
  | cons isPart rest ih =>
    rw [List.map_cons, List.map_cons, List.sum_cons, List.sum_cons, ih, isPart.place]
    rfl

/-- One display update is sent in parts, and the framebuffer follows. -/
theorem dispatch_sends (encodes : EncodesParts size handle Encodes) (finds : FindsSubDifferences find)
    (follows : Follows size encoder past) (onDesktop : OnDesktop size bitmap) :
    ∃ sent after parts, dispatchDisplayUpdate handle find encoder (.bitmap bitmap) =
        some (sent, .ok (.continue, after)) ∧
      Sends Encodes past bitmap sent parts ∧ Follows size after (past ++ [bitmap]) := by
  have changes := bitmapDiffs_changes finds follows onDesktop
  obtain ⟨updater, held⟩ := Option.isSome_iff_exists.mp follows.updater
  obtain ⟨sent, parts, next, areParts, encoded, drained⟩ :=
    drain_parts find encodes onDesktop changes.inside encoder 0 _ (Nat.zero_add _) held
  rw [List.drop_zero] at areParts
  have restored : Follows size ({ encoder with bitmapUpdater := some next } : UpdateEncoder σ) past :=
    ⟨follows.size_eq, rfl, follows.shows⟩
  obtain ⟨after, updated, followsAfter⟩ := bitmapUpdateFramebuffer_follows changes restored onDesktop
  have started : (⟨encoder, .start (.bitmap bitmap)⟩ : EncoderIter σ).drain handle find
      (encoder.bitmapDiffs find bitmap).length = some (sent, .ok after) := by
    rw [updated] at drained
    cases length : (encoder.bitmapDiffs find bitmap).length with
    | zero =>
      rw [length] at drained
      exact drained
    | succ fuel =>
      rw [length] at drained
      exact drained
  refine ⟨sent, after, parts, ?_, ⟨encoded, fun blank => ?_, ?_⟩, followsAfter⟩
  · rw [dispatchDisplayUpdate]
    simp only [EncoderIter.left, started]
    rfl
  · rw [areParts.paint_update changes.inside (changes.covers blank), List.map_append, paintAll_append]
    rfl
  · rw [parts_area areParts]
    exact Raster.sum_area_le changes.disjoint changes.inside

/-- The encoder over updates that it encodes without an error. -/
def encode (handle : Handle σ) (find : FindDifferentRectsSub) :
    Runs.System (UpdateEncoder σ) BitmapUpdate UpdateFragmenter := fun encoder bitmap =>
  match dispatchDisplayUpdate handle find encoder (.bitmap bitmap) with
  | some (sent, .ok (_, encoder)) => some (encoder, sent)
  | _ => none

/-- A run of display updates is sent in parts, and the framebuffer follows. -/
theorem run_sends (encodes : EncodesParts size handle Encodes) (finds : FindsSubDifferences find)
    {updates : List BitmapUpdate} (follows : Follows size encoder past)
    (onDesktop : ∀ update ∈ updates, OnDesktop size update) :
    ∃ final sent parts, run (encode handle find) encoder updates = some (final, sent) ∧
      List.Forall₂ Encodes sent parts ∧
      (∀ blank, paintAll (parts.map BitmapUpdate.patch) (paintAll (past.map BitmapUpdate.patch) blank) =
        paintAll ((past ++ updates).map BitmapUpdate.patch) blank) ∧
      (parts.map fun part => part.patch.rect.area).sum ≤
        (updates.map fun update => update.patch.rect.area).sum := by
  induction updates generalizing encoder past with
  | nil => exact ⟨encoder, [], [], rfl, .nil, fun blank => by rw [List.append_nil]; rfl, Nat.le_refl _⟩
  | cons update rest ih =>
    obtain ⟨sent, after, parts, dispatched, sends, followsAfter⟩ :=
      dispatch_sends encodes finds follows (onDesktop update (by simp))
    obtain ⟨final, later, partsLater, ran, encoded, paints, area⟩ :=
      ih followsAfter fun update member => onDesktop update (List.mem_cons_of_mem _ member)
    have stepped : encode handle find encoder update = some (after, sent) := by
      rw [encode, dispatched]
    refine ⟨final, sent ++ later, parts ++ partsLater, run_step stepped ran,
      List.rel_append sends.encoded encoded, fun blank => ?_, ?_⟩
    · rw [List.map_append, paintAll_append, sends.paints, paints, List.append_assoc]
      rfl
    · rw [List.map_append, List.sum_append, List.map_cons, List.sum_cons]
      exact Nat.add_le_add sends.area area

end Step

/-- **Whatever codec carries them, the parts that the encoder sends paint what the
whole updates would have painted, over any picture, and are together no larger
than the updates.** No update on the desktop makes the encoder fail or panic. -/
theorem parts_paint_updates {σ : Type} {size : DesktopSize} {handle : Handle σ} {find : FindDifferentRectsSub}
    {Encodes : UpdateFragmenter → BitmapUpdate → Prop} (encodes : EncodesParts size handle Encodes)
    (finds : FindsSubDifferences find) (updater : σ) (updates : List BitmapUpdate)
    (onDesktop : ∀ update ∈ updates, OnDesktop size update) :
    ∃ final sent parts, run (encode handle find) (UpdateEncoder.new size updater) updates = some (final, sent) ∧
      List.Forall₂ Encodes sent parts ∧
      (∀ blank, paintAll (parts.map BitmapUpdate.patch) blank =
        paintAll (updates.map BitmapUpdate.patch) blank) ∧
      (parts.map fun part => part.patch.rect.area).sum ≤
        (updates.map fun update => update.patch.rect.area).sum := by
  have start : Follows size (UpdateEncoder.new size updater) [] := ⟨rfl, rfl, fun _ held => by cases held⟩
  exact run_sends encodes finds start onDesktop

/-- A comparison that answers in one piece. -/
def onePiece : FindDifferentRectsSub := fun before after x y =>
  if ∀ row < after.height, ∀ column < after.width,
      before.picture (x + column) (y + row) = after.picture column row then []
  else [⟨0, 0, after.width, after.height⟩]

/-- One piece for the whole image finds every difference. -/
theorem onePiece_finds : FindsSubDifferences onePiece := by
  intro before after x y _ valid _ _
  unfold onePiece
  split
  · rename_i same
    exact ⟨.nil, List.forall_mem_nil _, fun column inColumns row inRows different =>
      (different (same row inRows column inColumns)).elim⟩
  · refine ⟨List.pairwise_singleton _ _, ?_, fun column inColumns row inRows _ => ?_⟩
    · simpa [Rect.InArea] using And.intro valid.width_pos valid.height_pos
    · exact ⟨_, List.mem_singleton_self _, by simpa [Rect.Contains] using And.intro inColumns inRows⟩

/-- An updater that sends the data as they are. -/
def rawHandle : Handle Unit := fun _ bitmap => some (.ok (.new .surfaceCommands bitmap.data), ())

private theorem rawHandle_encodes (size : DesktopSize) :
    EncodesParts size rawHandle fun fragmenter bitmap => fragmenter.data = bitmap.data :=
  fun _ _ _ _ => ⟨_, _, rfl, rfl⟩

/-- The whole of a desktop of one pixel. -/
def pixelUpdate (value : UInt8) : BitmapUpdate :=
  ⟨0, 0, ⟨1, by decide⟩, ⟨1, by decide⟩, [value, value, value, 255], ⟨4, by decide⟩⟩

/-- Three updates of one pixel, the last without a change. -/
theorem pixels_paint_updates :
    ∃ final sent parts, run (encode rawHandle onePiece) (UpdateEncoder.new ⟨1, 1⟩ ())
        [pixelUpdate 1, pixelUpdate 2, pixelUpdate 2] = some (final, sent) ∧
      List.Forall₂ (fun (fragmenter : UpdateFragmenter) bitmap => fragmenter.data = bitmap.data) sent parts ∧
      (∀ blank, paintAll (parts.map BitmapUpdate.patch) blank =
        paintAll ([pixelUpdate 1, pixelUpdate 2, pixelUpdate 2].map BitmapUpdate.patch) blank) ∧
      (parts.map fun part => part.patch.rect.area).sum ≤
        ([pixelUpdate 1, pixelUpdate 2, pixelUpdate 2].map fun update => update.patch.rect.area).sum := by
  have onDesktop : ∀ value, OnDesktop ⟨1, 1⟩ (pixelUpdate value) := fun value =>
    ⟨⟨by simp [pixelUpdate], by simp [pixelUpdate], by simp [pixelUpdate], by simp [pixelUpdate]⟩,
      by simp [pixelUpdate], by simp [pixelUpdate]⟩
  exact parts_paint_updates (rawHandle_encodes ⟨1, 1⟩) onePiece_finds () _
    (List.forall_mem_cons.mpr ⟨onDesktop 1, List.forall_mem_cons.mpr ⟨onDesktop 2,
      List.forall_mem_singleton.mpr (onDesktop 2)⟩⟩)

end Osxrdp.EncoderConvergence
