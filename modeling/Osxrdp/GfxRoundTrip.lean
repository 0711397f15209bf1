import Osxrdp.GfxEncoding

/-! The graphics messages are read back as they were written when they fit their
fields, and whatever is read fits. -/
namespace Osxrdp.GfxEncoding
open Bitflags (Flags)
open Gfx (Avc420BitmapStream CapabilitySet CapabilityVersion CreateSurfacePdu MapSurfaceToOutputPdu PixelFormat
  QuantQuality StartFramePdu Timestamp)
open GfxDecoding.CapabilitySet (size)
open Rectangles
open Bytes (littleEndian littleEndian_length)
open WireDecoding (Decoding)
open WireDecoding.Decoding
open WireEncoding (Encoding)

section Parts

private theorem castLength_writes {width length : Nat} (field : String) (small : length < 256 ^ width) :
    (castLength width field length).Writes (littleEndian width length) := by
  rw [castLength, if_pos small]
  exact Encoding.write_writes _

private theorem sized_writes (context : String) {bytes : Bytes} {size : Nat} (length : bytes.length = size) :
    (Encoding.ensureSize context size (.write bytes)).Writes bytes :=
  (Encoding.write_writes bytes).ensureSize _ (Nat.le_of_eq length.symm)

/-- Values of one size, one after the other. -/
theorem flatMap_length {α : Type} {bytes : α → Bytes} {size : Nat} (each : ∀ value, (bytes value).length = size)
    (values : List α) : (values.flatMap bytes).length = values.length * size := by
  induction values with
  | nil => simp
  | cons value rest ih =>
    rw [List.flatMap_cons, List.length_append, each, ih, List.length_cons, Nat.succ_mul, Nat.add_comm]

/-- As many values as were counted. -/
theorem list_reads {α : Type} {d : Decoding α} {values : List α} {bytes : α → Bytes}
    (reads : ∀ value, Reads d (bytes value) value) (few : values.length < UInt16.size) :
    Reads (times values.length.toUInt16.toNat d) (values.flatMap bytes) values := by
  have counted : values.length.toUInt16.toNat = values.length := UInt16.toNat_ofNat_of_lt' few
  have all : Reads (times values.length d) (values.flatMap bytes) (values.map id) :=
    times_reads fun value _ => reads value
  rwa [List.map_id, ← counted] at all

private theorem bitmapData_reads {data : Bytes} (small : data.length < UInt32.size) :
    Reads readBitmapData (littleEndian 4 data.length ++ data) data := by
  have counted : data.length.toUInt32.toNat = data.length := UInt32.toNat_ofNat_of_lt' small
  have read := readU32_reads data.length.toUInt32
  rw [counted] at read
  apply read.bind
  simp only [counted]
  exact (readSlice_reads data).ensureSize (Nat.le_refl _)

/-- What `encode` writes of a monitor. -/
def Monitor.bytes (monitor : Monitor) : Bytes :=
  littleEndian 4 monitor.left.toUInt32.toNat ++ (littleEndian 4 monitor.top.toUInt32.toNat ++
    (littleEndian 4 monitor.right.toUInt32.toNat ++ (littleEndian 4 monitor.bottom.toUInt32.toNat ++
      littleEndian 4 monitor.flags.bits.toNat)))

theorem Monitor.bytes_length (monitor : Monitor) : monitor.bytes.length = 20 := by
  simp [bytes]

theorem Monitor.encode_writes (monitor : Monitor) : monitor.encode.Writes monitor.bytes :=
  sized_writes _ monitor.bytes_length

theorem Monitor.decode_reads (monitor : Monitor) : Reads decode monitor.bytes monitor := by
  apply Reads.ensureSize _ (Nat.le_of_eq monitor.bytes_length.symm)
  apply (readI32_reads _).bind
  apply (readI32_reads _).bind
  apply (readI32_reads _).bind
  apply (readI32_reads _).bind
  have flags : Reads readU32 (littleEndian 4 monitor.flags.bits.toNat) (UInt32.ofBitVec monitor.flags.bits) :=
    readU32_reads (UInt32.ofBitVec monitor.flags.bits)
  rw [← List.append_nil (littleEndian 4 monitor.flags.bits.toNat)]
  apply flags.bind
  simp only [Flags.fromBits_bits]
  exact pure_reads _

def Color.bytes (color : Color) : Bytes := [color.b, color.g, color.r, color.xa]

theorem Color.encode_writes (color : Color) : color.encode.Writes color.bytes := sized_writes _ rfl

theorem Color.decode_reads (color : Color) : Reads decode color.bytes color := fun _ => rfl

def Point.bytes (point : Point) : Bytes := littleEndian 2 point.x.toNat ++ littleEndian 2 point.y.toNat

theorem Point.bytes_length (point : Point) : point.bytes.length = 4 := by
  simp [bytes]

theorem Point.encode_writes (point : Point) : point.encode.Writes point.bytes := sized_writes _ point.bytes_length

theorem Point.decode_reads (point : Point) : Reads decode point.bytes point := by
  apply Reads.ensureSize _ (Nat.le_of_eq point.bytes_length.symm)
  exact (readU16_reads _).bind ((readU16_reads _).map _)

namespace Timestamp
variable {timestamp : Timestamp}

private theorem bits_lt (fits : Fits timestamp) : bits timestamp < UInt32.size := by
  obtain ⟨milliseconds, seconds, minutes, hours⟩ := fits
  rw [UInt16.lt_iff_toNat_lt] at milliseconds hours
  rw [UInt8.lt_iff_toNat_lt] at seconds minutes
  have size : UInt32.size = 4294967296 := rfl
  simp only [UInt16.reduceToNat, UInt8.reduceToNat] at milliseconds seconds minutes hours
  unfold bits
  omega

private theorem ofBits_bits (fits : Fits timestamp) : ofBits (bits timestamp) = timestamp := by
  obtain ⟨milliseconds, seconds, minutes, hours⟩ := timestamp
  obtain ⟨inMilliseconds, inSeconds, inMinutes, inHours⟩ := fits
  rw [UInt16.lt_iff_toNat_lt] at inMilliseconds inHours
  rw [UInt8.lt_iff_toNat_lt] at inSeconds inMinutes
  simp only [UInt16.reduceToNat, UInt8.reduceToNat] at inMilliseconds inSeconds inMinutes inHours
  simp only [ofBits, bits, Gfx.Timestamp.mk.injEq]
  have within (n : Nat) : n % 2 ^ 10 < UInt16.size ∧ n % 2 ^ 6 < UInt8.size :=
    ⟨Nat.lt_trans (Nat.mod_lt _ (by decide)) (by decide), Nat.lt_trans (Nat.mod_lt _ (by decide)) (by decide)⟩
  refine ⟨UInt16.toNat_inj.mp ((UInt16.toNat_ofNat_of_lt' (within _).1).trans ?_),
    UInt8.toNat_inj.mp ((UInt8.toNat_ofNat_of_lt' (within _).2).trans ?_),
    UInt8.toNat_inj.mp ((UInt8.toNat_ofNat_of_lt' (within _).2).trans ?_),
    UInt16.toNat_inj.mp ((UInt16.toNat_ofNat_of_lt' (within _).1).trans ?_)⟩ <;> omega

/-- What `encode` writes of a time whose parts fit. -/
theorem encode_writes (fits : Fits timestamp) : (encode timestamp).Writes (littleEndian 4 (bits timestamp)) := by
  rw [encode, if_pos fits]
  exact sized_writes _ (littleEndian_length ..)

/-- A time is read back. -/
theorem decode_reads (fits : Fits timestamp) : Reads decode (littleEndian 4 (bits timestamp)) timestamp := by
  apply Reads.ensureSize _ (by simp)
  have value : (bits timestamp).toUInt32.toNat = bits timestamp := UInt32.toNat_ofNat_of_lt' (bits_lt fits)
  have read := readU32_reads (bits timestamp).toUInt32
  rw [value] at read
  exact (read.map fun n => ofBits n.toNat).of_eq (by rw [value, ofBits_bits fits])

end Timestamp

namespace CapabilitySet
variable {set : CapabilitySet}

/-- No flag without a name, as the types of the flags have it. -/
def Named (set : CapabilitySet) : Prop :=
  match GfxDecoding.CapabilityVersion.flagged set.version, flagsOrData set with
  | some (kept, _), .inl flags => flags &&& kept = flags
  | _, _ => True

def bytes (set : CapabilitySet) : Bytes :=
  littleEndian 4 (CapabilityVersion.asU32 set.version).toNat ++ (littleEndian 4 (size set - 8) ++ data set)

private theorem fromU32_asU32 (version : CapabilityVersion) :
    GfxDecoding.CapabilityVersion.fromU32 (CapabilityVersion.asU32 version) = some version := by
  cases version <;> rfl

/-- The size counts the data and what is in front of it. -/
theorem size_eq (set : CapabilitySet) : size set = 8 + (data set).length := by
  cases set <;> simp [size, data, flagsOrData]

theorem bytes_length (set : CapabilitySet) : (bytes set).length = size set := by
  rw [size_eq]
  simp [bytes]
  omega

/-- What `encode` writes of a set. -/
theorem encode_writes (small : size set < UInt32.size) : (encode set).Writes (bytes set) := by
  apply Encoding.Writes.ensureSize _ _ (Nat.le_of_eq (bytes_length set).symm)
  apply (Encoding.write_writes _).andThen
  exact (castLength_writes _ (Nat.lt_of_le_of_lt (Nat.sub_le _ _) small)).andThen (Encoding.write_writes _)

private theorem flags_read {version : CapabilityVersion} {kept flags : UInt32} {make : UInt32 → CapabilitySet}
    (carries : GfxDecoding.CapabilityVersion.flagged version = some (kept, make)) (named : flags &&& kept = flags) :
    Reads GfxDecoding.CapabilitySet.decode (littleEndian 4 (CapabilityVersion.asU32 version).toNat ++
      (littleEndian 4 4 ++ littleEndian 4 flags.toNat)) (make flags) := by
  have format := GfxDecoding.SetFormat.flagged (CapabilityVersion.asU32 version) flags kept version make []
    (fromU32_asU32 version) carries (by decide)
  rw [named, List.append_nil, List.append_assoc] at format
  exact GfxDecoding.capabilitySet_decode_parses.reads format

/-- A set with flags of known meaning is read back. -/
theorem decode_reads (named : Named set) (small : size set < UInt32.size) :
    Reads GfxDecoding.CapabilitySet.decode (bytes set) set := by
  cases set with
  | v8 flags | v8_1 flags | v10 flags | v10_2 flags | v10_3 flags | v10_4 flags | v10_5 flags | v10_6 flags
  | v10_6Err flags | v10_7 flags => exact flags_read rfl named
  | v10_1 =>
    have format := GfxDecoding.SetFormat.v10_1 0xa0100 (List.replicate 16 0) [] rfl rfl (by decide)
    rw [List.append_nil, List.append_assoc] at format
    exact GfxDecoding.capabilitySet_decode_parses.reads format
  | unknown data =>
    have short : 8 + data.length - 8 = data.length := Nat.add_sub_cancel_left ..
    have format := GfxDecoding.SetFormat.unknown 0xa0702 data
      (fun version same => (Option.some.inj same).symm) (Nat.lt_of_le_of_lt (Nat.le_add_left ..) small)
    rw [List.append_assoc] at format
    simp only [bytes, size, short]
    exact GfxDecoding.capabilitySet_decode_parses.reads format

end CapabilitySet

namespace Avc420BitmapStream
variable {stream : Avc420BitmapStream}

def quantBytes (quant : QuantQuality) : Bytes :=
  [if quant.progressive then quant.quantizationParameter ||| 0x80 else quant.quantizationParameter &&& 0x7f,
    quant.quality]

/-- One quality for each rectangle, with a parameter of six bits. -/
structure Fits (stream : Avc420BitmapStream) : Prop where
  counted : stream.rectangles.length < UInt32.size
  paired : stream.quantQualVals.length = stream.rectangles.length
  sixBits : ∀ quant ∈ stream.quantQualVals, quant.quantizationParameter < 64

/-- What `encode` writes of a stream. -/
def bytes (stream : Avc420BitmapStream) : Bytes :=
  littleEndian 4 stream.rectangles.length ++ stream.rectangles.flatMap rectangleBytes ++
    stream.quantQualVals.flatMap quantBytes ++ stream.data

/-- A stream takes its size. -/
theorem bytes_length (fits : Fits stream) : (bytes stream).length = stream.size := by
  have two : ∀ quant, (quantBytes quant).length = 2 := fun _ => rfl
  have quants := flatMap_length two stream.quantQualVals
  simp only [bytes, List.length_append, littleEndian_length, flatMap_length rectangleBytes_length, quants,
    fits.paired]
  unfold Gfx.Avc420BitmapStream.size
  omega

/-- What `encode` writes, where the count of regions fits. -/
theorem encode_writes (fits : Fits stream) : stream.encode.Writes (bytes stream) := by
  have value : (UInt32.ofNat stream.rectangles.length).toNat = stream.rectangles.length :=
    UInt32.toNat_ofNat_of_lt' fits.counted
  have count : Gfx.littleEndian32 (.ofNat stream.rectangles.length) =
      littleEndian 4 stream.rectangles.length := by
    rw [Gfx.littleEndian32, ← Bytes.littleEndian_four, value]
  have quants : ∀ quant ∈ stream.quantQualVals, quant.encode.Writes (quantBytes quant) := by
    intro quant among
    apply Encoding.Writes.ensureSize _ _ (Nat.le_refl 2)
    rw [if_pos (fits.sixBits quant among)]
    exact Encoding.write_writes _
  apply Encoding.Writes.ensureSize _ _ (Nat.le_of_eq (bytes_length fits).symm)
  rw [if_pos fits.counted, count]
  have rectangles := Encoding.all_writes fun rectangle (_ : rectangle ∈ stream.rectangles) =>
    rectangle_writes rectangle
  exact (((Encoding.write_writes _).andThen rectangles).andThen (Encoding.all_writes quants)).andThen
    (Encoding.write_writes _)

private theorem quantParameter_bits : ∀ n < 64, (UInt8.ofNat n ||| 0x80) &&& 0x3f = UInt8.ofNat n ∧
    (UInt8.ofNat n ||| 0x80) &&& 0x80 ≠ 0 ∧ UInt8.ofNat n &&& 0x7f &&& 0x3f = UInt8.ofNat n ∧
      UInt8.ofNat n &&& 0x7f &&& 0x80 = 0 := by
  decide

private theorem quant_reads {quant : QuantQuality} (sixBits : quant.quantizationParameter < 64) :
    Reads QuantQuality.decode (quantBytes quant) quant := by
  obtain ⟨parameter, progressive, quality⟩ := quant
  obtain ⟨kept, marked, keptPlain, unmarked⟩ := quantParameter_bits parameter.toNat sixBits
  rw [UInt8.ofNat_toNat] at kept marked keptPlain unmarked
  apply Reads.ensureSize _ (Nat.le_refl 2)
  intro rest
  cases progressive with
  | true =>
    change some (Except.ok (QuantQuality.mk _ _ _, rest)) = _
    simp only [if_true, kept, marked, ne_eq, not_false_eq_true, decide_true]
  | false =>
    change some (Except.ok (QuantQuality.mk _ _ _, rest)) = _
    simp [keptPlain, unmarked]

/-- The stream is read to its end. -/
theorem decode_bytes (fits : Fits stream) : decode (bytes stream) = some (.ok (stream, stream.data)) := by
  obtain ⟨rectangles, quants, data⟩ := stream
  have value : rectangles.length.toUInt32.toNat = rectangles.length := UInt32.toNat_ofNat_of_lt' fits.counted
  have count := readU32_reads rectangles.length.toUInt32
  rw [value] at count
  have all : Reads (times rectangles.length InclusiveRectangle.decode) (rectangles.flatMap rectangleBytes)
      (rectangles.map id) := times_reads fun rectangle _ => rectangle_reads rectangle
  have qualities : Reads (times quants.length QuantQuality.decode) (quants.flatMap quantBytes) (quants.map id) :=
    times_reads fun quant among => quant_reads (fits.sixBits quant among)
  have paired : quants.length = rectangles.length := fits.paired
  rw [List.map_id] at all qualities
  rw [paired] at qualities
  have shape : bytes ⟨rectangles, quants, data⟩ = littleEndian 4 rectangles.length ++
      (rectangles.flatMap rectangleBytes ++ (quants.flatMap quantBytes ++ data)) := by
    simp only [bytes, List.append_assoc]
  have enough : 4 ≤ (bytes ⟨rectangles, quants, data⟩).length := by
    rw [bytes_length fits]
    exact Nat.le_trans (Nat.le_add_right 4 _) (Nat.le_add_right _ _)
  have checked : Decoding.ensureSize 4 (bytes ⟨rectangles, quants, data⟩) = some (.ok ((), _)) := if_pos enough
  rw [decode, bind_of_ok checked, shape, bind_of_ok (count _), value, bind_of_ok (all _),
    bind_of_ok (qualities data)]
  rfl

end Avc420BitmapStream
end Parts

section RoundTrip

namespace ResetGraphicsPdu
variable {pdu : ResetGraphicsPdu}

/-- What the decoder takes. -/
structure Fits (pdu : ResetGraphicsPdu) : Prop where
  width : pdu.width ≤ 32766
  height : pdu.height ≤ 32766
  monitors : pdu.monitors.length ≤ 16

def bytes (pdu : ResetGraphicsPdu) : Bytes :=
  (littleEndian 4 pdu.width.toNat ++ littleEndian 4 pdu.height.toNat) ++ (littleEndian 4 pdu.monitors.length ++
    (pdu.monitors.flatMap Monitor.bytes ++ List.replicate (320 - pdu.monitors.length * 20) 0))

/-- The message takes 332 bytes for up to 16 monitors. -/
theorem bytes_length (fits : pdu.Fits) : pdu.bytes.length = 332 := by
  have few := fits.monitors
  simp only [bytes, List.length_append, littleEndian_length, flatMap_length Monitor.bytes_length,
    List.length_replicate]
  omega

/-- What `encode` writes, where the monitors fit. -/
theorem encode_writes (fits : pdu.Fits) : pdu.encode.Writes pdu.bytes := by
  apply Encoding.Writes.ensureSize _ _ (Nat.le_of_eq (bytes_length fits).symm)
  apply (Encoding.write_writes _).andThen
  apply (castLength_writes _ (Nat.lt_of_le_of_lt fits.monitors (by decide))).andThen
  apply (Encoding.all_writes fun monitor _ => monitor.encode_writes).andThen
  rw [if_pos fits.monitors]
  exact Encoding.write_writes _

/-- The message is read back, padding skipped. -/
theorem decode_reads (fits : pdu.Fits) : Reads decode pdu.bytes pdu := by
  obtain ⟨width, height, monitors⟩ := pdu
  apply Reads.ensureSize _ (by rw [bytes_length fits]; decide)
  rw [bytes, List.append_assoc]
  apply (readU32_reads width).bind
  rw [if_neg (UInt32.not_lt.mpr fits.width)]
  apply (readU32_reads height).bind
  rw [if_neg (UInt32.not_lt.mpr fits.height)]
  have few : monitors.length ≤ 16 := fits.monitors
  have counted : monitors.length.toUInt32.toNat = monitors.length :=
    UInt32.toNat_ofNat_of_lt' (Nat.lt_of_le_of_lt few (by decide))
  have notMany : ¬ monitors.length.toUInt32 > 16 := by
    rw [gt_iff_lt, UInt32.lt_iff_toNat_lt, counted]
    exact Nat.not_lt.mpr few
  have count := readU32_reads monitors.length.toUInt32
  rw [counted] at count
  apply count.bind
  have all : Reads (times monitors.length Monitor.decode) (monitors.flatMap Monitor.bytes) (monitors.map id) :=
    times_reads fun monitor _ => monitor.decode_reads
  rw [List.map_id] at all
  simp only [if_neg notMany, counted]
  exact all.bind ((padding_reads _).map fun _ => (⟨width, height, monitors⟩ : ResetGraphicsPdu))

end ResetGraphicsPdu
namespace ServerPdu
variable {pdu : ServerPdu}

/-- What a body can carry over: counts of 16 bits, parts of a time of their bits,
flags with names, and a desktop that the decoder takes. -/
def BodyFits : ServerPdu → Prop
  | .solidFill pdu => pdu.rectangles.length < UInt16.size
  | .surfaceToSurface pdu => pdu.destinationPoints.length < UInt16.size
  | .cacheToSurface pdu => pdu.destinationPoints.length < UInt16.size
  | .startFrame pdu => Timestamp.Fits pdu.timestamp
  | .resetGraphics pdu => pdu.Fits
  | .capabilitiesConfirm confirmed => CapabilitySet.Named confirmed
  | .cacheImportReply cacheSlots => cacheSlots.length < UInt16.size
  | _ => True

/-- The body fits, and its size the header. -/
structure Fits (pdu : ServerPdu) : Prop where
  body : pdu.BodyFits
  small : pdu.size < UInt32.size

def bodyBytes : ServerPdu → Bytes
  | .wireToSurface1 pdu =>
    (littleEndian 2 pdu.surfaceId.toNat ++ (littleEndian 2 pdu.codecId.asU16.toNat ++
      [PixelFormat.asU8 pdu.pixelFormat])) ++ (rectangleBytes pdu.destinationRectangle ++
        (littleEndian 4 pdu.bitmapData.length ++ pdu.bitmapData))
  | .wireToSurface2 pdu =>
    (littleEndian 2 pdu.surfaceId.toNat ++ (littleEndian 2 pdu.codecId.asU16.toNat ++
      (littleEndian 4 pdu.codecContextId.toNat ++ [PixelFormat.asU8 pdu.pixelFormat]))) ++
        (littleEndian 4 pdu.bitmapData.length ++ pdu.bitmapData)
  | .deleteEncodingContext surfaceId codecContextId =>
    littleEndian 2 surfaceId.toNat ++ littleEndian 4 codecContextId.toNat
  | .solidFill pdu => littleEndian 2 pdu.surfaceId.toNat ++ (pdu.fillPixel.bytes ++
    (littleEndian 2 pdu.rectangles.length ++ pdu.rectangles.flatMap rectangleBytes))
  | .surfaceToSurface pdu =>
    (littleEndian 2 pdu.sourceSurfaceId.toNat ++ littleEndian 2 pdu.destinationSurfaceId.toNat) ++
      (rectangleBytes pdu.sourceRectangle ++
        (littleEndian 2 pdu.destinationPoints.length ++ pdu.destinationPoints.flatMap Point.bytes))
  | .surfaceToCache pdu =>
    (littleEndian 2 pdu.surfaceId.toNat ++ (littleEndian 8 pdu.cacheKey.toNat ++
      littleEndian 2 pdu.cacheSlot.toNat)) ++ rectangleBytes pdu.sourceRectangle
  | .cacheToSurface pdu =>
    (littleEndian 2 pdu.cacheSlot.toNat ++ littleEndian 2 pdu.surfaceId.toNat) ++
      (littleEndian 2 pdu.destinationPoints.length ++ pdu.destinationPoints.flatMap Point.bytes)
  | .evictCacheEntry cacheSlot => littleEndian 2 cacheSlot.toNat
  | .createSurface pdu => littleEndian 2 pdu.surfaceId.toNat ++ (littleEndian 2 pdu.width.toNat ++
    (littleEndian 2 pdu.height.toNat ++ littleEndian 4 (PixelFormat.asU8 pdu.pixelFormat).toNat))
  | .deleteSurface surfaceId => littleEndian 2 surfaceId.toNat
  | .startFrame pdu => littleEndian 4 (Timestamp.bits pdu.timestamp) ++ littleEndian 4 pdu.frameId.toNat
  | .endFrame frameId => littleEndian 4 frameId.toNat
  | .resetGraphics pdu => pdu.bytes
  | .mapSurfaceToOutput pdu => littleEndian 2 pdu.surfaceId.toNat ++ (littleEndian 2 0 ++
    (littleEndian 4 pdu.outputOriginX.toNat ++ littleEndian 4 pdu.outputOriginY.toNat))
  | .capabilitiesConfirm confirmed => CapabilitySet.bytes confirmed
  | .cacheImportReply cacheSlots =>
    littleEndian 2 cacheSlots.length ++ cacheSlots.flatMap fun cacheSlot => littleEndian 2 cacheSlot.toNat
  | .mapSurfaceToScaledOutput pdu => littleEndian 2 pdu.surfaceId.toNat ++ (littleEndian 2 0 ++
    (littleEndian 4 pdu.outputOriginX.toNat ++ (littleEndian 4 pdu.outputOriginY.toNat ++
      (littleEndian 4 pdu.targetWidth.toNat ++ littleEndian 4 pdu.targetHeight.toNat))))
  | .mapSurfaceToScaledWindow pdu => littleEndian 2 pdu.surfaceId.toNat ++ (littleEndian 8 pdu.windowId.toNat ++
    (littleEndian 4 pdu.mappedWidth.toNat ++ (littleEndian 4 pdu.mappedHeight.toNat ++
      (littleEndian 4 pdu.targetWidth.toNat ++ littleEndian 4 pdu.targetHeight.toNat))))

/-- A body takes its size. -/
theorem bodyBytes_length (fits : pdu.BodyFits) : pdu.bodyBytes.length = pdu.bodySize := by
  cases pdu with
  | resetGraphics pdu => exact ResetGraphicsPdu.bytes_length fits
  | capabilitiesConfirm confirmed => exact CapabilitySet.bytes_length confirmed
  | cacheImportReply cacheSlots =>
    simp only [bodyBytes, bodySize, List.length_append, littleEndian_length,
      flatMap_length (fun cacheSlot : UInt16 => littleEndian_length 2 cacheSlot.toNat)]
  | solidFill pdu =>
    simp only [bodyBytes, bodySize, SolidFillPdu.size, List.length_append, littleEndian_length, Color.bytes,
      List.length_cons, List.length_nil, flatMap_length rectangleBytes_length]
    omega
  | surfaceToSurface pdu =>
    simp only [bodyBytes, bodySize, SurfaceToSurfacePdu.size, List.length_append, littleEndian_length,
      rectangleBytes_length, flatMap_length Point.bytes_length]
    omega
  | cacheToSurface pdu =>
    simp only [bodyBytes, bodySize, CacheToSurfacePdu.size, List.length_append, littleEndian_length,
      flatMap_length Point.bytes_length]
    omega
  | wireToSurface1 pdu =>
    simp only [bodyBytes, bodySize, WireToSurface1Pdu.size, List.length_append, littleEndian_length,
      rectangleBytes_length, List.length_cons, List.length_nil]
    omega
  | wireToSurface2 pdu =>
    simp only [bodyBytes, bodySize, WireToSurface2Pdu.size, List.length_append, littleEndian_length,
      List.length_cons, List.length_nil]
    omega
  | _ => simp [bodyBytes, bodySize]

/-- What `encode` writes of a body that fits. -/
theorem encodeBody_writes (fits : pdu.Fits) : pdu.encodeBody.Writes pdu.bodyBytes := by
  have length := bodyBytes_length fits.body
  have sized : pdu.bodySize ≤ pdu.bodyBytes.length := Nat.le_of_eq length.symm
  have small : pdu.bodySize < 256 ^ 4 := Nat.lt_of_le_of_lt (Nat.le_add_left ..) fits.small
  cases pdu with
  | wireToSurface1 pdu =>
    have data : pdu.bitmapData.length < 256 ^ 4 := Nat.lt_of_le_of_lt (Nat.le_add_left ..) small
    apply Encoding.Writes.ensureSize _ _ sized
    apply (Encoding.write_writes _).andThen
    exact (rectangle_writes _).andThen ((castLength_writes _ data).andThen (Encoding.write_writes _))
  | wireToSurface2 pdu =>
    have data : pdu.bitmapData.length < 256 ^ 4 := Nat.lt_of_le_of_lt (Nat.le_add_left ..) small
    apply Encoding.Writes.ensureSize _ _ sized
    apply (Encoding.write_writes _).andThen
    exact (castLength_writes _ data).andThen (Encoding.write_writes _)
  | solidFill pdu =>
    apply Encoding.Writes.ensureSize _ _ sized
    apply (Encoding.write_writes _).andThen
    apply pdu.fillPixel.encode_writes.andThen
    apply (castLength_writes _ fits.body).andThen
    exact Encoding.all_writes fun rectangle _ => rectangle_writes rectangle
  | surfaceToSurface pdu =>
    apply Encoding.Writes.ensureSize _ _ sized
    apply (Encoding.write_writes _).andThen
    apply (rectangle_writes _).andThen
    exact (castLength_writes _ fits.body).andThen (Encoding.all_writes fun point _ => point.encode_writes)
  | surfaceToCache pdu =>
    apply Encoding.Writes.ensureSize _ _ sized
    exact (Encoding.write_writes _).andThen (rectangle_writes _)
  | cacheToSurface pdu =>
    apply Encoding.Writes.ensureSize _ _ sized
    apply (Encoding.write_writes _).andThen
    exact (castLength_writes _ fits.body).andThen (Encoding.all_writes fun point _ => point.encode_writes)
  | startFrame pdu =>
    apply Encoding.Writes.ensureSize _ _ sized
    exact (Timestamp.encode_writes fits.body).andThen (Encoding.write_writes _)
  | resetGraphics pdu => exact ResetGraphicsPdu.encode_writes fits.body
  | capabilitiesConfirm confirmed => exact CapabilitySet.encode_writes small
  | cacheImportReply cacheSlots =>
    apply Encoding.Writes.ensureSize _ _ sized
    exact (castLength_writes _ fits.body).andThen (Encoding.write_writes _)
  | mapSurfaceToScaledWindow pdu => exact Encoding.write_writes _
  | deleteEncodingContext surfaceId codecContextId => exact sized_writes _ length
  | evictCacheEntry id | deleteSurface id | endFrame id => exact sized_writes _ length
  | createSurface pdu | mapSurfaceToOutput pdu | mapSurfaceToScaledOutput pdu => exact sized_writes _ length

private theorem codec1_reads (codec : Codec1Type) :
    Reads readCodec1Type (littleEndian 2 codec.asU16.toNat) codec := by
  rw [← List.append_nil (littleEndian 2 codec.asU16.toNat)]
  apply (readU16_reads codec.asU16).bind
  simp only [Codec1Type.fromU16_asU16]
  exact pure_reads codec

private theorem codec2_reads (codec : Codec2Type) :
    Reads readCodec2Type (littleEndian 2 codec.asU16.toNat) codec := by
  rw [← List.append_nil (littleEndian 2 codec.asU16.toNat)]
  apply (readU16_reads codec.asU16).bind
  simp only [Codec2Type.fromU16_asU16]
  exact pure_reads codec

private theorem format_reads (format : PixelFormat) : Reads readPixelFormat [PixelFormat.asU8 format] format := by
  rw [← List.append_nil [PixelFormat.asU8 format]]
  apply (readU8_reads (PixelFormat.asU8 format)).bind
  simp only [PixelFormat.fromU8_asU8]
  exact pure_reads format

private theorem body_room {n : Nat} (pdu : ServerPdu) (fits : pdu.BodyFits) (enough : n ≤ pdu.bodySize) :
    n ≤ pdu.bodyBytes.length := by
  rwa [bodyBytes_length fits]

private theorem wireToSurface1_reads {pdu : WireToSurface1Pdu} (small : pdu.bitmapData.length < UInt32.size) :
    Reads WireToSurface1Pdu.decode (wireToSurface1 pdu).bodyBytes pdu := by
  apply Reads.ensureSize _ (body_room (wireToSurface1 pdu) trivial (Nat.le_add_right ..))
  simp only [bodyBytes, List.append_assoc]
  apply (readU16_reads _).bind
  apply (codec1_reads _).bind
  apply (format_reads _).bind
  exact (rectangle_reads _).bind ((bitmapData_reads small).map _)

private theorem wireToSurface2_reads {pdu : WireToSurface2Pdu} (small : pdu.bitmapData.length < UInt32.size) :
    Reads WireToSurface2Pdu.decode (wireToSurface2 pdu).bodyBytes pdu := by
  apply Reads.ensureSize _ (body_room (wireToSurface2 pdu) trivial (Nat.le_add_right ..))
  simp only [bodyBytes, List.append_assoc]
  apply (readU16_reads _).bind
  apply (codec2_reads _).bind
  apply (readU32_reads _).bind
  exact (format_reads _).bind ((bitmapData_reads small).map _)

private theorem solidFill_reads {pdu : SolidFillPdu} (fits : pdu.rectangles.length < UInt16.size) :
    Reads SolidFillPdu.decode (solidFill pdu).bodyBytes pdu := by
  apply Reads.ensureSize _ (body_room (solidFill pdu) fits (Nat.le_add_right ..))
  apply (readU16_reads _).bind
  apply (Color.decode_reads _).bind
  apply (readU16_reads_nat fits).bind
  have counted : pdu.rectangles.length.toUInt16.toNat = pdu.rectangles.length := UInt16.toNat_ofNat_of_lt' fits
  apply ((list_reads rectangle_reads fits).map _).ensureSize
  rw [flatMap_length rectangleBytes_length, counted]

private theorem surfaceToSurface_reads {pdu : SurfaceToSurfacePdu}
    (fits : pdu.destinationPoints.length < UInt16.size) :
    Reads SurfaceToSurfacePdu.decode (surfaceToSurface pdu).bodyBytes pdu := by
  apply Reads.ensureSize _ (body_room (surfaceToSurface pdu) fits (Nat.le_add_right ..))
  simp only [bodyBytes, List.append_assoc]
  apply (readU16_reads _).bind
  apply (readU16_reads _).bind
  apply (rectangle_reads _).bind
  exact (readU16_reads_nat fits).bind ((list_reads Point.decode_reads fits).map _)

private theorem surfaceToCache_reads (pdu : SurfaceToCachePdu) :
    Reads SurfaceToCachePdu.decode (surfaceToCache pdu).bodyBytes pdu := by
  apply Reads.ensureSize _ (body_room (surfaceToCache pdu) trivial (Nat.le_refl 20))
  simp only [bodyBytes, List.append_assoc]
  apply (readU16_reads _).bind
  exact (readU64_reads _).bind ((readU16_reads _).bind ((rectangle_reads _).map _))

private theorem cacheToSurface_reads {pdu : CacheToSurfacePdu} (fits : pdu.destinationPoints.length < UInt16.size) :
    Reads CacheToSurfacePdu.decode (cacheToSurface pdu).bodyBytes pdu := by
  apply Reads.ensureSize _ (body_room (cacheToSurface pdu) fits (Nat.le_add_right ..))
  simp only [bodyBytes, List.append_assoc]
  apply (readU16_reads _).bind
  apply (readU16_reads _).bind
  exact (readU16_reads_nat fits).bind ((list_reads Point.decode_reads fits).map _)

private theorem createSurface_reads (pdu : CreateSurfacePdu) :
    Reads CreateSurfacePdu.decode (createSurface pdu).bodyBytes pdu := by
  apply Reads.ensureSize _ (body_room (createSurface pdu) trivial (Nat.le_refl 10))
  apply (readU16_reads _).bind
  apply (readU16_reads _).bind
  apply (readU16_reads _).bind
  have format := readU32_reads (PixelFormat.asU8 pdu.pixelFormat).toUInt32
  rw [UInt8.toNat_toUInt32] at format
  rw [← List.append_nil (littleEndian 4 (PixelFormat.asU8 pdu.pixelFormat).toNat)]
  apply format.bind
  simp only [UInt8.toUInt8_toUInt32, PixelFormat.fromU8_asU8]
  exact pure_reads pdu

private theorem startFrame_reads {pdu : StartFramePdu} (fits : Timestamp.Fits pdu.timestamp) :
    Reads StartFramePdu.decode (startFrame pdu).bodyBytes pdu := by
  apply Reads.ensureSize _ (body_room (startFrame pdu) fits (Nat.le_refl 8))
  exact (Timestamp.decode_reads fits).bind ((readU32_reads _).map _)

private theorem mapSurfaceToOutput_reads (pdu : MapSurfaceToOutputPdu) :
    Reads MapSurfaceToOutputPdu.decode (mapSurfaceToOutput pdu).bodyBytes pdu := by
  apply Reads.ensureSize _ (body_room (mapSurfaceToOutput pdu) trivial (Nat.le_refl 12))
  apply (readU16_reads _).bind
  exact (readU16_reads 0).bind ((readU32_reads _).bind ((readU32_reads _).map _))

private theorem cacheImportReply_reads {cacheSlots : List UInt16} (fits : cacheSlots.length < UInt16.size) :
    Reads CacheImportReplyPdu.decode (cacheImportReply cacheSlots).bodyBytes cacheSlots := by
  apply Reads.ensureSize _ (body_room (cacheImportReply cacheSlots) fits (Nat.le_add_right ..))
  exact (readU16_reads_nat fits).bind (list_reads readU16_reads fits)

private theorem mapSurfaceToScaledOutput_reads (pdu : MapSurfaceToScaledOutputPdu) :
    Reads MapSurfaceToScaledOutputPdu.decode (mapSurfaceToScaledOutput pdu).bodyBytes pdu := by
  apply Reads.ensureSize _ (body_room (mapSurfaceToScaledOutput pdu) trivial (Nat.le_refl 20))
  apply (readU16_reads _).bind
  apply (readU16_reads 0).bind
  exact (readU32_reads _).bind ((readU32_reads _).bind ((readU32_reads _).bind ((readU32_reads _).map _)))

private theorem mapSurfaceToScaledWindow_reads (pdu : MapSurfaceToScaledWindowPdu) :
    Reads MapSurfaceToScaledWindowPdu.decode (mapSurfaceToScaledWindow pdu).bodyBytes pdu := by
  apply Reads.ensureSize _ (body_room (mapSurfaceToScaledWindow pdu) trivial (Nat.le_refl 26))
  apply (readU16_reads _).bind
  apply (readU64_reads _).bind
  exact (readU32_reads _).bind ((readU32_reads _).bind ((readU32_reads _).bind ((readU32_reads _).map _)))

/-- A body that fits is read back. -/
theorem decodeBody_reads (fits : pdu.Fits) : Reads (decodeBody pdu.pduType) pdu.bodyBytes pdu := by
  obtain ⟨body, whole⟩ := fits
  have small : pdu.bodySize < UInt32.size := Nat.lt_of_le_of_lt (Nat.le_add_left ..) whole
  cases pdu with
  | wireToSurface1 pdu =>
    have data : pdu.bitmapData.length < UInt32.size := Nat.lt_of_le_of_lt (Nat.le_add_left ..) small
    exact (wireToSurface1_reads data).map wireToSurface1
  | wireToSurface2 pdu =>
    have data : pdu.bitmapData.length < UInt32.size := Nat.lt_of_le_of_lt (Nat.le_add_left ..) small
    exact (wireToSurface2_reads data).map wireToSurface2
  | deleteEncodingContext surfaceId codecContextId =>
    apply Reads.ensureSize _ (body_room (deleteEncodingContext surfaceId codecContextId) trivial (Nat.le_refl 6))
    exact (readU16_reads surfaceId).bind ((readU32_reads codecContextId).map _)
  | solidFill pdu => exact (solidFill_reads body).map solidFill
  | surfaceToSurface pdu => exact (surfaceToSurface_reads body).map surfaceToSurface
  | surfaceToCache pdu => exact (surfaceToCache_reads pdu).map surfaceToCache
  | cacheToSurface pdu => exact (cacheToSurface_reads body).map cacheToSurface
  | evictCacheEntry cacheSlot => exact ((readU16_reads cacheSlot).map _).ensureSize (Nat.le_refl 2)
  | createSurface pdu => exact (createSurface_reads pdu).map createSurface
  | deleteSurface surfaceId => exact ((readU16_reads surfaceId).map _).ensureSize (Nat.le_refl 2)
  | startFrame pdu => exact (startFrame_reads body).map startFrame
  | endFrame frameId => exact ((readU32_reads frameId).map _).ensureSize (Nat.le_refl 4)
  | resetGraphics pdu => exact (ResetGraphicsPdu.decode_reads body).map resetGraphics
  | mapSurfaceToOutput pdu => exact (mapSurfaceToOutput_reads pdu).map mapSurfaceToOutput
  | capabilitiesConfirm confirmed => exact (CapabilitySet.decode_reads body small).map capabilitiesConfirm
  | cacheImportReply cacheSlots => exact (cacheImportReply_reads body).map cacheImportReply
  | mapSurfaceToScaledOutput pdu => exact (mapSurfaceToScaledOutput_reads pdu).map mapSurfaceToScaledOutput
  | mapSurfaceToScaledWindow pdu => exact (mapSurfaceToScaledWindow_reads pdu).map mapSurfaceToScaledWindow

/-- What `encode` writes of a message. -/
def bytes (pdu : ServerPdu) : Bytes :=
  (littleEndian 2 pdu.pduType.asU16.toNat ++ littleEndian 2 0) ++ (littleEndian 4 pdu.size ++ pdu.bodyBytes)

/-- A message takes its size. -/
theorem bytes_length (fits : pdu.BodyFits) : pdu.bytes.length = pdu.size := by
  simp only [bytes, List.length_append, littleEndian_length, bodyBytes_length fits, size]
  omega

/-- What `encode` writes, where the message fits. -/
theorem encode_writes (fits : pdu.Fits) : pdu.encode.Writes pdu.bytes := by
  apply Encoding.Writes.ensureSize _ _ (Nat.le_of_eq (bytes_length fits.body).symm)
  apply (Encoding.write_writes _).andThen
  exact (castLength_writes _ fits.small).andThen (encodeBody_writes fits)

/-- A message that fits is read back. -/
theorem decode_reads (fits : pdu.Fits) : Reads decode pdu.bytes pdu := by
  have length := bytes_length fits.body
  apply Reads.ensureSize _ (by rw [length]; exact Nat.le_add_right ..)
  rw [bytes, List.append_assoc]
  apply (readU16_reads pdu.pduType.asU16).bind
  simp only [ServerPduType.fromU16_asU16]
  apply (readU16_reads 0).bind
  have value : pdu.size.toUInt32.toNat = pdu.size := UInt32.toNat_ofNat_of_lt' fits.small
  have counted := readU32_reads pdu.size.toUInt32
  rw [value] at counted
  apply counted.bind
  rw [← List.append_nil pdu.bodyBytes]
  apply (decodeBody_reads fits).bind
  rw [if_neg (by rw [value]; exact fun other => other rfl)]
  exact pure_reads pdu

end ServerPdu

end RoundTrip

section Accepted

private theorem within_count {α : Type} {n : UInt16} {values : List α} (counted : values.length = n.toNat) :
    values.length < UInt16.size := counted ▸ n.toNat_lt

private theorem Timestamp.ofBits_fits (bits : Nat) : Timestamp.Fits (Timestamp.ofBits bits) := by
  have within (n : Nat) : n % 2 ^ 10 < 1024 ∧ n % 2 ^ 6 < 64 :=
    ⟨Nat.mod_lt _ (by decide), Nat.mod_lt _ (by decide)⟩
  simp only [Timestamp.Fits, Timestamp.ofBits, UInt16.lt_iff_toNat_lt, UInt8.lt_iff_toNat_lt]
  refine ⟨?_, ?_, ?_, ?_⟩
  · exact (UInt16.toNat_ofNat_of_lt' (Nat.lt_trans (within _).1 (by decide))).symm ▸ (within _).1
  · exact (UInt8.toNat_ofNat_of_lt' (Nat.lt_trans (within _).2 (by decide))).symm ▸ (within _).2
  · exact (UInt8.toNat_ofNat_of_lt' (Nat.lt_trans (within _).2 (by decide))).symm ▸ (within _).2
  · exact (UInt16.toNat_ofNat_of_lt' (Nat.lt_trans (within _).1 (by decide))).symm ▸ (within _).1

/-- What is decoded of a new size fits. -/
theorem ResetGraphicsPdu.decode_fits : Yields ResetGraphicsPdu.decode Fits := by
  apply yields_after
  intro _
  apply yields_after
  intro width
  split
  · exact fail_yields _
  · rename_i narrow
    apply yields_after
    intro height
    split
    · exact fail_yields _
    · rename_i low
      apply yields_after
      intro monitorCount
      split
      · exact fail_yields _
      · rename_i few
        refine (times_yields _ _).bind fun monitors counted => ?_
        apply yields_after
        intro _
        apply pure_yields
        refine ⟨UInt32.not_lt.mp narrow, UInt32.not_lt.mp low, ?_⟩
        rw [counted]
        exact UInt32.le_iff_toNat_le.mp (UInt32.not_lt.mp few)

/-- What is decoded of a set has flags of known meaning. -/
theorem CapabilitySet.decode_named : Yields GfxDecoding.CapabilitySet.decode Named := by
  apply yields_after
  intro _
  apply yields_after
  intro versionRaw
  apply yields_after
  intro dataLength
  apply yields_after
  intro _
  apply yields_after
  intro data
  apply Yields.within
  unfold GfxDecoding.CapabilitySet.decodeData
  split
  · rename_i kept make carries
    apply yields_after
    intro _
    apply yields_after
    intro flags
    apply pure_yields
    obtain ⟨version, _, carries⟩ := Option.bind_eq_some_iff.mp carries
    cases version <;> cases carries <;> exact UInt32.and_assoc .. |>.trans (by rw [UInt32.and_self])
  · split
    · apply yields_after
      intro _
      apply yields_after
      intro _
      exact pure_yields trivial
    · exact pure_yields trivial

/-- The sets of a client have no flag without a name. -/
def ClientPdu.Named : GfxDecoding.ClientPdu → Prop
  | .capabilitiesAdvertise caps => ∀ set ∈ caps, CapabilitySet.Named set
  | .frameAcknowledge _ => True

/-- What a client's message holds has flags of known meaning. -/
theorem ClientPdu.decode_named : Yields GfxDecoding.ClientPdu.decode Named := by
  apply yields_after
  intro raw
  split
  · exact fail_yields _
  · rename_i pduType _
    have body : Yields (GfxDecoding.ClientPdu.decodeBody pduType) Named := by
      cases pduType with
      | frameAcknowledge => exact yields_after fun _ => pure_yields trivial
      | capabilitiesAdvertise =>
        have sets : Yields GfxDecoding.CapabilitiesAdvertisePdu.decode fun caps =>
            ∀ set ∈ caps, CapabilitySet.Named set := by
          apply yields_after
          intro _
          apply yields_after
          intro count
          apply yields_after
          intro _
          exact CapabilitySet.decode_named.times _
        exact sets.bind fun caps named => pure_yields named
      | cacheImportOffer | qoeFrameAcknowledge => exact fail_yields _
    apply yields_after
    intro _
    apply yields_after
    intro pduLength
    refine body.bind fun pdu named => ?_
    unfold GfxDecoding.ClientPdu.checkLength
    split
    · exact fail_yields _
    · exact pure_yields named

theorem SolidFillPdu.decode_fits : Yields SolidFillPdu.decode fun pdu => pdu.rectangles.length < UInt16.size := by
  apply yields_after
  intro _
  apply yields_after
  intro surfaceId
  apply yields_after
  intro fillPixel
  apply yields_after
  intro rectanglesCount
  apply yields_after
  intro _
  exact (times_yields _ _).bind fun rectangles counted => pure_yields (within_count counted)

theorem SurfaceToSurfacePdu.decode_fits :
    Yields SurfaceToSurfacePdu.decode fun pdu => pdu.destinationPoints.length < UInt16.size := by
  apply yields_after
  intro _
  apply yields_after
  intro sourceSurfaceId
  apply yields_after
  intro destinationSurfaceId
  apply yields_after
  intro sourceRectangle
  apply yields_after
  intro destinationPointsCount
  exact (times_yields _ _).bind fun points counted => pure_yields (within_count counted)

theorem CacheToSurfacePdu.decode_fits :
    Yields CacheToSurfacePdu.decode fun pdu => pdu.destinationPoints.length < UInt16.size := by
  apply yields_after
  intro _
  apply yields_after
  intro cacheSlot
  apply yields_after
  intro surfaceId
  apply yields_after
  intro destinationPointsCount
  exact (times_yields _ _).bind fun points counted => pure_yields (within_count counted)

theorem StartFramePdu.decode_fits : Yields StartFramePdu.decode fun pdu => Timestamp.Fits pdu.timestamp := by
  have timestamps : Yields Timestamp.decode Timestamp.Fits :=
    yields_after fun _ => yields_after fun bits => pure_yields (Timestamp.ofBits_fits bits.toNat)
  apply yields_after
  intro _
  exact timestamps.bind fun timestamp fits => yields_after fun frameId => pure_yields fits

/-- What is decoded has as many slots as a word can count. -/
theorem CacheImportReplyPdu.decode_fits :
    Yields CacheImportReplyPdu.decode fun cacheSlots => cacheSlots.length < UInt16.size := by
  apply yields_after
  intro _
  apply yields_after
  intro entriesCount src cacheSlots rest ran
  exact within_count (times_yields _ _ src cacheSlots rest ran)

namespace ServerPdu

private theorem decodeBody_fits (kind : ServerPduType) : Yields (decodeBody kind) BodyFits := by
  cases kind with
  | solidFill => exact SolidFillPdu.decode_fits.bind fun pdu fits => pure_yields fits
  | surfaceToSurface => exact SurfaceToSurfacePdu.decode_fits.bind fun pdu fits => pure_yields fits
  | cacheToSurface => exact CacheToSurfacePdu.decode_fits.bind fun pdu fits => pure_yields fits
  | startFrame => exact StartFramePdu.decode_fits.bind fun pdu fits => pure_yields fits
  | resetGraphics => exact ResetGraphicsPdu.decode_fits.bind fun pdu fits => pure_yields fits
  | capabilitiesConfirm => exact CapabilitySet.decode_named.bind fun confirmed named => pure_yields named
  | cacheImportReply => exact CacheImportReplyPdu.decode_fits.bind fun cacheSlots fits => pure_yields fits
  | deleteEncodingContext =>
    exact yields_after fun _ => yields_after fun _ => yields_after fun _ => pure_yields trivial
  | evictCacheEntry | deleteSurface | endFrame =>
    exact yields_after fun _ => yields_after fun _ => pure_yields trivial
  | mapSurfaceToWindow => exact fail_yields _
  | wireToSurface1 | wireToSurface2 | surfaceToCache | createSurface | mapSurfaceToOutput
  | mapSurfaceToScaledOutput | mapSurfaceToScaledWindow => exact yields_after fun _ => pure_yields trivial

/-- What is accepted can be sent. -/
theorem decode_fits : Yields decode Fits := by
  apply yields_after
  intro _
  apply yields_after
  intro raw
  split
  · exact fail_yields _
  · rename_i kind _
    apply yields_after
    intro _
    apply yields_after
    intro pduLength
    refine (decodeBody_fits kind).bind fun pdu body => ?_
    split
    · exact fail_yields _
    · rename_i told
      apply pure_yields
      refine ⟨body, ?_⟩
      rw [not_not.mp told]
      exact pduLength.toNat_lt

/-- **Round trips.** A message is encoded into a buffer of its size and read back
as it was, whatever follows it, when it fits, and only then. What a decoder
accepts of any bytes fits. -/
theorem read_back_iff_fits (pdu : ServerPdu) :
    ((∃ bytes, pdu.encode pdu.size = some (.ok bytes) ∧
        ∀ rest, decode (bytes ++ rest) = some (.ok (pdu, rest))) ↔ pdu.Fits) ∧
      ∀ input rest, decode input = some (.ok (pdu, rest)) → pdu.Fits := by
  refine ⟨⟨?_, fun fits => ?_⟩, fun input rest decoded => decode_fits input pdu rest decoded⟩
  · rintro ⟨bytes, _, decoded⟩
    exact decode_fits _ pdu [] (decoded [])
  · exact ⟨pdu.bytes, encode_writes fits pdu.size (Nat.le_of_eq (bytes_length fits.body)), decode_reads fits⟩

end ServerPdu

end Accepted

end Osxrdp.GfxEncoding
