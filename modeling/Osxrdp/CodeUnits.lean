import Mathlib.Data.List.DropRight
import Mathlib.Data.List.Flatten
import Osxrdp.Bytes

/-! Text in code units, UTF-8 in bytes and UTF-16 in words. A field of text is
read up to its first zero unit or as a whole, and the zeros at its end are cut
off; what can be read back out of such a field is settled for any encoding form. -/
namespace Osxrdp.CodeUnits

def nul : Char := Char.ofNat 0

/-- Without the zeros at its end. -/
def trim (text : List Char) : List Char := text.rdropWhile (· = nul)

theorem trim_start (text : List Char) : trim text <+: text := List.rdropWhile_prefix _ _

@[simp] theorem trim_trim (text : List Char) : trim (trim text) = trim text := List.rdropWhile_idempotent _ _

theorem trim_pad (text : List Char) (zeros : Nat) : trim (text ++ List.replicate zeros nul) = trim text := by
  induction zeros with
  | zero => rw [List.replicate_zero, List.append_nil]
  | succ zeros ih =>
    rw [List.replicate_succ', ← List.append_assoc, trim, List.rdropWhile_concat_pos _ _ _ (by simp)]
    exact ih

theorem trim_clean {text : List Char} (clean : nul ∉ text) : trim text = text := by
  apply List.rdropWhile_eq_self_iff.mpr
  intro nonempty ends
  exact clean (of_decide_eq_true ends ▸ List.getLast_mem nonempty)

/-- Characters in units. Only the character `nul` takes a zero unit. -/
structure EncodingForm (υ : Type) where
  encodeChar : Char → List υ
  decode : List υ → Option (List Char)
  zero : υ
  decode_encode : ∀ text, decode (text.flatMap encodeChar) = some text
  encode_of_decode : ∀ units text, decode units = some text → text.flatMap encodeChar = units
  encode_nul : encodeChar nul = [zero]
  nul_of_zero : ∀ character, zero ∈ encodeChar character → character = nul

namespace EncodingForm

section Encode
variable {υ : Type} {form : EncodingForm υ}

def encode (form : EncodingForm υ) (text : List Char) : List υ := text.flatMap form.encodeChar

theorem encode_append (text more : List Char) :
    form.encode (text ++ more) = form.encode text ++ form.encode more := List.flatMap_append

theorem encode_padded (form : EncodingForm υ) (text : List Char) (zeros : Nat) :
    form.encode text ++ List.replicate zeros form.zero = form.encode (text ++ List.replicate zeros nul) := by
  induction zeros with
  | zero => rw [List.replicate_zero, List.replicate_zero, List.append_nil, List.append_nil]
  | succ zeros ih =>
    have one : form.encode [nul] = [form.zero] := by
      rw [encode, List.flatMap_singleton, form.encode_nul]
    rw [List.replicate_succ', List.replicate_succ', ← List.append_assoc, ← List.append_assoc, ih,
      encode_append _ [nul], one]

theorem zero_mem_encode (text : List Char) : form.zero ∈ form.encode text ↔ nul ∈ text := by
  rw [encode, List.mem_flatMap]
  constructor
  · rintro ⟨character, member, zero⟩
    rwa [← form.nul_of_zero character zero]
  · intro member
    exact ⟨nul, member, by rw [form.encode_nul]; exact List.mem_singleton_self _⟩

theorem encode_prefix_length (form : EncodingForm υ) {text whole : List Char} (start : text <+: whole) :
    (form.encode text).length ≤ (form.encode whole).length := by
  obtain ⟨more, rfl⟩ := start
  rw [encode_append, List.length_append]
  exact Nat.le_add_right _ _

/-- What encodes to zeros from the first zero on has no `nul` but at its end. -/
theorem trim_clean_of_encode {whole : List Char} {before : List υ} {zeros : Nat}
    (encoded : form.encode whole = before ++ List.replicate zeros form.zero) (none : form.zero ∉ before) :
    nul ∉ trim whole := by
  by_cases present : nul ∈ whole
  case neg => rwa [trim_clean present]
  obtain ⟨first, later, rfl, clean⟩ := List.eq_append_cons_of_mem present
  have zerosFirst : form.zero ∉ form.encode first := fun zero => clean ((zero_mem_encode first).mp zero)
  have head : form.encode (nul :: later) = form.zero :: form.encode later := by
    rw [encode, List.flatMap_cons, form.encode_nul]
    rfl
  rw [encode_append, head] at encoded
  have aligned : form.zero :: form.encode later = List.replicate zeros form.zero := by
    rcases List.append_eq_append_iff.mp encoded with ⟨more, same, rest⟩ | ⟨more, same, rest⟩
    · cases more with
      | nil => exact rest
      | cons unit more =>
        have zero : unit = form.zero := (List.cons.inj rest).1.symm
        exact absurd (by rw [same, zero]; simp) none
    · cases more with
      | nil => exact rest.symm
      | cons unit more =>
        have zero : unit = form.zero := List.eq_of_mem_replicate (by rw [rest]; simp)
        exact absurd (by rw [same, zero]; simp) zerosFirst
  have ends : nul :: later = List.replicate zeros nul := by
    have same : form.encode (nul :: later) = form.encode (List.replicate zeros nul) := by
      rw [head, aligned, ← List.nil_append (List.replicate zeros nul), ← encode_padded]
      rfl
    have decoded := congrArg form.decode same
    unfold encode at decoded
    rw [form.decode_encode, form.decode_encode] at decoded
    exact Option.some.inj decoded
  rwa [ends, trim_pad, trim_clean clean]

end Encode

section Read
variable {υ : Type} [DecidableEq υ] {form : EncodingForm υ} {text : List Char} {units : List υ}
  {terminated : Bool}

/-- The units up to the first zero, which is taken too, or all of them. -/
def upToZero (form : EncodingForm υ) : List υ → List υ
  | [] => []
  | unit :: rest => if unit = form.zero then [unit] else unit :: upToZero form rest

/-- A field of text: one that is `terminated` ends with the first zero. -/
def read (form : EncodingForm υ) (terminated : Bool) (units : List υ) : Option (List Char) :=
  (form.decode (if terminated then form.upToZero units else units)).map trim

theorem upToZero_append (none : form.zero ∉ units) :
    form.upToZero (units ++ [form.zero]) = units ++ [form.zero] := by
  induction units with
  | nil => exact if_pos rfl
  | cons unit rest ih =>
    obtain ⟨other, later⟩ := not_or.mp (fun here => none (List.mem_cons.mpr here))
    rw [List.cons_append, upToZero, if_neg (Ne.symm other), ih later]

theorem upToZero_length (units : List υ) : (form.upToZero units).length ≤ units.length := by
  induction units with
  | nil => exact Nat.le_refl _
  | cons unit rest ih =>
    rw [upToZero]
    split
    · exact Nat.succ_le_succ (Nat.zero_le _)
    · exact Nat.succ_le_succ ih

/-- There is no zero among the units that are taken but the last of them. -/
theorem upToZero_split (form : EncodingForm υ) (units : List υ) : ∃ before zeros,
    form.upToZero units = before ++ List.replicate zeros form.zero ∧ form.zero ∉ before := by
  induction units with
  | nil => exact ⟨[], 0, rfl, List.not_mem_nil⟩
  | cons unit rest ih =>
    rw [upToZero]
    split
    · rename_i zero
      exact ⟨[], 1, by rw [zero]; rfl, List.not_mem_nil⟩
    · rename_i other
      obtain ⟨before, zeros, taken, none⟩ := ih
      refine ⟨unit :: before, zeros, by rw [taken]; rfl, ?_⟩
      intro zero
      exact (List.mem_cons.mp zero).elim (fun same => other same.symm) none

/-- A text without `nul` is read back out of a terminated field. -/
theorem read_terminated (clean : nul ∉ text) :
    form.read true (form.encode text ++ [form.zero]) = some text := by
  have zeros : form.zero ∉ form.encode text := fun zero => clean ((zero_mem_encode text).mp zero)
  have padded := encode_padded form text 1
  rw [List.replicate_one] at padded
  rw [read, if_pos rfl, upToZero_append zeros, padded]
  unfold encode
  rw [form.decode_encode, Option.map_some, trim_pad, trim_clean clean]

/-- A text with no `nul` at its end is read back out of a field that is filled up with zeros. -/
theorem read_padded (ends : trim text = text) (zeros : Nat) :
    form.read false (form.encode text ++ List.replicate zeros form.zero) = some text := by
  rw [read, if_neg (by decide), encode_padded]
  unfold encode
  rw [form.decode_encode, Option.map_some, trim_pad, ends]

/-- What is read has no zeros at its end. -/
theorem read_trimmed (taken : form.read terminated units = some text) : trim text = text := by
  obtain ⟨whole, _, rfl⟩ := Option.map_eq_some_iff.mp taken
  exact trim_trim whole

/-- What is read takes no more units than it was read from. -/
theorem read_length (taken : form.read terminated units = some text) :
    (form.encode text).length ≤ units.length := by
  obtain ⟨whole, decoded, rfl⟩ := Option.map_eq_some_iff.mp taken
  have short := encode_prefix_length form (trim_start whole)
  have same : form.encode whole = _ := form.encode_of_decode _ whole decoded
  rw [same] at short
  cases terminated with
  | false => exact short
  | true => exact short.trans (upToZero_length units)

/-- Out of a terminated field no text with a `nul` is read. -/
theorem read_clean (taken : form.read true units = some text) : nul ∉ text := by
  obtain ⟨whole, decoded, rfl⟩ := Option.map_eq_some_iff.mp taken
  obtain ⟨before, zeros, split, none⟩ := upToZero_split form units
  exact trim_clean_of_encode ((form.encode_of_decode _ whole decoded).trans split) none

end Read
end EncodingForm

section Utf8

/-- Bytes that encode a text. -/
def utf8Decode (bytes : Bytes) : Option (List Char) :=
  (String.fromUTF8? bytes.toByteArray).map String.toList

theorem utf8Decode_eq_some {bytes : Bytes} {text : List Char} :
    utf8Decode bytes = some text ↔ text.flatMap String.utf8EncodeChar = bytes := by
  unfold utf8Decode String.fromUTF8?
  constructor
  · intro decoded
    split at decoded
    · cases decoded
      exact List.toByteArray_inj.mp String.utf8Encode_toList
    · cases decoded
  · rintro rfl
    have valid : (text.flatMap String.utf8EncodeChar).toByteArray.IsValidUTF8 := ⟨text, rfl⟩
    rw [dif_pos valid, Option.map_some]
    exact congrArg some String.toList_ofList

private theorem byte_pos {n : Nat} (positive : 0 < n) (small : n < 256) : (0 : UInt8) ≠ UInt8.ofNat n := by
  intro zero
  have value := congrArg UInt8.toNat zero
  rw [UInt8.toNat_ofNat', Nat.mod_eq_of_lt small] at value
  exact Nat.ne_of_lt positive value

/-- A character of more than one byte has none below 128. -/
theorem nul_of_zero_byte (character : Char) (zero : 0 ∈ String.utf8EncodeChar character) : character = nul := by
  have high (n top base : Nat) (few : top ≤ 64) (some : 0 < top) (enough : 64 ≤ base)
      (small : base + top ≤ 256) : (0 : UInt8) ≠ UInt8.ofNat (n % top + base) := by
    have less := Nat.mod_lt n some
    exact byte_pos (by omega) (by omega)
  have follows (n : Nat) := high n 64 128 (by decide) (by decide) (by decide) (by decide)
  unfold String.utf8EncodeChar at zero
  dsimp only at zero
  split at zero
  · rename_i small
    by_cases positive : 0 < character.toNat
    · exact absurd (List.mem_singleton.mp zero) (byte_pos positive (Nat.lt_of_le_of_lt small (by decide)))
    · exact Char.toNat_inj.mp (Nat.eq_zero_of_not_pos positive)
  exfalso
  have lead2 (n : Nat) := high n 32 192 (by decide) (by decide) (by decide) (by decide)
  have lead3 (n : Nat) := high n 16 224 (by decide) (by decide) (by decide) (by decide)
  have lead4 (n : Nat) := high n 8 240 (by decide) (by decide) (by decide) (by decide)
  split at zero
  · simp only [List.mem_cons, List.not_mem_nil, or_false, lead2, follows] at zero
  split at zero
  · simp only [List.mem_cons, List.not_mem_nil, or_false, lead3, follows] at zero
  · simp only [List.mem_cons, List.not_mem_nil, or_false, lead4, follows] at zero

/-- UTF-8 -/
def utf8 : EncodingForm UInt8 where
  encodeChar := String.utf8EncodeChar
  decode := utf8Decode
  zero := 0
  decode_encode _ := utf8Decode_eq_some.mpr rfl
  encode_of_decode _ _ := utf8Decode_eq_some.mp
  encode_nul := rfl
  nul_of_zero := nul_of_zero_byte

end Utf8

section Utf16

/-- A character of the supplementary planes takes a pair of surrogates. -/
def utf16EncodeChar (character : Char) : List UInt16 :=
  if character.toNat < 0x10000 then [character.toNat.toUInt16]
  else [(0xD800 + (character.toNat - 0x10000) / 0x400).toUInt16,
    (0xDC00 + (character.toNat - 0x10000) % 0x400).toUInt16]

/-- A surrogate that is not one of a pair is refused. -/
def utf16Decode : List UInt16 → Option (List Char)
  | [] => some []
  | unit :: rest =>
    if unit < 0xD800 ∨ 0xDFFF < unit then (utf16Decode rest).map (Char.ofNat unit.toNat :: ·)
    else match rest with
      | [] => none
      | low :: rest =>
        if unit < 0xDC00 ∧ 0xDC00 ≤ low ∧ low ≤ 0xDFFF then (utf16Decode rest).map
          (Char.ofNat (0x10000 + (unit.toNat - 0xD800) * 0x400 + (low.toNat - 0xDC00)) :: ·)
        else none

variable {unit low : UInt16} {rest units : List UInt16} {text : List Char}

theorem utf16Decode_plain (plain : unit < 0xD800 ∨ 0xDFFF < unit) :
    utf16Decode (unit :: rest) = (utf16Decode rest).map (Char.ofNat unit.toNat :: ·) := by
  rw [utf16Decode.eq_def]
  exact if_pos plain

theorem utf16Decode_pair (surrogate : ¬ (unit < 0xD800 ∨ 0xDFFF < unit))
    (pair : unit < 0xDC00 ∧ 0xDC00 ≤ low ∧ low ≤ 0xDFFF) :
    utf16Decode (unit :: low :: rest) = (utf16Decode rest).map
      (Char.ofNat (0x10000 + (unit.toNat - 0xD800) * 0x400 + (low.toNat - 0xDC00)) :: ·) := by
  rw [utf16Decode.eq_def]
  exact (if_neg surrogate).trans (if_pos pair)

theorem utf16Decode_lone (surrogate : ¬ (unit < 0xD800 ∨ 0xDFFF < unit)) : utf16Decode [unit] = none := by
  rw [utf16Decode.eq_def]
  exact if_neg surrogate

theorem utf16Decode_unpaired (surrogate : ¬ (unit < 0xD800 ∨ 0xDFFF < unit))
    (unpaired : ¬ (unit < 0xDC00 ∧ 0xDC00 ≤ low ∧ low ≤ 0xDFFF)) :
    utf16Decode (unit :: low :: rest) = none := by
  rw [utf16Decode.eq_def]
  exact (if_neg surrogate).trans (if_neg unpaired)

theorem toNat_range (character : Char) :
    character.toNat < 0xD800 ∨ 0xDFFF < character.toNat ∧ character.toNat < 0x110000 := character.valid

theorem toNat_ofNat {n : Nat} (valid : n < 0xD800 ∨ 0xDFFF < n ∧ n < 0x110000) : (Char.ofNat n).toNat = n := by
  rw [Char.ofNat, dif_pos valid]
  rfl

theorem utf16Decode_encodeChar (character : Char) (rest : List UInt16) :
    utf16Decode (utf16EncodeChar character ++ rest) = (utf16Decode rest).map (character :: ·) := by
  have range := toNat_range character
  unfold utf16EncodeChar
  split
  · rename_i small
    have value : character.toNat.toUInt16.toNat = character.toNat := UInt16.toNat_ofNat_of_lt' small
    have plain : character.toNat.toUInt16 < 0xD800 ∨ 0xDFFF < character.toNat.toUInt16 := by
      rw [UInt16.lt_iff_toNat_lt, UInt16.lt_iff_toNat_lt, value]
      exact range.imp_right And.left
    rw [List.singleton_append, utf16Decode_plain plain, value, Char.ofNat_toNat]
  · rename_i large
    generalize offset : character.toNat - 0x10000 = n at *
    have whole : n < 0x100000 := by omega
    have high : (0xD800 + n / 0x400).toUInt16.toNat = 0xD800 + n / 0x400 :=
      UInt16.toNat_ofNat_of_lt' (by change _ < 65536; omega)
    have low : (0xDC00 + n % 0x400).toUInt16.toNat = 0xDC00 + n % 0x400 :=
      UInt16.toNat_ofNat_of_lt' (by change _ < 65536; omega)
    have combined : 0x10000 + (0xD800 + n / 0x400 - 0xD800) * 0x400 + (0xDC00 + n % 0x400 - 0xDC00) =
        character.toNat := by
      omega
    rw [List.cons_append, List.singleton_append, utf16Decode_pair, high, low, combined, Char.ofNat_toNat]
    · rw [UInt16.lt_iff_toNat_lt, UInt16.lt_iff_toNat_lt, high]
      change ¬ (_ < 0xD800 ∨ 0xDFFF < _)
      omega
    · rw [UInt16.lt_iff_toNat_lt, UInt16.le_iff_toNat_le, UInt16.le_iff_toNat_le, high, low]
      change _ < 0xDC00 ∧ 0xDC00 ≤ _ ∧ _ ≤ 0xDFFF
      omega

theorem utf16Decode_encode (text : List Char) : utf16Decode (text.flatMap utf16EncodeChar) = some text := by
  induction text with
  | nil => rw [List.flatMap_nil, utf16Decode.eq_def]
  | cons character rest ih => rw [List.flatMap_cons, utf16Decode_encodeChar, ih, Option.map_some]

theorem utf16Encode_of_decode (units : List UInt16) (text : List Char)
    (decoded : utf16Decode units = some text) : text.flatMap utf16EncodeChar = units := by
  induction units using utf16Decode.induct generalizing text with
  | case1 =>
    rw [utf16Decode.eq_def] at decoded
    cases decoded
    rfl
  | case2 unit rest plain ih =>
    rw [utf16Decode_plain plain] at decoded
    obtain ⟨later, taken, rfl⟩ := Option.map_eq_some_iff.mp decoded
    have valid : (Char.ofNat unit.toNat).toNat = unit.toNat := by
      apply toNat_ofNat
      rw [UInt16.lt_iff_toNat_lt, UInt16.lt_iff_toNat_lt] at plain
      exact plain.imp_right fun above => ⟨above, unit.toNat_lt.trans (by decide)⟩
    rw [List.flatMap_cons, ih later taken, utf16EncodeChar, valid, if_pos unit.toNat_lt]
    simp
  | case3 unit surrogate =>
    rw [utf16Decode_lone surrogate] at decoded
    cases decoded
  | case4 unit surrogate low rest pair ih =>
    rw [utf16Decode_pair surrogate pair] at decoded
    obtain ⟨later, taken, rfl⟩ := Option.map_eq_some_iff.mp decoded
    rw [UInt16.lt_iff_toNat_lt, UInt16.lt_iff_toNat_lt] at surrogate
    rw [UInt16.lt_iff_toNat_lt, UInt16.le_iff_toNat_le, UInt16.le_iff_toNat_le] at pair
    change ¬ (_ < 0xD800 ∨ 0xDFFF < _) at surrogate
    change _ < 0xDC00 ∧ 0xDC00 ≤ _ ∧ _ ≤ 0xDFFF at pair
    generalize code : 0x10000 + (unit.toNat - 0xD800) * 0x400 + (low.toNat - 0xDC00) = n at *
    have valid : (Char.ofNat n).toNat = n := toNat_ofNat (by omega)
    rw [List.flatMap_cons, ih later taken, utf16EncodeChar, valid, if_neg (by omega)]
    have high : 0xD800 + (n - 0x10000) / 0x400 = unit.toNat := by omega
    have trail : 0xDC00 + (n - 0x10000) % 0x400 = low.toNat := by omega
    rw [high, trail]
    simp
  | case5 unit surrogate low rest unpaired =>
    rw [utf16Decode_unpaired surrogate unpaired] at decoded
    cases decoded

theorem nul_of_zero_unit (character : Char) (zero : 0 ∈ utf16EncodeChar character) : character = nul := by
  have positive {n : Nat} (above : 0 < n) (small : n < 65536) : (0 : UInt16) ≠ n.toUInt16 := by
    intro same
    have value := congrArg UInt16.toNat same
    rw [UInt16.toNat_ofNat_of_lt' small] at value
    exact Nat.ne_of_lt above value
  have range := toNat_range character
  unfold utf16EncodeChar at zero
  split at zero
  · rename_i small
    by_cases above : 0 < character.toNat
    · exact absurd (List.mem_singleton.mp zero) (positive above small)
    · exact Char.toNat_inj.mp (Nat.eq_zero_of_not_pos above)
  · rcases List.mem_cons.mp zero with high | low
    · exact absurd high (positive (by omega) (by omega))
    · exact absurd (List.mem_singleton.mp low) (positive (by omega) (by omega))

/-- UTF-16 -/
def utf16 : EncodingForm UInt16 where
  encodeChar := utf16EncodeChar
  decode := utf16Decode
  zero := 0
  decode_encode := utf16Decode_encode
  encode_of_decode := utf16Encode_of_decode
  encode_nul := rfl
  nul_of_zero := nul_of_zero_unit

end Utf16
end Osxrdp.CodeUnits
