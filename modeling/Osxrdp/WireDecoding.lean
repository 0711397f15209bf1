import Mathlib.Data.List.Forall2
import Osxrdp.Bytes

/-! Decoding from a cursor over a slice of bytes. A read past the end panics; a
decoder that checks its room first fails instead. What a decoder accepts is a
relation between values and bytes, and both it and the absence of panics are
proved part by part. -/
namespace Osxrdp.WireDecoding
open Bytes

/-- Why bytes are refused. -/
inductive DecodeError where
  | notEnoughBytes (received expected : Nat)
  | invalidField (field reason : String)
  deriving DecidableEq, Repr

/-- A decoder takes the bytes that are left to a value and the bytes left then;
`none` is a panic. -/
def Decoding (α : Type) := Bytes → Option (Except DecodeError (α × Bytes))

namespace Decoding
variable {α β : Type} {room count : Nat} {d otherwise : Decoding α} {f : α → Decoding β} {src rest : Bytes} {a : α}

instance : Monad Decoding where
  pure a := fun src => some (.ok (a, src))
  bind d f := fun src => match d src with
    | some (.ok (a, rest)) => f a rest
    | some (.error error) => some (.error error)
    | none => none

/-- The bytes are refused. -/
def fail (error : DecodeError) : Decoding α := fun _ => some (.error error)

/-- The code would panic. -/
def panic : Decoding α := fun _ => none

/-- Reading past the end of the slice panics. -/
def readSlice (count : Nat) : Decoding (Bytes) := fun src =>
  if count ≤ src.length then some (.ok (src.take count, src.drop count)) else none

/-- Refuse a slice with less than `count` bytes left. -/
def ensureSize (count : Nat) : Decoding Unit := fun src =>
  if count ≤ src.length then some (.ok ((), src))
  else some (.error (.notEnoughBytes src.length count))

/-- A number of so many bytes, low ones first. -/
def readNat (width : Nat) : Decoding Nat := do
  return fromLittleEndian (← readSlice width)

def readU8 : Decoding UInt8
  | [] => none
  | byte :: rest => some (.ok (byte, rest))

def readU16 : Decoding UInt16 := do
  return (← readNat 2).toUInt16

def readU32 : Decoding UInt32 := do
  return (← readNat 4).toUInt32

def readI32 : Decoding Int32 := do
  return (← readU32).toInt32

def readU64 : Decoding UInt64 := do
  return (← readNat 8).toUInt64

def readU16Be : Decoding UInt16 := do
  return (fromLittleEndian (← readSlice 2).reverse).toUInt16

def readU32Be : Decoding UInt32 := do
  return (fromLittleEndian (← readSlice 4).reverse).toUInt32

/-- The number of bytes that are left. -/
def remaining : Decoding Nat := fun src => some (.ok (src.length, src))

/-- A subtraction that panics where it would overflow. -/
def subtract (minuend subtrahend : Nat) : Decoding Nat :=
  if subtrahend ≤ minuend then pure (minuend - subtrahend) else panic

/-- Decode from other bytes, whatever it leaves of them. -/
def within (data : Bytes) (d : Decoding α) : Decoding α := fun src =>
  match d data with
  | some (.ok (a, _)) => some (.ok (a, src))
  | some (.error error) => some (.error error)
  | none => none

/-- Decode a number of times, up to the first failure. -/
def times : Nat → Decoding α → Decoding (List α)
  | 0, _ => pure []
  | count + 1, d => do
    let first ← d
    let later ← times count d
    return first :: later

/-- Decode again and again while `count` bytes are left, at most `fuel` times. -/
def whileLeft (count : Nat) (d : Decoding α) : Nat → Decoding (List α)
  | 0 => pure []
  | fuel + 1 => fun src =>
    if count ≤ src.length then
      (do
        let first ← d
        let later ← whileLeft count d fuel
        return first :: later) src
    else some (.ok ([], src))

/-- Where fewer than `count` bytes are left, what happens `otherwise`. -/
def whenLeft (count : Nat) (otherwise d : Decoding α) : Decoding α := fun src =>
  if src.length < count then otherwise src else d src

/-- What is decoded of a whole buffer; the bytes that are left are not looked at. -/
def decoded (d : Decoding α) (src : Bytes) : Option α :=
  match d src with
  | some (.ok (a, _)) => some a
  | _ => none

/-- Two decoders in a row take what each of them takes. -/
theorem bind_eq_ok {b : β} : (d >>= f) src = some (.ok (b, rest)) ↔
    ∃ a left, d src = some (.ok (a, left)) ∧ f a left = some (.ok (b, rest)) := by
  simp only [bind]
  cases ran : d src with
  | none => simp
  | some result =>
    cases result with
    | error error => simp
    | ok done =>
      obtain ⟨value, left⟩ := done
      simp

/-- What is decoded is followed by any bytes. -/
theorem decoded_eq_some : decoded d src = some a ↔ ∃ rest, d src = some (.ok (a, rest)) := by
  constructor
  · intro taken
    unfold decoded at taken
    split at taken
    · cases taken
      exact ⟨_, ‹_›⟩
    · cases taken
  · rintro ⟨rest, ran⟩
    rw [decoded, ran]

/-- A decoder goes on with what the first one left. -/
theorem bind_of_ok (ran : d src = some (.ok (a, rest))) : (d >>= f) src = f a rest := by
  simp only [bind, ran]

/-- With `room` bytes left the decoder does not panic. -/
def SafeFrom (room : Nat) (d : Decoding α) : Prop := ∀ src, room ≤ src.length → d src ≠ none

/-- With fewer than `count` bytes left the decoder panics. -/
def Needs (count : Nat) (d : Decoding α) : Prop := ∀ src, src.length < count → d src = none

/-- The decoder takes `count` bytes off, and panics where they are not left. -/
structure Takes (count : Nat) (d : Decoding α) : Prop where
  reads : ∀ src, count ≤ src.length → ∃ a rest, d src = some (.ok (a, rest)) ∧ src.length = rest.length + count
  needs : Needs count d

/-- What is decoded takes `count` bytes off. -/
def Leaves (count : Nat) (d : Decoding α) : Prop :=
  ∀ src a rest, d src = some (.ok (a, rest)) → src.length = rest.length + count

section Safety

theorem fail_safe (error : DecodeError) (room : Nat) : SafeFrom room (fail error : Decoding α) :=
  fun _ _ => nofun

theorem pure_safe (a : α) (room : Nat) : SafeFrom room (pure a : Decoding α) := fun _ _ => nofun

/-- Fewer bytes are enough too. -/
theorem SafeFrom.weaken (safe : SafeFrom room d) (less : room ≤ count) : SafeFrom count d :=
  fun src fits => safe src (Nat.le_trans less fits)

/-- What comes after a step may rest on what the step returns and leaves. -/
theorem SafeFrom.bind_left (safe : SafeFrom room d)
    (later : ∀ a src rest, room ≤ src.length → d src = some (.ok (a, rest)) → f a rest ≠ none) :
    SafeFrom room (d >>= f) := by
  intro src fits
  have first := safe src fits
  simp only [Bind.bind]
  cases ran : d src with
  | none => exact (first ran).elim
  | some result =>
    cases result with
    | error error => exact Option.some_ne_none _
    | ok done => exact later done.1 src done.2 fits ran

/-- After a step that needs all the room, the rest may not need any. -/
theorem SafeFrom.bind_read (safe : SafeFrom room d)
    (later : ∀ a src rest, d src = some (.ok (a, rest)) → SafeFrom 0 (f a)) : SafeFrom room (d >>= f) :=
  safe.bind_left fun a src rest _ ran => later a src rest ran rest (Nat.zero_le _)

/-- A decoder goes on safely from what is safe. -/
theorem SafeFrom.bind (safe : SafeFrom room d) (later : ∀ a, SafeFrom 0 (f a)) : SafeFrom room (d >>= f) :=
  safe.bind_read fun a _ _ _ => later a

/-- A difference is taken safely of a number that is no smaller. -/
theorem subtract_safe {minuend subtrahend : Nat} (within : subtrahend ≤ minuend) :
    SafeFrom 0 (subtract minuend subtrahend) := by
  intro src _
  rw [subtract, if_pos within]
  exact nofun

theorem subtract_eq {minuend subtrahend difference : Nat} {src rest : Bytes}
    (ran : subtract minuend subtrahend src = some (.ok (difference, rest))) : difference = minuend - subtrahend := by
  unfold subtract at ran
  split at ran
  · cases ran
    rfl
  · cases ran

theorem Needs.bind (needs : Needs count d) : Needs count (d >>= f) := by
  intro src short
  simp only [Bind.bind, needs src short]

/-- A decoder that takes so many bytes is safe with them. -/
theorem Takes.safe (takes : Takes count d) : SafeFrom count d := by
  intro src fits panics
  obtain ⟨a, rest, ran, _⟩ := takes.reads src fits
  rw [panics] at ran
  cases ran

theorem pure_leaves (a : α) : Leaves 0 (pure a) := by
  intro src value rest ran
  cases ran
  rfl

theorem fail_leaves (error : DecodeError) (count : Nat) : Leaves count (fail error : Decoding α) := by
  intro src value rest ran
  cases ran

/-- It leaves all others. -/
theorem Takes.leaves (takes : Takes count d) : Leaves count d := by
  intro src a rest ran
  by_cases fits : count ≤ src.length
  · obtain ⟨value, left, same, length⟩ := takes.reads src fits
    rw [ran] at same
    cases same
    exact length
  · rw [takes.needs src (Nat.lt_of_not_le fits)] at ran
    cases ran

/-- What two decoders leave adds up. -/
theorem Leaves.bind (leaves : Leaves count d) (room : Nat) (later : ∀ a, Leaves room (f a)) :
    Leaves (count + room) (d >>= f) := by
  intro src b rest ran
  obtain ⟨a, left, first, ran⟩ := bind_eq_ok.mp ran
  have taken := leaves src a left first
  have takenLater := later a left b rest ran
  omega

theorem ensureSize_leaves (leaves : Leaves room d) : Leaves room (do ensureSize count; d) := by
  intro src a rest ran
  obtain ⟨_, left, checked, ran⟩ := bind_eq_ok.mp ran
  unfold ensureSize at checked
  split at checked
  · cases checked
    exact leaves src a rest ran
  · cases checked

/-- After a step that takes `count` bytes off, what comes later has the others. -/
theorem SafeFrom.bind_leaves (safe : SafeFrom count d) (leaves : Leaves count d) (room : Nat)
    (later : ∀ a, SafeFrom room (f a)) : SafeFrom (count + room) (d >>= f) := by
  apply (safe.weaken (Nat.le_add_right count room)).bind_left
  intro a src rest fits ran
  have taken := leaves src a rest ran
  exact later a rest (by omega)

theorem Takes.bind_safe (takes : Takes count d) (room : Nat) (later : ∀ a, SafeFrom room (f a)) :
    SafeFrom (count + room) (d >>= f) := takes.safe.bind_leaves takes.leaves room later

/-- What two decoders need adds up. -/
theorem Takes.bind_needs (takes : Takes count d) (more : Nat) (later : ∀ a, Needs more (f a)) :
    Needs (count + more) (d >>= f) := by
  intro src short
  by_cases fits : count ≤ src.length
  · obtain ⟨a, rest, ran, left⟩ := takes.reads src fits
    rw [bind_of_ok ran]
    exact later a rest (by omega)
  · exact takes.needs.bind src (Nat.lt_of_not_le fits)

theorem Takes.map (takes : Takes count d) (g : α → β) : Takes count (do return g (← d)) where
  reads src fits := by
    obtain ⟨a, rest, ran, left⟩ := takes.reads src fits
    exact ⟨g a, rest, bind_of_ok ran, left⟩
  needs := takes.needs.bind

/-- A check of the room makes safe what needs no more. -/
theorem ensureSize_safe (safe : SafeFrom count d) : SafeFrom 0 (do ensureSize count; d) := by
  intro src _
  simp only [Bind.bind, ensureSize]
  by_cases fits : count ≤ src.length
  · rw [if_pos fits]
    exact safe src fits
  · rw [if_neg fits]
    exact nofun

theorem whenLeft_safe (safeOtherwise : SafeFrom 0 otherwise) (safe : SafeFrom count d) :
    SafeFrom 0 (whenLeft count otherwise d) := by
  intro src fits
  unfold whenLeft
  split
  · exact safeOtherwise src fits
  · exact safe src (by omega)

/-- A slice takes its bytes. -/
theorem readSlice_takes (count : Nat) : Takes count (readSlice count) where
  reads src fits := by
    refine ⟨src.take count, src.drop count, if_pos fits, ?_⟩
    rw [List.length_drop]
    omega
  needs src short := if_neg (Nat.not_le_of_lt short)

theorem readU8_takes : Takes 1 readU8 where
  reads src fits := by
    cases src with
    | nil => cases fits
    | cons byte rest => exact ⟨byte, rest, rfl, rfl⟩
  needs src short := by
    cases src with
    | nil => rfl
    | cons byte rest => exact absurd short (Nat.not_lt_of_le (Nat.succ_le_succ (Nat.zero_le _)))

theorem readU16_takes : Takes 2 readU16 := ((readSlice_takes 2).map _).map _

theorem readU32_takes : Takes 4 readU32 := ((readSlice_takes 4).map _).map _

theorem readI32_takes : Takes 4 readI32 := readU32_takes.map _

theorem readU16Be_takes : Takes 2 readU16Be := (readSlice_takes 2).map _

theorem readU32Be_takes : Takes 4 readU32Be := (readSlice_takes 4).map _

/-- A cursor of its own is no less safe. -/
theorem within_safe (data : Bytes) (safe : SafeFrom 0 d) : SafeFrom 0 (within data d) := by
  intro src _
  have inner := safe data (Nat.zero_le _)
  unfold within
  cases ran : d data with
  | none => exact (inner ran).elim
  | some result =>
    cases result with
    | error error => exact nofun
    | ok done => exact nofun

/-- A safe decoder may be repeated. -/
theorem times_safe (safe : SafeFrom 0 d) (count : Nat) : SafeFrom 0 (times count d) := by
  induction count with
  | zero => exact pure_safe [] 0
  | succ count ih => exact safe.bind fun first => ih.bind fun later => pure_safe (first :: later) 0

end Safety

/-- What the decoder accepts: a value whose bytes come first, the rest being left. -/
def Parses (d : Decoding α) (Format : α → Bytes → Prop) : Prop :=
  ∀ src a rest, d src = some (.ok (a, rest)) ↔ ∃ bytes, Format a bytes ∧ src = bytes ++ rest

section Formats
variable {P Q : α → Bytes → Prop} {R : α → β → Bytes → Prop}

/-- A format may be told in other words. -/
theorem Parses.congr (parses : Parses d P) (same : ∀ a bytes, P a bytes ↔ Q a bytes) : Parses d Q := by
  intro src a rest
  rw [parses src a rest]
  apply exists_congr
  intro bytes
  rw [same]

theorem pure_parses (a : α) : Parses (pure a) fun b bytes => b = a ∧ bytes = [] := by
  intro src b rest
  constructor
  · intro ran
    cases ran
    exact ⟨[], ⟨rfl, rfl⟩, rfl⟩
  · rintro ⟨_, ⟨rfl, rfl⟩, rfl⟩
    rfl

theorem fail_parses_nothing {error : DecodeError} (nothing : ∀ a bytes, ¬ P a bytes) :
    Parses (fail error) P := by
  intro src a rest
  constructor
  · intro ran
    cases ran
  · rintro ⟨bytes, impossible, _⟩
    exact absurd impossible (nothing a bytes)

/-- The format of two decoders in a row. -/
theorem Parses.bind (first : Parses d P) (later : ∀ a, Parses (f a) (R a)) :
    Parses (d >>= f) fun b bytes => ∃ a head tail, P a head ∧ R a b tail ∧ bytes = head ++ tail := by
  intro src b rest
  rw [bind_eq_ok]
  constructor
  · rintro ⟨a, left, ran, continued⟩
    obtain ⟨head, headFormat, rfl⟩ := (first src a left).mp ran
    obtain ⟨tail, tailFormat, rfl⟩ := (later a left b rest).mp continued
    exact ⟨head ++ tail, ⟨a, head, tail, headFormat, tailFormat, rfl⟩, (List.append_assoc ..).symm⟩
  · rintro ⟨_, ⟨a, head, tail, headFormat, tailFormat, rfl⟩, rfl⟩
    have ran := (first (head ++ tail ++ rest) a (tail ++ rest)).mpr ⟨head, headFormat, List.append_assoc ..⟩
    exact ⟨a, tail ++ rest, ran, (later a _ b rest).mpr ⟨tail, tailFormat, rfl⟩⟩

theorem Parses.map (parses : Parses d P) (g : α → β) :
    Parses (do return g (← d)) fun b bytes => ∃ a, b = g a ∧ P a bytes := by
  apply (parses.bind fun a => pure_parses (g a)).congr
  intro b bytes
  constructor
  · rintro ⟨a, head, tail, format, ⟨same, rfl⟩, rfl⟩
    rw [List.append_nil]
    exact ⟨a, same, format⟩
  · rintro ⟨a, same, format⟩
    exact ⟨a, bytes, [], format, ⟨same, rfl⟩, (List.append_nil bytes).symm⟩

/-- The format of a slice. -/
theorem readSlice_parses (count : Nat) :
    Parses (readSlice count) fun data bytes => bytes = data ∧ data.length = count := by
  intro src data rest
  unfold readSlice
  constructor
  · intro ran
    split at ran
    · cases ran
      exact ⟨src.take count, ⟨rfl, List.length_take_of_le ‹_›⟩, (List.take_append_drop count src).symm⟩
    · cases ran
  · rintro ⟨_, ⟨rfl, rfl⟩, rfl⟩
    rw [if_pos (by rw [List.length_append]; omega), List.take_left, List.drop_left]

theorem readNat_parses (width : Nat) :
    Parses (readNat width) fun n bytes => n < 256 ^ width ∧ bytes = littleEndian width n := by
  apply ((readSlice_parses width).map fromLittleEndian).congr
  intro n bytes
  constructor
  · rintro ⟨data, rfl, rfl, rfl⟩
    exact ⟨fromLittleEndian_lt bytes, (littleEndian_fromLittleEndian bytes).symm⟩
  · rintro ⟨small, rfl⟩
    exact ⟨littleEndian width n, (fromLittleEndian_littleEndian small).symm, rfl, littleEndian_length width n⟩

theorem readU16_parses : Parses readU16 fun v bytes => bytes = littleEndian 2 v.toNat := by
  apply ((readNat_parses 2).map Nat.toUInt16).congr
  intro v bytes
  constructor
  · rintro ⟨n, rfl, small, rfl⟩
    rw [Nat.toUInt16_eq, UInt16.toNat_ofNat_of_lt' small]
  · rintro rfl
    exact ⟨v.toNat, UInt16.ofNat_toNat.symm, v.toNat_lt, rfl⟩

theorem readU32_parses : Parses readU32 fun v bytes => bytes = littleEndian 4 v.toNat := by
  apply ((readNat_parses 4).map Nat.toUInt32).congr
  intro v bytes
  constructor
  · rintro ⟨n, rfl, small, rfl⟩
    rw [Nat.toUInt32_eq, UInt32.toNat_ofNat_of_lt' small]
  · rintro rfl
    exact ⟨v.toNat, UInt32.ofNat_toNat.symm, v.toNat_lt, rfl⟩

/-- A check of the room refuses nothing that has the format it makes room for. -/
theorem Parses.ensureSize (parses : Parses d P) (long : ∀ a bytes, P a bytes → count ≤ bytes.length) :
    Parses (do Decoding.ensureSize count; d) P := by
  intro src a rest
  rw [← parses src a rest, bind_eq_ok]
  constructor
  · rintro ⟨_, left, checked, ran⟩
    unfold Decoding.ensureSize at checked
    split at checked
    · cases checked
      exact ran
    · cases checked
  · intro ran
    obtain ⟨bytes, format, same⟩ := (parses src a rest).mp ran
    have fits : count ≤ src.length := by
      have enough := long a bytes format
      rw [same, List.length_append]
      omega
    exact ⟨(), src, if_pos fits, ran⟩

/-- The format of what is inside a slice. -/
theorem Parses.within (parses : Parses d P) (data : Bytes) :
    Parses (Decoding.within data d) fun a bytes => bytes = [] ∧ ∃ inner, P a inner ∧ inner <+: data := by
  intro src a rest
  unfold Decoding.within
  constructor
  · intro ran
    cases inner : d data with
    | none => simp [inner] at ran
    | some result =>
      cases result with
      | error error => simp [inner] at ran
      | ok done =>
        obtain ⟨value, left⟩ := done
        simp only [inner, Option.some.injEq, Except.ok.injEq, Prod.mk.injEq] at ran
        obtain ⟨rfl, rfl⟩ := ran
        obtain ⟨bytes, format, rfl⟩ := (parses data value left).mp inner
        exact ⟨[], ⟨rfl, bytes, format, List.prefix_append bytes left⟩, rfl⟩
  · rintro ⟨_, ⟨rfl, bytes, format, left, rfl⟩, rfl⟩
    rw [(parses (bytes ++ left) a left).mpr ⟨bytes, format, rfl⟩]

/-- The format of items in a row. -/
theorem Parses.times (parses : Parses d P) (count : Nat) :
    Parses (Decoding.times count d) fun values bytes =>
      values.length = count ∧ ∃ chunks, List.Forall₂ P values chunks ∧ bytes = chunks.flatten := by
  induction count with
  | zero =>
    apply (pure_parses []).congr
    intro values bytes
    constructor
    · rintro ⟨rfl, rfl⟩
      exact ⟨rfl, [], .nil, rfl⟩
    · rintro ⟨length, chunks, each, rfl⟩
      obtain rfl := List.eq_nil_of_length_eq_zero length
      cases each
      exact ⟨rfl, rfl⟩
  | succ count ih =>
    apply (parses.bind fun first => ih.map fun later => first :: later).congr
    intro values bytes
    constructor
    · rintro ⟨first, head, tail, format, ⟨later, rfl, length, chunks, each, rfl⟩, rfl⟩
      exact ⟨congrArg (· + 1) length, head :: chunks, .cons format each, rfl⟩
    · rintro ⟨length, chunks, each, rfl⟩
      cases each with
      | nil => cases length
      | cons format each =>
        exact ⟨_, _, _, format, ⟨_, rfl, Nat.succ.inj length, _, each, rfl⟩, rfl⟩

end Formats

/-- The decoder takes these bytes for this value, whatever comes after them. -/
def Reads (d : Decoding α) (bytes : Bytes) (a : α) : Prop :=
  ∀ rest, d (bytes ++ rest) = some (.ok (a, rest))

section Reading
variable {P : α → Bytes → Prop} {bytes tail : Bytes} {b : β}

/-- What has the format is read. -/
theorem Parses.reads (parses : Parses d P) (format : P a bytes) : Reads d bytes a :=
  fun rest => (parses (bytes ++ rest) a rest).mpr ⟨bytes, format, rfl⟩

theorem pure_reads (a : α) : Reads (pure a) [] a := fun _ => rfl

/-- What two decoders read in a row. -/
theorem Reads.bind (reads : Reads d bytes a) (later : Reads (f a) tail b) :
    Reads (d >>= f) (bytes ++ tail) b := by
  intro rest
  rw [List.append_assoc, bind_of_ok (reads (tail ++ rest))]
  exact later rest

theorem Reads.of_eq {b : α} (reads : Reads d bytes a) (same : a = b) : Reads d bytes b := same ▸ reads

theorem Reads.map (reads : Reads d bytes a) (g : α → β) : Reads (do return g (← d)) bytes (g a) :=
  fun rest => bind_of_ok (reads rest)

/-- Bytes of the size that is ensured are read. -/
theorem Reads.ensureSize (reads : Reads d bytes a) (enough : count ≤ bytes.length) :
    Reads (do Decoding.ensureSize count; d) bytes a := by
  intro rest
  have fits : count ≤ (bytes ++ rest).length := by
    rw [List.length_append]
    omega
  have checked : Decoding.ensureSize count (bytes ++ rest) = some (.ok ((), bytes ++ rest)) := if_pos fits
  rw [bind_of_ok checked]
  exact reads rest

/-- A slice reads its bytes. -/
theorem readSlice_reads (bytes : Bytes) : Reads (readSlice bytes.length) bytes bytes :=
  (readSlice_parses bytes.length).reads ⟨rfl, rfl⟩

theorem padding_reads (count : Nat) :
    Reads (readSlice count) (List.replicate count 0) (List.replicate count 0) := by
  have reads := readSlice_reads (List.replicate count (0 : UInt8))
  rwa [List.length_replicate] at reads

theorem readNat_reads (width : Nat) {n : Nat} (small : n < 256 ^ width) :
    Reads (readNat width) (littleEndian width n) n := (readNat_parses width).reads ⟨small, rfl⟩

theorem readU8_reads (byte : UInt8) : Reads readU8 [byte] byte := fun _ => rfl

theorem readU16_reads (n : UInt16) : Reads readU16 (littleEndian 2 n.toNat) n := readU16_parses.reads rfl

/-- A length that fits is read back. -/
theorem readU16_reads_nat {n : Nat} (small : n < UInt16.size) : Reads readU16 (littleEndian 2 n) n.toUInt16 := by
  have value : n.toUInt16.toNat = n := UInt16.toNat_ofNat_of_lt' small
  have reads := readU16_reads n.toUInt16
  rwa [value] at reads

theorem readU32_reads (n : UInt32) : Reads readU32 (littleEndian 4 n.toNat) n := readU32_parses.reads rfl

theorem readI32_reads (n : Int32) : Reads readI32 (littleEndian 4 n.toUInt32.toNat) n :=
  (readU32_reads n.toUInt32).map UInt32.toInt32

theorem readU64_reads (n : UInt64) : Reads readU64 (littleEndian 8 n.toNat) n := by
  have value : n.toNat.toUInt64 = n := UInt64.ofNat_toNat
  have reads := (readNat_reads 8 n.toNat_lt).map Nat.toUInt64
  rwa [value] at reads

private theorem slice_reads {width n : Nat} (g : Bytes → α) :
    Reads (do return g (← readSlice width)) (bigEndian width n) (g (bigEndian width n)) := by
  have reads := (readSlice_reads (bigEndian width n)).map g
  rwa [bigEndian_length] at reads

theorem readU16Be_reads (n : UInt16) : Reads readU16Be (bigEndian 2 n.toNat) n := by
  have value : fromLittleEndian (bigEndian 2 n.toNat).reverse = n.toNat := by
    rw [bigEndian, List.reverse_reverse]
    exact fromLittleEndian_littleEndian n.toNat_lt
  exact (slice_reads _).of_eq (by rw [value]; exact UInt16.ofNat_toNat)

theorem readU32Be_reads (n : UInt32) : Reads readU32Be (bigEndian 4 n.toNat) n := by
  have value : fromLittleEndian (bigEndian 4 n.toNat).reverse = n.toNat := by
    rw [bigEndian, List.reverse_reverse]
    exact fromLittleEndian_littleEndian n.toNat_lt
  exact (slice_reads _).of_eq (by rw [value]; exact UInt32.ofNat_toNat)

theorem subtract_reads {minuend subtrahend : Nat} (difference : Nat) (whole : minuend = subtrahend + difference) :
    Reads (subtract minuend subtrahend) [] difference := by
  have value : minuend - subtrahend = difference := by omega
  rw [subtract, if_pos (by omega), value]
  exact pure_reads difference

/-- As many values as were written one after the other are read. -/
theorem times_reads {γ : Type} {values : List γ} {bytes : γ → Bytes} {read : γ → α}
    (reads : ∀ value ∈ values, Reads d (bytes value) (read value)) :
    Reads (times values.length d) (values.flatMap bytes) (values.map read) := by
  induction values with
  | nil => exact pure_reads []
  | cons value rest ih =>
    have later := ih fun value member => reads value (List.mem_cons_of_mem _ member)
    rw [List.flatMap_cons]
    exact (reads value (by simp)).bind (later.map _)

/-- Values that were written one after the other are all read, and no more. -/
theorem whileLeft_reads_all {γ : Type} {values : List γ} {bytes : γ → Bytes} {read : γ → α} {fuel : Nat}
    (positive : 0 < count) (reads : ∀ value ∈ values, Reads d (bytes value) (read value))
    (long : ∀ value ∈ values, count ≤ (bytes value).length) (enough : values.length ≤ fuel) :
    whileLeft count d fuel (values.flatMap bytes) = some (.ok (values.map read, [])) := by
  induction values generalizing fuel with
  | nil => cases fuel with
    | zero => rfl
    | succ fuel => exact if_neg (Nat.not_le_of_lt positive)
  | cons value rest ih =>
    rw [List.length_cons] at enough
    obtain ⟨fuel, rfl⟩ : ∃ less, fuel = less + 1 := ⟨fuel - 1, by omega⟩
    have first := reads value (by simp) (rest.flatMap bytes)
    have later := ih (fun value member => reads value (List.mem_cons_of_mem _ member))
      (fun value member => long value (List.mem_cons_of_mem _ member)) (Nat.le_of_succ_le_succ enough)
    have fits := long value (by simp)
    simp only [List.flatMap_cons, whileLeft]
    rw [if_pos (by rw [List.length_append]; omega), bind_of_ok first, bind_of_ok later]
    rfl

/-- The decoder takes these bytes for this value where nothing comes after them. -/
def Finishes (d : Decoding α) (bytes : Bytes) (a : α) : Prop := d bytes = some (.ok (a, []))

/-- What is read in front of any bytes is read at the end. -/
theorem Reads.finishes (reads : Reads d bytes a) : Finishes d bytes a := by
  have ran := reads []
  rwa [List.append_nil] at ran

/-- What is read to the end is decoded. -/
theorem Finishes.decoded_eq (finishes : Finishes d bytes a) : decoded d bytes = some a :=
  decoded_eq_some.mpr ⟨[], finishes⟩

theorem Reads.bind_finishes (reads : Reads d bytes a) (later : Finishes (f a) tail b) :
    Finishes (d >>= f) (bytes ++ tail) b := (bind_of_ok (reads tail)).trans later

theorem Finishes.map (finishes : Finishes d bytes a) (g : α → β) : Finishes (do return g (← d)) bytes (g a) :=
  bind_of_ok finishes

theorem Finishes.of_eq {b : α} (finishes : Finishes d bytes a) (same : a = b) : Finishes d bytes b := same ▸ finishes

theorem Finishes.ensureSize (finishes : Finishes d bytes a) (enough : count ≤ bytes.length) :
    Finishes (do Decoding.ensureSize count; d) bytes a := by
  have checked : Decoding.ensureSize count bytes = some (.ok ((), bytes)) := if_pos enough
  exact (bind_of_ok checked).trans finishes

theorem Finishes.whenLeft (finishes : Finishes d bytes a) (enough : count ≤ bytes.length) :
    Finishes (whenLeft count otherwise d) bytes a := (if_neg (Nat.not_lt_of_le enough)).trans finishes

theorem whenLeft_finished (positive : 0 < count) (a : α) : Finishes (whenLeft count (pure a) d) [] a :=
  if_pos positive

end Reading

/-- Whatever the decoder takes has this property. -/
def Yields (d : Decoding α) (P : α → Prop) : Prop := ∀ src a rest, d src = some (.ok (a, rest)) → P a

section Yielding
variable {P : α → Prop} {Q : β → Prop}

theorem pure_yields (holds : P a) : Yields (pure a) P := by
  intro src value rest ran
  cases ran
  exact holds

theorem fail_yields (error : DecodeError) : Yields (fail error) P := by
  intro src value rest ran
  cases ran

/-- A decoder yields what the last one does. -/
theorem Yields.bind (first : Yields d P) (later : ∀ a, P a → Yields (f a) Q) : Yields (d >>= f) Q := by
  intro src value rest ran
  obtain ⟨a, left, taken, ran⟩ := bind_eq_ok.mp ran
  exact later a (first src a left taken) left value rest ran

/-- Nothing is asked of what is read first. -/
theorem yields_after (later : ∀ a, Yields (f a) Q) : Yields (d >>= f) Q := by
  intro src value rest ran
  obtain ⟨a, left, _, ran⟩ := bind_eq_ok.mp ran
  exact later a left value rest ran

theorem readSlice_yields (count : Nat) : Yields (readSlice count) fun bytes => bytes.length = count := by
  intro src bytes rest ran
  unfold readSlice at ran
  split at ran
  · cases ran
    rw [List.length_take]
    omega
  · cases ran

theorem times_yields (d : Decoding α) (count : Nat) :
    Yields (times count d) fun values => values.length = count := by
  induction count with
  | zero => exact pure_yields rfl
  | succ count ih =>
    apply yields_after
    intro first
    exact ih.bind fun later length => pure_yields (congrArg Nat.succ length)

/-- Items yield what each of them does. -/
theorem Yields.times (yields : Yields d P) (count : Nat) :
    Yields (times count d) fun values => ∀ a ∈ values, P a := by
  induction count with
  | zero => exact pure_yields (List.forall_mem_nil _)
  | succ count ih =>
    refine yields.bind fun first holds => ih.bind fun later holdLater => pure_yields ?_
    exact List.forall_mem_cons.mpr ⟨holds, holdLater⟩

theorem Yields.within (yields : Yields d P) (data : Bytes) : Yields (within data d) P := by
  intro src value rest ran
  unfold Decoding.within at ran
  split at ran
  · cases ran
    exact yields data _ _ ‹_›
  · cases ran
  · cases ran

theorem Yields.whenLeft {P : α → Prop} (yieldsOtherwise : Yields otherwise P) (yields : Yields d P) :
    Yields (whenLeft count otherwise d) P := by
  intro src a rest ran
  unfold Decoding.whenLeft at ran
  split at ran
  · exact yieldsOtherwise src a rest ran
  · exact yields src a rest ran

end Yielding

end Decoding
end Osxrdp.WireDecoding
