import Osxrdp.Bytes

/-! Encoding into a cursor over a buffer of fixed size. An encoding is given the
room that is left. It panics, fails, or writes bytes; that it writes exactly as
many as it was sized for is proved part by part. -/
namespace Osxrdp.WireEncoding

/-- Why a value cannot be encoded. -/
inductive EncodeError where
  | notEnoughBytes (context : String) (received expected : Nat)
  | invalidField (field : String)
  deriving DecidableEq, Repr

/-- `none` is a panic. -/
abbrev Encoding := Nat → Option (Except EncodeError (Bytes))

namespace Encoding

/-- Writing past the end of the buffer panics. -/
def write (bytes : Bytes) : Encoding := fun room =>
  if bytes.length ≤ room then some (.ok bytes) else none

/-- The code would panic. -/
def panic : Encoding := fun _ => none

/-- The value is refused. -/
def fail (error : EncodeError) : Encoding := fun _ => some (.error error)

/-- Refuse a buffer with less than `size` bytes left. -/
def ensureSize (context : String) (size : Nat) (body : Encoding) : Encoding := fun room =>
  if size ≤ room then body room else some (.error (.notEnoughBytes context room size))

/-- One encoding after the other, in the room that the first leaves. -/
def andThen (first second : Encoding) : Encoding := fun room =>
  match first room with
  | some (.ok bytes) => (second (room - bytes.length)).map fun result => result.map (bytes ++ ·)
  | failed => failed

/-- Encodings one after the other. -/
def all (encodings : List Encoding) : Encoding := encodings.foldr andThen (write [])

/-- With `size` bytes left or more the encoding writes exactly `size`. -/
def Fills (encoding : Encoding) (size : Nat) : Prop :=
  ∀ room, size ≤ room → ∃ bytes, encoding room = some (.ok bytes) ∧ bytes.length = size

variable {first second body : Encoding} {size later : Nat}

theorem write_fills (bytes : Bytes) : (write bytes).Fills bytes.length := by
  intro room fits
  exact ⟨bytes, if_pos fits, rfl⟩

/-- Room that is ensured can be filled. -/
theorem Fills.ensureSize (fills : body.Fills size) (context : String) :
    (body.ensureSize context size).Fills size := by
  intro room fits
  obtain ⟨bytes, written, length⟩ := fills room fits
  exact ⟨bytes, (if_pos fits).trans written, length⟩

/-- Two encodings fill what each of them fills. -/
theorem Fills.andThen (fills : first.Fills size) (fillsLater : second.Fills later) :
    (first.andThen second).Fills (size + later) := by
  intro room fits
  obtain ⟨bytes, written, length⟩ := fills room (by omega)
  obtain ⟨more, writtenLater, lengthLater⟩ := fillsLater (room - bytes.length) (by omega)
  refine ⟨bytes ++ more, ?_, by rw [List.length_append, length, lengthLater]⟩
  simp only [Encoding.andThen, written, writtenLater, Option.map_some]
  rfl

/-- A sequence of parts of one size takes that size for each of them. -/
theorem all_fills {encodings : List Encoding} (fills : ∀ encoding ∈ encodings, encoding.Fills size) :
    (all encodings).Fills (encodings.length * size) := by
  induction encodings with
  | nil =>
    rw [List.length_nil, Nat.zero_mul]
    exact write_fills []
  | cons encoding rest ih =>
    have tail := ih fun later member => fills later (List.mem_cons_of_mem _ member)
    have whole := (fills encoding (by simp)).andThen tail
    rwa [List.length_cons, Nat.succ_mul, Nat.add_comm]

/-- In a buffer with room for them the encoding writes these bytes. -/
def Writes (encoding : Encoding) (bytes : Bytes) : Prop :=
  ∀ room, bytes.length ≤ room → encoding room = some (.ok bytes)

/-- What `write` writes. -/
theorem write_writes (bytes : Bytes) : (write bytes).Writes bytes := fun _ fits => if_pos fits

/-- What is written into the room that is ensured. -/
theorem Writes.ensureSize {bytes : Bytes} (writes : body.Writes bytes) (context : String)
    (enough : size ≤ bytes.length) : (body.ensureSize context size).Writes bytes := by
  intro room fits
  exact (if_pos (Nat.le_trans enough fits)).trans (writes room fits)

/-- What two encodings write in a row. -/
theorem Writes.andThen {bytes more : Bytes} (writes : first.Writes bytes) (writesLater : second.Writes more) :
    (first.andThen second).Writes (bytes ++ more) := by
  intro room fits
  rw [List.length_append] at fits
  have written := writes room (by omega)
  have writtenLater := writesLater (room - bytes.length) (by omega)
  simp only [Encoding.andThen, written, writtenLater, Option.map_some]
  rfl

theorem write_eq_ok {room : Nat} {bytes written : Bytes} (ran : write bytes room = some (.ok written)) :
    written = bytes := by
  unfold write at ran
  split at ran
  · cases ran
    rfl
  · cases ran

/-- What ensures its room has it. -/
theorem ensureSize_eq_ok {room : Nat} {bytes : Bytes} {context : String}
    (ran : body.ensureSize context size room = some (.ok bytes)) : size ≤ room ∧ body room = some (.ok bytes) := by
  unfold Encoding.ensureSize at ran
  split at ran
  · exact ⟨‹_›, ran⟩
  · cases ran

/-- Two encodings that were written were written in a row. -/
theorem andThen_eq_ok {room : Nat} {bytes : Bytes} (ran : first.andThen second room = some (.ok bytes)) :
    ∃ head tail, first room = some (.ok head) ∧ second (room - head.length) = some (.ok tail) ∧
      bytes = head ++ tail := by
  simp only [Encoding.andThen] at ran
  split at ran
  · rename_i head written
    cases later : second (room - head.length) with
    | none =>
      rw [later] at ran
      cases ran
    | some result =>
      rw [later] at ran
      cases result with
      | error error => cases ran
      | ok tail =>
        cases ran
        exact ⟨head, tail, written, later, rfl⟩
  · rename_i failed
    exact (failed bytes ran).elim

/-- A sequence is written where each of its parts is. -/
theorem all_eq_ok {encodings : List Encoding} {room : Nat} {bytes : Bytes}
    (ran : all encodings room = some (.ok bytes)) :
    ∀ encoding ∈ encodings, ∃ room bytes, encoding room = some (.ok bytes) := by
  induction encodings generalizing room bytes with
  | nil => exact List.forall_mem_nil _
  | cons encoding rest ih =>
    obtain ⟨_, _, first, later, _⟩ := andThen_eq_ok ran
    exact List.forall_mem_cons.mpr ⟨⟨_, _, first⟩, ih later⟩

/-- A sequence of parts writes their bytes in order. -/
theorem all_writes {α : Type} {encode : α → Encoding} {bytes : α → Bytes} {values : List α}
    (writes : ∀ value ∈ values, (encode value).Writes (bytes value)) :
    (all (values.map encode)).Writes (values.flatMap bytes) := by
  induction values with
  | nil => exact write_writes []
  | cons value rest ih =>
    rw [List.flatMap_cons]
    exact (writes value (by simp)).andThen (ih fun later member => writes later (List.mem_cons_of_mem _ member))

end Encoding

end Osxrdp.WireEncoding
