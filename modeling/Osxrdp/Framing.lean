import Osxrdp.Runs

/-! Messages that tell their own length, out of a stream that arrives in pieces.
The receiver keeps what is no whole frame yet; which frames come out does not
depend on where the stream was cut. A header that is refused ends the stream
behind the frames that are there already. -/
namespace Osxrdp.Framing

variable {β ε : Type} {find : List β → Except ε (Option Nat)} {frame buffer ahead : List β}
  {frames : List (List β)}

/-- On the start of a stream that begins with the frame, `find` tells its length
or asks for more, and it asks only where the frame is not there whole. -/
def Delimits (find : List β → Except ε (Option Nat)) (frame : List β) : Prop :=
  0 < frame.length ∧ ∀ rest bytes, bytes ≠ [] → bytes <+: frame ++ rest →
    find bytes = .ok (some frame.length) ∨ find bytes = .ok none ∧ bytes.length < frame.length

/-- The whole frames at the start of the buffer, and what is left behind them or
the error of the header there. A frame has at least one byte, so the length of
the buffer bounds their number. -/
def split (find : List β → Except ε (Option Nat)) : Nat → List β → List (List β) × Except ε (List β)
  | _, [] => ([], .ok [])
  | 0, buffer => ([], .ok buffer)
  | fuel + 1, buffer => match find buffer with
    | .error error => ([], .error error)
    | .ok none => ([], .ok buffer)
    | .ok (some length) =>
      if length ≤ buffer.length then
        let (later, left) := split find fuel (buffer.drop length)
        (buffer.take length :: later, left)
      else ([], .ok buffer)

/-- The frames of a stream that arrives in these pieces, and what is left of it;
nothing is read behind a header that is refused. -/
def receive (find : List β → Except ε (Option Nat)) : List β → List (List β) → List (List β) × Except ε (List β)
  | kept, [] => ([], .ok kept)
  | kept, piece :: pieces => match split find (kept ++ piece).length (kept ++ piece) with
    | (whole, .error error) => (whole, .error error)
    | (whole, .ok left) =>
      let (later, final) := receive find left pieces
      (whole ++ later, final)

/-- What is kept is less than the frame that is to come next. -/
def Short (kept : List β) : List (List β) → Prop
  | [] => kept = []
  | next :: _ => kept.length < next.length

/-- A buffer that is empty waits for the first frame. -/
theorem short_nil (delimits : ∀ frame ∈ frames, Delimits find frame) : Short [] frames := by
  cases frames with
  | nil => rfl
  | cons frame rest => exact (delimits frame (by simp)).1

private theorem split_waits {fuel : Nat} (nonempty : buffer ≠ []) (asks : find buffer = .ok none) :
    split find fuel buffer = ([], .ok buffer) := by
  cases fuel with
  | zero => cases buffer with
    | nil => exact (nonempty rfl).elim
    | cons _ _ => rfl
  | succ fuel => cases buffer with
    | nil => exact (nonempty rfl).elim
    | cons _ _ => simp only [split, asks]

private theorem split_finds {fuel length : Nat} (nonempty : buffer ≠ []) (found : find buffer = .ok (some length)) :
    split find (fuel + 1) buffer = if length ≤ buffer.length then
      (buffer.take length :: (split find fuel (buffer.drop length)).1, (split find fuel (buffer.drop length)).2)
    else ([], .ok buffer) := by
  cases buffer with
  | nil => exact (nonempty rfl).elim
  | cons _ _ => simp only [split, found]

/-- At the start of a stream of frames, the frames that are there whole are split off. -/
theorem split_spec (delimits : ∀ frame ∈ frames, Delimits find frame) (fuel : Nat)
    (enough : buffer.length ≤ fuel) (whole : buffer ++ ahead = frames.flatten) :
    ∃ done later kept, split find fuel buffer = (done, .ok kept) ∧ done ++ later = frames ∧
      kept ++ ahead = later.flatten ∧ Short kept later := by
  induction frames generalizing buffer fuel with
  | nil =>
    obtain ⟨rfl, rfl⟩ := List.append_eq_nil_iff.mp whole
    exact ⟨[], [], [], by simp [split], rfl, rfl, rfl⟩
  | cons frame rest ih =>
    by_cases empty : buffer = []
    · subst empty
      exact ⟨[], frame :: rest, [], by simp [split], rfl, whole, (delimits frame (by simp)).1⟩
    obtain ⟨positive, tells⟩ := delimits frame (by simp)
    have start : buffer <+: frame ++ rest.flatten := ⟨ahead, whole⟩
    by_cases fits : frame.length ≤ buffer.length
    · have found : find buffer = .ok (some frame.length) := by
        rcases tells rest.flatten buffer empty start with found | ⟨_, short⟩
        · exact found
        · omega
      obtain ⟨after, rfl⟩ := List.prefix_of_prefix_length_le (List.prefix_append _ _) start fits
      have shifted : after ++ ahead = rest.flatten := by
        rw [List.flatten_cons, List.append_assoc] at whole
        exact List.append_cancel_left whole
      rw [List.length_append] at enough
      obtain ⟨fuel, rfl⟩ : ∃ less, fuel = less + 1 := ⟨fuel - 1, by omega⟩
      obtain ⟨done, later, kept, splits, complete, remains, less⟩ :=
        ih (fun frame member => delimits frame (List.mem_cons_of_mem _ member))
          fuel (by omega) shifted
      refine ⟨frame :: done, later, kept, ?_, congrArg (frame :: ·) complete, remains, less⟩
      rw [split_finds empty found, if_pos fits, List.drop_left, List.take_left, splits]
    · have short : buffer.length < frame.length := Nat.lt_of_not_le fits
      refine ⟨[], frame :: rest, buffer, ?_, rfl, whole, short⟩
      rcases tells rest.flatten buffer empty start with found | ⟨asks, _⟩
      · obtain ⟨fuel, rfl⟩ : ∃ less, fuel = less + 1 := by
          have := List.length_pos_of_ne_nil empty
          exact ⟨fuel - 1, by omega⟩
        rw [split_finds empty found, if_neg fits]
      · exact split_waits empty asks

/-- **A stream of frames gives these frames, whatever the pieces it arrives in.** -/
theorem receive_pieces (delimits : ∀ frame ∈ frames, Delimits find frame) (pieces : List (List β))
    (whole : buffer ++ pieces.flatten = frames.flatten) (short : Short buffer frames) :
    receive find buffer pieces = (frames, .ok []) := by
  induction pieces generalizing buffer frames with
  | nil =>
    cases frames with
    | nil =>
      cases short
      rfl
    | cons frame rest =>
      have length := congrArg List.length whole
      simp only [List.flatten_nil, List.flatten_cons, List.append_nil, List.length_append] at length
      have less : buffer.length < frame.length := short
      omega
  | cons piece pieces ih =>
    rw [List.flatten_cons, ← List.append_assoc] at whole
    obtain ⟨done, later, kept, splits, rfl, remains, less⟩ := split_spec delimits _ (Nat.le_refl _) whole
    have onward := ih (fun frame member => delimits frame (List.mem_append_right _ member)) remains less
    simp only [receive, splits, onward]

/-- A frame was cut off a buffer, where `find` told. -/
def Cut (find : List β → Except ε (Option Nat)) (frame : List β) : Prop :=
  ∃ buffer n, find buffer = .ok (some n) ∧ n ≤ buffer.length ∧ frame = buffer.take n

/-- Every piece that is split off was cut by `find`. -/
theorem split_cuts {fuel : Nat} {whole : List β} : ∀ frame ∈ (split find fuel whole).1, Cut find frame := by
  induction fuel generalizing whole with
  | zero =>
    cases whole <;> exact List.forall_mem_nil _
  | succ fuel ih =>
    by_cases empty : whole = []
    · subst empty
      exact List.forall_mem_nil _
    cases told : find whole with
    | error error =>
      cases whole with
      | nil => exact (empty rfl).elim
      | cons head rest =>
        simp only [split, told]
        exact List.forall_mem_nil _
    | ok found => cases found with
      | none =>
        rw [split_waits empty told]
        exact List.forall_mem_nil _
      | some n =>
        rw [split_finds empty told]
        split
        · rename_i fits
          intro frame member
          rcases List.mem_cons.mp member with rfl | member
          · exact ⟨whole, n, told, fits, rfl⟩
          · exact ih frame member
        · exact List.forall_mem_nil _

/-- Whatever arrives, every frame that comes of it was cut off where `find` told. -/
theorem receive_cuts {kept : List β} {pieces : List (List β)} :
    ∀ frame ∈ (receive find kept pieces).1, Cut find frame := by
  induction pieces generalizing kept with
  | nil => exact List.forall_mem_nil _
  | cons piece pieces ih =>
    have cuts : ∀ frame ∈ (split find (kept ++ piece).length (kept ++ piece)).1, Cut find frame := split_cuts
    rw [receive]
    cases splits : split find (kept ++ piece).length (kept ++ piece) with
    | mk whole left =>
      rw [splits] at cuts
      cases left with
      | error error => exact cuts
      | ok left =>
        intro frame member
        rcases List.mem_append.mp member with member | member
        · exact cuts frame member
        · exact ih frame member

/-- What succeeds on every frame succeeds on all of them. -/
theorem mapM_of_forall {γ δ : Type} {decode : γ → Option δ} {decoded : γ → δ} {values : List γ}
    (each : ∀ value ∈ values, decode value = some (decoded value)) :
    values.mapM decode = some (values.map decoded) := by
  induction values with
  | nil => rfl
  | cons value rest ih =>
    rw [List.mapM_cons, each value (by simp), ih fun later member => each later (List.mem_cons_of_mem _ member)]
    rfl

end Osxrdp.Framing
