import Osxrdp.Keyboard

/-! One handler serves every connection, and a `Synchronize` changes nothing in
it. What a later client sees of the modifiers that an earlier one left pressed. -/
namespace Osxrdp.StuckModifiers
open Keyboard

/-- The direction in which the input strokes a key of the modifier. -/
def strokeOf (modifier : Modifier) (input : Input) : Option Bool :=
  input.stroke.bind fun stroke => if modifierOf stroke.code = some modifier then some stroke.down else none

/-- The last stroke of the modifier went down. -/
def LeftPressed (modifier : Modifier) (inputs : List Input) : Prop :=
  (inputs.filterMap (strokeOf modifier)).getLast? = some true

/-- The next stroke of the modifier is a press, or posts nothing, and no key
event is posted before it. -/
def Shielded (modifier : Modifier) (inputs : List Input) : Prop :=
  Runs.Throughout (fun before input => (∀ earlier ∈ before, strokeOf modifier earlier = none) →
    input.PostsKey → strokeOf modifier input = some true) inputs

section Strokes
variable {modifier : Modifier} {handler twin : MacInputHandler} {input : Input} {inputs rest : List Input}

/-- A stroke of a modifier sets its flag, and nothing else does. -/
theorem pressed_handle (handler : MacInputHandler) (input : Input) :
    (handler.handle input).1.pressed modifier =
      (strokeOf modifier input).getD (handler.pressed modifier) := by
  unfold strokeOf
  cases stroked : input.stroke with
  | none => exact pressed_handle_of_none stroked
  | some stroke =>
    rw [pressed_handle_of_stroke stroked, Option.bind_some]
    by_cases own : modifierOf stroke.code = some modifier
    · rw [if_pos own, if_pos own]
      rfl
    · rw [if_neg own, if_neg own]
      rfl

/-- The flag kept is that of the last stroke. -/
theorem pressed_after (handler : MacInputHandler) (inputs : List Input) :
    (handler.after inputs).pressed modifier =
      ((inputs.filterMap (strokeOf modifier)).getLast?).getD (handler.pressed modifier) := by
  induction inputs generalizing handler with
  | nil => rfl
  | cons input rest ih =>
    change ((handler.handle input).1.after rest).pressed modifier = _
    rw [ih, pressed_handle, List.filterMap_cons]
    cases strokeOf modifier input with
    | none => rfl
    | some down => cases (rest.filterMap (strokeOf modifier)) <;> simp [List.getLast?_cons]

private theorem pressed_after_new : (MacInputHandler.new.after inputs).pressed modifier = true ↔
    LeftPressed modifier inputs := by
  rw [pressed_after, pressed_new, LeftPressed]
  cases (inputs.filterMap (strokeOf modifier)).getLast? <;> simp

theorem shielded_cons : Shielded modifier (input :: rest) ↔
    (input.PostsKey → strokeOf modifier input = some true) ∧
      (strokeOf modifier input = none → Shielded modifier rest) := by
  unfold Shielded
  rw [Runs.throughout_cons]
  refine and_congr (by simp) ?_
  constructor
  · intro all silent
    refine all.imp fun before later shielded before_silent => shielded ?_
    exact List.forall_mem_cons.mpr ⟨silent, before_silent⟩
  · intro all before later after split silent
    exact all (silent input (by simp)) before later after split
      fun earlier member => silent earlier (List.mem_cons_of_mem _ member)

private theorem shielded_cons_of_silent (silent : input.stroke = none) :
    Shielded modifier (input :: rest) ↔ Shielded modifier rest := by
  have unposted : ¬ input.PostsKey := fun posts => by
    obtain ⟨stroke, stroked⟩ := stroke_of_postsKey posts
    cases silent.symm.trans stroked
  have strokes : strokeOf modifier input = none := by simp [strokeOf, silent]
  simp [shielded_cons, unposted, strokes]

end Strokes

section Twins
variable {handler twin : MacInputHandler} {modifier : Modifier} {input : Input} {stroke : Stroke}
  {inputs : List Input}

/-- Two handlers differ in a flag after an input if they did so before, and it
was no stroke of that modifier. -/
theorem differs_handle :
    (handler.handle input).1.pressed modifier ≠ (twin.handle input).1.pressed modifier ↔
      strokeOf modifier input = none ∧ handler.pressed modifier ≠ twin.pressed modifier := by
  rw [pressed_handle, pressed_handle]
  cases strokeOf modifier input <;> simp

private theorem strokeOf_cases (modifier : Modifier) (stroked : input.stroke = some stroke) :
    strokeOf modifier input = none ∨ strokeOf modifier input = some stroke.down := by
  simp only [strokeOf, stroked, Option.bind_some]
  by_cases own : modifierOf stroke.code = some modifier
  · exact .inr (if_pos own)
  · exact .inl (if_neg own)

/-- The flags a stroke is posted with agree in what the two handlers agree in,
and in what the stroke itself presses. -/
theorem flag_eq_iff (stroked : input.stroke = some stroke) :
    (if stroke.down then (handler.handle input).1 else handler).pressed modifier =
        (if stroke.down then (twin.handle input).1 else twin).pressed modifier ↔
      (handler.pressed modifier ≠ twin.pressed modifier → strokeOf modifier input = some true) := by
  cases down : stroke.down with
  | true =>
    rw [if_pos rfl, if_pos rfl, ← not_ne_iff, differs_handle]
    rcases strokeOf_cases modifier stroked with silent | sets
    · simp [silent]
    · simp [sets, down]
  | false =>
    have never : strokeOf modifier input ≠ some true := by
      rcases strokeOf_cases modifier stroked with silent | sets
      · simp [silent]
      · simp [sets, down]
    rw [if_neg Bool.false_ne_true, if_neg Bool.false_ne_true]
    simp [never]

private theorem attached_handle (handler : MacInputHandler) (input : Input) :
    (attachedFlags (handler.handle input).2).length = if input.PostsKey then 1 else 0 := by
  cases stroked : input.stroke with
  | none =>
    have unposted : ¬ input.PostsKey := fun posts => by
      obtain ⟨stroke, strokes⟩ := stroke_of_postsKey posts
      cases stroked.symm.trans strokes
    rw [attached_handle_of_none stroked, if_neg unposted, List.length_nil]
  | some stroke =>
    rw [attached_handle_of_stroke stroked]
    split <;> rfl

/-- One input is posted with the same flags if it sets every flag that the
handlers differ in. -/
theorem attached_handle_eq_iff :
    attachedFlags (handler.handle input).2 = attachedFlags (twin.handle input).2 ↔
      ∀ modifier, handler.pressed modifier ≠ twin.pressed modifier →
        input.PostsKey → strokeOf modifier input = some true := by
  by_cases posts : input.PostsKey
  · obtain ⟨stroke, stroked⟩ := stroke_of_postsKey posts
    rw [attached_handle_of_stroke stroked, attached_handle_of_stroke stroked, if_pos posts, if_pos posts,
      List.singleton_inj, CGEventFlags.eq_iff_contains]
    simp only [posts, true_imp_iff]
    exact forall_congr' fun modifier => flag_eq_iff stroked
  · have nothing : ∀ handler : MacInputHandler, attachedFlags (handler.handle input).2 = [] := fun handler =>
      List.eq_nil_of_length_eq_zero (by rw [attached_handle, if_neg posts])
    rw [nothing, nothing]
    exact iff_of_true rfl fun modifier differs posted => (posts posted).elim

/-- Two handlers post a sequence with the same flags exactly when it shields
every modifier that they differ in. -/
theorem attached_posted_eq_iff :
    attachedFlags (handler.posted inputs) = attachedFlags (twin.posted inputs) ↔
      ∀ modifier, handler.pressed modifier ≠ twin.pressed modifier → Shielded modifier inputs := by
  induction inputs generalizing handler twin with
  | nil => exact iff_of_true rfl fun modifier _ => Runs.throughout_nil
  | cons input rest ih =>
    have lengths : (attachedFlags (handler.handle input).2).length =
        (attachedFlags (twin.handle input).2).length := by
      rw [attached_handle, attached_handle]
    have parts : attachedFlags (handler.posted (input :: rest)) =
          attachedFlags (twin.posted (input :: rest)) ↔
        attachedFlags (handler.handle input).2 = attachedFlags (twin.handle input).2 ∧
          attachedFlags ((handler.handle input).1.posted rest) =
            attachedFlags ((twin.handle input).1.posted rest) := by
      simp only [MacInputHandler.posted, attachedFlags, List.filterMap_append]
      exact ⟨fun same => List.append_inj same lengths, fun both => congrArg₂ _ both.1 both.2⟩
    rw [parts, attached_handle_eq_iff, ih, ← forall_and]
    refine forall_congr' fun modifier => ?_
    rw [differs_handle, shielded_cons]
    constructor
    · rintro ⟨first, later⟩ differs
      exact ⟨first differs, fun silent => later ⟨silent, differs⟩⟩
    · intro all
      exact ⟨fun differs => (all differs).1, fun both => (all both.2).2 both.1⟩

end Twins

/-- **Modifiers of earlier connections.** The events of a later connection carry
the flags a new handler would give them exactly when its inputs shield every
modifier that was left pressed. -/
theorem flags_are_those_of_a_new_handler_iff (earlier later : List Input) (flags : UInt8) (created : Bool) :
    attachedFlags ((MacInputHandler.new.after earlier).posted
        (.keyboard (.synchronize flags) created :: later)) =
      attachedFlags (MacInputHandler.new.posted (.keyboard (.synchronize flags) created :: later)) ↔
    ∀ modifier, LeftPressed modifier earlier → Shielded modifier later := by
  rw [attached_posted_eq_iff]
  refine forall_congr' fun modifier => ?_
  rw [pressed_new, ne_eq, Bool.not_eq_false, pressed_after_new, shielded_cons_of_silent rfl]

/-- A history is harmless to every later connection when it leaves no modifier
pressed. -/
theorem history_is_harmless_iff (earlier : List Input) (flags : UInt8) (created : Bool) :
    (∀ later, attachedFlags ((MacInputHandler.new.after earlier).posted
        (.keyboard (.synchronize flags) created :: later)) =
      attachedFlags (MacInputHandler.new.posted (.keyboard (.synchronize flags) created :: later))) ↔
    ∀ modifier, ¬ LeftPressed modifier earlier := by
  simp only [flags_are_those_of_a_new_handler_iff]
  constructor
  · intro all modifier left
    -- A letter is posted with whatever flags are left.
    have typed := all [.keyboard (.pressed 0x1E false) true] modifier left
    have letter := (shielded_cons.mp typed).1 (by decide)
    cases modifier <;> exact absurd letter (by decide)
  · exact fun none later modifier left => (none modifier left).elim

/-- A client that vanishes while it holds Command, and a letter typed by the next. -/
theorem command_is_left_pressed :
    attachedFlags ((MacInputHandler.new.after [.keyboard (.pressed 0x5B true) true]).posted
        [.keyboard (.synchronize 0) true, .keyboard (.pressed 0x1E false) true]) ≠
      attachedFlags (MacInputHandler.new.posted
        [.keyboard (.synchronize 0) true, .keyboard (.pressed 0x1E false) true]) := by
  decide

end Osxrdp.StuckModifiers
