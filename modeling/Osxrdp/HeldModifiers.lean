import Mathlib.Data.List.Induction
import Osxrdp.Keyboard

/-! Which modifier keys are held, key by key, and when the handler's flags agree:
it keeps one flag for the two keys of a modifier. -/
namespace Osxrdp.HeldModifiers
open Keyboard

/-- A modifier key of the client's keyboard. -/
structure ModifierKey where
  modifier : Modifier
  right : Bool
  deriving DecidableEq, Repr

/-- The other key of the same modifier. -/
def ModifierKey.other (key : ModifierKey) : ModifierKey := { key with right := !key.right }

/-- The two keys of Option and of Control share a scancode; the right one is
extended. -/
def modifierKey (code : UInt8) (extended : Bool) : Option ModifierKey :=
  if code = 0x5B then some ⟨.command, false⟩
  else if code = 0x5C then some ⟨.command, true⟩
  else if code = 0x2A then some ⟨.shift, false⟩
  else if code = 0x36 then some ⟨.shift, true⟩
  else if code = 0x38 then some ⟨.alternate, extended⟩
  else if code = 0x1D then some ⟨.control, extended⟩
  else none

/-- The modifier key that an input presses or releases. -/
def keyStroke (input : Input) : Option (ModifierKey × Bool) :=
  input.stroke.bind fun stroke =>
    (modifierKey stroke.code stroke.extended).map fun key => (key, stroke.down)

/-- The key has been pressed, and not released since. -/
def Held (key : ModifierKey) (past : List Input) : Prop :=
  ∃ before press after, past = before ++ press :: after ∧ keyStroke press = some (key, true) ∧
    ∀ later ∈ after, keyStroke later ≠ some (key, false)

/-- At least one key of the modifier is held. -/
def Down (modifier : Modifier) (past : List Input) : Prop := ∃ right, Held ⟨modifier, right⟩ past

/-- The flags of a new handler after these inputs are those of the keys held. -/
def Tracks (past : List Input) : Prop :=
  ∀ modifier, (MacInputHandler.new.after past).pressed modifier = true ↔ Down modifier past

/-- A key event posted for the input carries the modifiers held: those after a
key went down, those before it came up. -/
def CarriesHeld (past : List Input) (input : Input) : Prop :=
  ∀ keyCode down flags, .key keyCode down flags ∈ ((MacInputHandler.new.after past).handle input).2 →
    ∀ modifier, flags.contains modifier = true ↔
      Down modifier (if down then past ++ [input] else past)

/-- The input does not release a key of a modifier whose other key is held. -/
def ReleasesAlone (past : List Input) (input : Input) : Prop :=
  ∀ key, keyStroke input = some (key, false) → ¬ Held key.other past

section Holding
variable {past : List Input} {input : Input} {key : ModifierKey} {modifier : Modifier}

@[simp] private theorem not_held_nil : ¬ Held key [] := by
  rintro ⟨before, press, after, split, _⟩
  simp at split

/-- A press holds its key, a release lets go of it, and nothing else matters. -/
theorem held_concat : Held key (past ++ [input]) ↔
    keyStroke input = some (key, true) ∨ keyStroke input ≠ some (key, false) ∧ Held key past := by
  constructor
  · rintro ⟨before, press, after, split, presses, kept⟩
    obtain rfl | ⟨shorter, last, rfl⟩ := List.eq_nil_or_concat after
    · obtain ⟨rfl, same⟩ := List.append_inj' split rfl
      cases same
      exact .inl presses
    · rw [List.concat_eq_append, ← List.cons_append, ← List.append_assoc] at split
      obtain ⟨rfl, same⟩ := List.append_inj' split rfl
      cases same
      refine .inr ⟨kept input (by simp), before, press, shorter, rfl, presses, ?_⟩
      exact fun later member => kept later (by simp [member])
  · rintro (presses | ⟨keeps, before, press, after, rfl, presses, kept⟩)
    · exact ⟨past, input, [], rfl, presses, by simp⟩
    · refine ⟨before, press, after ++ [input], by simp, presses, fun later member => ?_⟩
      rcases List.mem_append.mp member with among | last
      · exact kept later among
      · cases List.mem_singleton.mp last
        exact keeps

private theorem held_concat_of_press (presses : keyStroke input = some (key, true)) : Held key (past ++ [input]) :=
  held_concat.mpr (.inl presses)

private theorem not_held_concat_of_release (releases : keyStroke input = some (key, false)) :
    ¬ Held key (past ++ [input]) := by
  rw [held_concat, releases]
  simp

private theorem held_concat_of_other (otherwise : ∀ down, keyStroke input ≠ some (key, down)) :
    Held key (past ++ [input]) ↔ Held key past := by
  simp [held_concat, otherwise]

private theorem ModifierKey.eq_or_other (first second : ModifierKey) (same : first.modifier = second.modifier) :
    first = second ∨ first = second.other := by
  obtain ⟨modifier, right⟩ := first
  obtain ⟨_, right'⟩ := second
  cases same
  cases right <;> cases right' <;> simp [ModifierKey.other]

/-- A modifier is down when either of its keys is held. -/
theorem down_iff_key (key : ModifierKey) :
    Down key.modifier past ↔ Held key past ∨ Held key.other past := by
  obtain ⟨modifier, right⟩ := key
  constructor
  · rintro ⟨side, held⟩
    rcases ModifierKey.eq_or_other ⟨modifier, side⟩ ⟨modifier, right⟩ rfl with same | same
    · exact .inl (same ▸ held)
    · exact .inr (same ▸ held)
  · rintro (held | held)
    · exact ⟨right, held⟩
    · exact ⟨!right, held⟩

/-- The flags tell modifiers apart, but not the two keys of one. -/
theorem modifierOf_eq (code : UInt8) (extended : Bool) :
    modifierOf code = (modifierKey code extended).map ModifierKey.modifier := by
  unfold modifierOf modifierKey
  simp only [MacInputHandler.scanCmd, MacInputHandler.scanCmdRight, MacInputHandler.scanAlt,
    MacInputHandler.scanShift, MacInputHandler.scanShiftRight, MacInputHandler.scanCtrl]
  by_cases command : code = 0x5B
  · simp [command]
  by_cases commandRight : code = 0x5C
  · simp [commandRight]
  by_cases shift : code = 0x2A
  · simp [shift]
  by_cases shiftRight : code = 0x36
  · simp [shiftRight]
  by_cases alternate : code = 0x38
  · simp [alternate]
  by_cases control : code = 0x1D
  · simp [control]
  simp [command, commandRight, shift, shiftRight, alternate, control]

/-- What an input does to the flag of a modifier, in terms of its keys. -/
theorem pressed_handle {handler : MacInputHandler} {down : Bool}
    (strokes : keyStroke input = some (key, down)) :
    (handler.handle input).1.pressed modifier =
      if key.modifier = modifier then down else handler.pressed modifier := by
  obtain ⟨stroke, stroked, same⟩ := Option.bind_eq_some_iff.mp strokes
  obtain ⟨found, isKey, pair⟩ := Option.map_eq_some_iff.mp same
  cases pair
  rw [pressed_handle_of_stroke stroked, modifierOf_eq stroke.code stroke.extended, isKey]
  simp

private theorem pressed_handle_of_ordinary {handler : MacInputHandler} (ordinary : keyStroke input = none) :
    (handler.handle input).1.pressed modifier = handler.pressed modifier := by
  cases stroked : input.stroke with
  | none => exact pressed_handle_of_none stroked
  | some stroke =>
    have unknown : modifierKey stroke.code stroke.extended = none := by
      simpa [keyStroke, stroked] using ordinary
    rw [pressed_handle_of_stroke stroked, modifierOf_eq stroke.code stroke.extended, unknown]
    simp

end Holding

section Tracking
variable {past inputs : List Input} {input : Input} {key : ModifierKey} {modifier : Modifier}

private theorem down_concat_of_ordinary (ordinary : keyStroke input = none) :
    Down modifier (past ++ [input]) ↔ Down modifier past := by
  refine exists_congr fun right => held_concat_of_other fun down => ?_
  rw [ordinary]
  exact Option.some_ne_none _ |>.symm

private theorem down_concat_of_elsewhere {down : Bool} (strokes : keyStroke input = some (key, down))
    (elsewhere : key.modifier ≠ modifier) : Down modifier (past ++ [input]) ↔ Down modifier past := by
  refine exists_congr fun right => held_concat_of_other fun way same => ?_
  cases strokes.symm.trans same
  exact elsewhere rfl

private theorem down_concat_of_press (presses : keyStroke input = some (key, true)) :
    Down key.modifier (past ++ [input]) :=
  (down_iff_key key).mpr (.inl (held_concat_of_press presses))

private theorem down_concat_of_release (releases : keyStroke input = some (key, false)) :
    Down key.modifier (past ++ [input]) ↔ Held key.other past := by
  have apart : key ≠ key.other := by
    obtain ⟨modifier, right⟩ := key
    cases right <;> simp [ModifierKey.other]
  have other : Held key.other (past ++ [input]) ↔ Held key.other past := by
    refine held_concat_of_other fun down same => apart ?_
    exact congrArg Prod.fst (Option.some_inj.mp (releases.symm.trans same))
  rw [down_iff_key key, other]
  exact or_iff_right (not_held_concat_of_release releases)

/-- One input keeps the flags right exactly when it releases no key of a modifier
whose other key is held. -/
theorem tracks_concat (tracks : Tracks past) : Tracks (past ++ [input]) ↔ ReleasesAlone past input := by
  unfold Tracks ReleasesAlone
  rw [after_concat]
  cases strokes : keyStroke input with
  | none =>
    refine iff_of_true (fun modifier => ?_) fun key releases => ?_
    · rw [pressed_handle_of_ordinary strokes, down_concat_of_ordinary strokes]
      exact tracks modifier
    · cases releases
  | some stroke =>
    obtain ⟨key, down⟩ := stroke
    have elsewhere : ∀ modifier, key.modifier ≠ modifier →
        ((((MacInputHandler.new.after past).handle input).1.pressed modifier = true) ↔
          Down modifier (past ++ [input])) := by
      intro modifier apart
      rw [pressed_handle strokes, if_neg apart, down_concat_of_elsewhere strokes apart]
      exact tracks modifier
    cases down with
    | true =>
      refine iff_of_true (fun modifier => ?_) fun key releases => ?_
      · by_cases same : key.modifier = modifier
        · cases same
          rw [pressed_handle strokes, if_pos rfl]
          exact iff_of_true rfl (down_concat_of_press strokes)
        · exact elsewhere modifier same
      · cases releases
    | false =>
      constructor
      · intro kept released same
        cases same
        rw [← down_concat_of_release strokes, ← kept key.modifier, pressed_handle strokes, if_pos rfl]
        exact Bool.false_ne_true
      · intro alone modifier
        by_cases same : key.modifier = modifier
        · cases same
          rw [pressed_handle strokes, if_pos rfl, down_concat_of_release strokes]
          exact iff_of_false Bool.false_ne_true (alone key rfl)
        · exact elsewhere modifier same

/-- Flags that are right around an input are right on what it posts. -/
theorem carriesHeld_of_tracks (before : Tracks past) (after : Tracks (past ++ [input])) :
    CarriesHeld past input := by
  intro keyCode down flags posted modifier
  obtain ⟨code, extended, _, rfl⟩ := stroke_of_posted posted
  cases down with
  | true =>
    have := after modifier
    rwa [after_concat] at this
  | false => exact before modifier

private theorem tracks_nil : Tracks [] := by
  intro modifier
  refine iff_of_false (by simp [MacInputHandler.after]) ?_
  rintro ⟨right, held⟩
  exact not_held_nil held

/-- The flags are right all along exactly when no release finds the other key held. -/
theorem tracks_iff_releasesAlone :
    (∀ past, past <+: inputs → Tracks past) ↔ Runs.Throughout ReleasesAlone inputs := by
  induction inputs using List.reverseRecOn with
  | nil =>
    refine iff_of_true (fun past first => ?_) Runs.throughout_nil
    rw [List.prefix_nil.mp first]
    exact tracks_nil
  | append_singleton inputs input ih =>
    rw [Runs.throughout_append, ← ih]
    simp only [Runs.throughout_cons, Runs.throughout_nil, and_true, List.append_nil, List.prefix_concat_iff]
    constructor
    · intro all
      have earlier : ∀ past, past <+: inputs → Tracks past := fun past first => all past (.inr first)
      exact ⟨earlier, (tracks_concat (earlier inputs List.prefix_rfl)).mp (all _ (.inl rfl))⟩
    · rintro ⟨earlier, alone⟩ past (rfl | first)
      · exact (tracks_concat (earlier inputs List.prefix_rfl)).mpr alone
      · exact earlier past first

/-- **The modifier flags are those of the keys held**, after every input and on
every key event posted, exactly as long as no key of a modifier is released
while the other key of that modifier is held. -/
theorem modifiers_are_those_held_iff (inputs : List Input) :
    ((∀ past, past <+: inputs → Tracks past) ∧ Runs.Throughout CarriesHeld inputs) ↔
      Runs.Throughout ReleasesAlone inputs := by
  rw [tracks_iff_releasesAlone, and_iff_left_iff_imp, ← tracks_iff_releasesAlone]
  rintro tracks before input after rfl
  have whole : before ++ input :: after = (before ++ [input]) ++ after := by simp
  refine carriesHeld_of_tracks (tracks before (List.prefix_append _ _)) (tracks _ ?_)
  rw [whole]
  exact List.prefix_append _ _

/-- Both shift keys go down, the right one comes up, and a letter is typed. -/
def rollover : List Input :=
  [.keyboard (.pressed 0x2A false) true, .keyboard (.pressed 0x36 false) true,
    .keyboard (.released 0x36 false) true, .keyboard (.pressed 0x1E false) true]

/-- The letter is posted without the shift flag, the left shift key being held. -/
theorem rollover_loses_shift : ¬ (∀ past, past <+: rollover → Tracks past) ∧
    ¬ Runs.Throughout CarriesHeld rollover := by
  have held : ∀ after, (∀ later ∈ after, keyStroke later ≠ some (⟨.shift, false⟩, false)) →
      Down .shift (.keyboard (.pressed 0x2A false) true :: after) :=
    fun after kept => ⟨false, [], _, after, rfl, by decide, kept⟩
  constructor
  · intro tracks
    have shift := (tracks (rollover.take 3) (List.take_prefix _ _) .shift).mpr (held _ (by decide))
    exact absurd shift (by decide)
  · intro carries
    have letter := carries (rollover.take 3) (.keyboard (.pressed 0x1E false) true) [] rfl .ansiA true
      ⟨false, false, false, false⟩ (by decide) .shift
    exact absurd (letter.mpr (held _ (by decide))) (by decide)

end Tracking

end Osxrdp.HeldModifiers
