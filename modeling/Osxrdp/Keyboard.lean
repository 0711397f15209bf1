import Osxrdp.Input

/-! `input.rs` and `keyboard.rs`: the client's key strokes become CoreGraphics
keyboard events, with the flags of the modifier keys that the handler has seen
pressed. Whether CoreGraphics creates the event is an input of every call. -/
namespace Osxrdp.Keyboard
open Input (MouseEvent)

/-- The key codes of CoreGraphics that a scancode can stand for. -/
inductive KeyCode where
  | ansiGrave | ansi1 | ansi2 | ansi3 | ansi4 | ansi5 | ansi6 | ansi7 | ansi8 | ansi9 | ansi0
  | ansiMinus | ansiEqual | delete | tab | ansiQ | ansiW | ansiE | ansiR | ansiT | ansiY | ansiU
  | ansiI | ansiO | ansiP | ansiLeftBracket | ansiRightBracket | ansiBackslash | capsLock | ansiA
  | ansiS | ansiD | ansiF | ansiG | ansiH | ansiJ | ansiK | ansiL | ansiSemicolon | ansiQuote
  | returnKey | ansiKeypadEnter | shift | ansiZ | ansiX | ansiC | ansiV | ansiB | ansiN | ansiM
  | ansiComma | ansiPeriod | ansiSlash | rightShift | control | rightControl | option | rightOption
  | space | command | rightCommand | escape | f1 | f2 | f3 | f4 | f5 | f6 | f7 | f8 | f9 | f10
  | f11 | f12 | f13 | f14 | f15 | home | upArrow | pageUp | leftArrow | rightArrow | endKey
  | downArrow | pageDown | help | forwardDelete | ansiKeypadClear | ansiKeypadMinus
  | ansiKeypadMultiply | ansiKeypadDivide | ansiKeypadPlus | ansiKeypad7 | ansiKeypad8
  | ansiKeypad9 | ansiKeypad4 | ansiKeypad6 | ansiKeypad1 | ansiKeypad2 | ansiKeypad3 | ansiKeypad0
  | ansiKeypadDecimal | f16
  deriving DecidableEq, Repr

/-- `None` for keys that are not mapped. -/
def scancodeToCg (code : UInt8) (extended : Bool) : Option KeyCode :=
  match code, extended with
  | 0x29, _ => some .ansiGrave
  | 0x02, _ => some .ansi1
  | 0x03, _ => some .ansi2
  | 0x04, _ => some .ansi3
  | 0x05, _ => some .ansi4
  | 0x06, _ => some .ansi5
  | 0x07, _ => some .ansi6
  | 0x08, _ => some .ansi7
  | 0x09, _ => some .ansi8
  | 0x0A, _ => some .ansi9
  | 0x0B, _ => some .ansi0
  | 0x0C, _ => some .ansiMinus
  | 0x0D, _ => some .ansiEqual
  | 0x0E, _ => some .delete
  | 0x0F, _ => some .tab
  | 0x10, _ => some .ansiQ
  | 0x11, _ => some .ansiW
  | 0x12, _ => some .ansiE
  | 0x13, _ => some .ansiR
  | 0x14, _ => some .ansiT
  | 0x15, _ => some .ansiY
  | 0x16, _ => some .ansiU
  | 0x17, _ => some .ansiI
  | 0x18, _ => some .ansiO
  | 0x19, _ => some .ansiP
  | 0x1A, _ => some .ansiLeftBracket
  | 0x1B, _ => some .ansiRightBracket
  | 0x2B, _ => some .ansiBackslash
  | 0x3A, _ => some .capsLock
  | 0x1E, _ => some .ansiA
  | 0x1F, _ => some .ansiS
  | 0x20, _ => some .ansiD
  | 0x21, _ => some .ansiF
  | 0x22, _ => some .ansiG
  | 0x23, _ => some .ansiH
  | 0x24, _ => some .ansiJ
  | 0x25, _ => some .ansiK
  | 0x26, _ => some .ansiL
  | 0x27, _ => some .ansiSemicolon
  | 0x28, _ => some .ansiQuote
  | 0x1C, false => some .returnKey
  | 0x1C, true => some .ansiKeypadEnter
  | 0x2A, _ => some .shift
  | 0x2C, _ => some .ansiZ
  | 0x2D, _ => some .ansiX
  | 0x2E, _ => some .ansiC
  | 0x2F, _ => some .ansiV
  | 0x30, _ => some .ansiB
  | 0x31, _ => some .ansiN
  | 0x32, _ => some .ansiM
  | 0x33, _ => some .ansiComma
  | 0x34, _ => some .ansiPeriod
  | 0x35, false => some .ansiSlash
  | 0x36, _ => some .rightShift
  | 0x1D, false => some .control
  | 0x1D, true => some .rightControl
  | 0x38, false => some .option
  | 0x38, true => some .rightOption
  | 0x39, _ => some .space
  | 0x5B, _ => some .command
  | 0x5C, _ => some .rightCommand
  | 0x01, _ => some .escape
  | 0x3B, _ => some .f1
  | 0x3C, _ => some .f2
  | 0x3D, _ => some .f3
  | 0x3E, _ => some .f4
  | 0x3F, _ => some .f5
  | 0x40, _ => some .f6
  | 0x41, _ => some .f7
  | 0x42, _ => some .f8
  | 0x43, _ => some .f9
  | 0x44, _ => some .f10
  | 0x57, _ => some .f11
  | 0x58, _ => some .f12
  | 0x64, _ => some .f13
  | 0x65, _ => some .f14
  | 0x66, _ => some .f15
  | 0x47, true => some .home
  | 0x48, true => some .upArrow
  | 0x49, true => some .pageUp
  | 0x4B, true => some .leftArrow
  | 0x4D, true => some .rightArrow
  | 0x4F, true => some .endKey
  | 0x50, true => some .downArrow
  | 0x51, true => some .pageDown
  | 0x52, true => some .help
  | 0x53, true => some .forwardDelete
  | 0x45, _ => some .ansiKeypadClear
  | 0x4A, _ => some .ansiKeypadMinus
  | 0x37, false => some .ansiKeypadMultiply
  | 0x35, true => some .ansiKeypadDivide
  | 0x4E, _ => some .ansiKeypadPlus
  | 0x4C, _ => some .ansiKeypadEnter
  | 0x47, false => some .ansiKeypad7
  | 0x48, false => some .ansiKeypad8
  | 0x49, false => some .ansiKeypad9
  | 0x4B, false => some .ansiKeypad4
  | 0x4D, false => some .ansiKeypad6
  | 0x4F, false => some .ansiKeypad1
  | 0x50, false => some .ansiKeypad2
  | 0x51, false => some .ansiKeypad3
  | 0x52, false => some .ansiKeypad0
  | 0x53, false => some .ansiKeypadDecimal
  | 0x37, true => some .f13
  | 0x46, _ => some .f16
  | _, _ => none

/-- What the server makes of a client's key. -/
inductive KeyboardEvent where
  | pressed (code : UInt8) (extended : Bool)
  | released (code : UInt8) (extended : Bool)
  | unicodePressed (ch : UInt16)
  | unicodeReleased (ch : UInt16)
  | synchronize (flags : UInt8)
  deriving DecidableEq, Repr

/-- The modifier flags of a CoreGraphics event. -/
inductive Modifier where
  | command
  | alternate
  | shift
  | control
  deriving DecidableEq, Repr

/-- The modifiers of an event. -/
structure CGEventFlags where
  command : Bool
  alternate : Bool
  shift : Bool
  control : Bool
  deriving DecidableEq, Repr

namespace CGEventFlags

def empty : CGEventFlags := ⟨false, false, false, false⟩

def insert (flags : CGEventFlags) : Modifier → CGEventFlags
  | .command => { flags with command := true }
  | .alternate => { flags with alternate := true }
  | .shift => { flags with shift := true }
  | .control => { flags with control := true }

def contains (flags : CGEventFlags) : Modifier → Bool
  | .command => flags.command
  | .alternate => flags.alternate
  | .shift => flags.shift
  | .control => flags.control

end CGEventFlags

/-- A posted event. Only key events are given flags; a string is typed with
key code 0 and what flags CoreGraphics gives it. -/
inductive CGEvent where
  | key (keyCode : KeyCode) (down : Bool) (flags : CGEventFlags)
  | string (ch : UInt16) (down : Bool)
  | pointer (event : Input.CGEvent)
  deriving DecidableEq, Repr

/-- The handler with its modifier keys, over the part that tracks the cursor. -/
structure MacInputHandler extends Input.MacInputHandler where
  cmdPressed : Bool
  altPressed : Bool
  shiftPressed : Bool
  ctrlPressed : Bool
  deriving DecidableEq, Repr

namespace MacInputHandler

/-- `MacInputHandler::new`: nothing is held. -/
def new : MacInputHandler where
  toMacInputHandler := .new
  cmdPressed := false
  altPressed := false
  shiftPressed := false
  ctrlPressed := false

/-- The flags of the modifiers that are held. -/
def modifiers (handler : MacInputHandler) : CGEventFlags :=
  let f := CGEventFlags.empty
  let f := if handler.cmdPressed then f.insert .command else f
  let f := if handler.altPressed then f.insert .alternate else f
  let f := if handler.shiftPressed then f.insert .shift else f
  if handler.ctrlPressed then f.insert .control else f

def scanCmd : UInt8 := 0x5B

def scanCmdRight : UInt8 := 0x5C

def scanAlt : UInt8 := 0x38

def scanShift : UInt8 := 0x2A

def scanShiftRight : UInt8 := 0x36

def scanCtrl : UInt8 := 0x1D

/-- A scancode of a modifier sets its flag, on either side of the keyboard. -/
def flashKey (handler : MacInputHandler) (code : UInt8) (pressed : Bool) : MacInputHandler :=
  if code = scanCmd ∨ code = scanCmdRight then { handler with cmdPressed := pressed }
  else if code = scanAlt then { handler with altPressed := pressed }
  else if code = scanShift ∨ code = scanShiftRight then { handler with shiftPressed := pressed }
  else if code = scanCtrl then { handler with ctrlPressed := pressed }
  else handler

/-- A key event with the modifiers as they are, if the key is mapped. -/
def postKey (created : Bool) (handler : MacInputHandler) (code : UInt8) (extended down : Bool) :
    List CGEvent :=
  match scancodeToCg code extended with
  | some keyCode => if created then [.key keyCode down handler.modifiers] else []
  | none => []

/-- A character is posted as a string. -/
def postString (created : Bool) (ch : UInt16) (down : Bool) : List CGEvent :=
  if created then [.string ch down] else []

/-- `RdpServerInputHandler::keyboard`: a modifier key counts for its own events,
going down and coming up. -/
def keyboard (created : Bool) (handler : MacInputHandler) :
    KeyboardEvent → MacInputHandler × List CGEvent
  | .pressed code extended =>
    let handler := handler.flashKey code true
    (handler, handler.postKey created code extended true)
  | .released code extended =>
    (handler.flashKey code false, handler.postKey created code extended false)
  | .unicodePressed ch => (handler, postString created ch true)
  | .unicodeReleased ch => (handler, postString created ch false)
  | .synchronize _ => (handler, [])

/-- `RdpServerInputHandler::mouse`, which leaves the modifiers alone. -/
def mouse (created : Bool) (handler : MacInputHandler) (event : MouseEvent) :
    MacInputHandler × List CGEvent :=
  let (cursor, posted) := handler.toMacInputHandler.mouse created event
  ({ handler with toMacInputHandler := cursor }, posted.map .pointer)

end MacInputHandler

/-- One call of the handler, and whether CoreGraphics creates the event. -/
inductive Input where
  | keyboard (event : KeyboardEvent) (created : Bool)
  | mouse (event : MouseEvent) (created : Bool)
  deriving DecidableEq, Repr

namespace MacInputHandler

/-- One call of the handler. -/
def handle (handler : MacInputHandler) : Input → MacInputHandler × List CGEvent
  | .keyboard event created => handler.keyboard created event
  | .mouse event created => handler.mouse created event

/-- The handler after a sequence of calls. -/
def after (handler : MacInputHandler) (inputs : List Input) : MacInputHandler :=
  inputs.foldl (fun handler input => (handler.handle input).1) handler

/-- What a sequence of calls posts. -/
def posted (handler : MacInputHandler) : List Input → List CGEvent
  | [] => []
  | input :: rest => (handler.handle input).2 ++ (handler.handle input).1.posted rest

/-- The flag kept for a modifier. -/
def pressed (handler : MacInputHandler) (modifier : Modifier) : Bool :=
  handler.modifiers.contains modifier

end MacInputHandler

section Strokes

/-- A key going down or up. -/
structure Stroke where
  code : UInt8
  extended : Bool
  down : Bool
  deriving DecidableEq, Repr

/-- The stroke of a key, for keys with a scancode. -/
def Input.stroke : Input → Option Stroke
  | .keyboard (.pressed code extended) _ => some ⟨code, extended, true⟩
  | .keyboard (.released code extended) _ => some ⟨code, extended, false⟩
  | .keyboard (.unicodePressed _) _ | .keyboard (.unicodeReleased _) _ | .keyboard (.synchronize _) _
  | .mouse _ _ => none

/-- The modifier that a scancode counts as, extended or not. -/
def modifierOf (code : UInt8) : Option Modifier :=
  if code = MacInputHandler.scanCmd ∨ code = MacInputHandler.scanCmdRight then some .command
  else if code = MacInputHandler.scanAlt then some .alternate
  else if code = MacInputHandler.scanShift ∨ code = MacInputHandler.scanShiftRight then some .shift
  else if code = MacInputHandler.scanCtrl then some .control
  else none

/-- The stroke is one that CoreGraphics is asked for, and creates. -/
def Input.PostsKey : Input → Prop
  | .keyboard (.pressed code extended) created | .keyboard (.released code extended) created =>
    created = true ∧ scancodeToCg code extended ≠ none
  | .keyboard (.unicodePressed _) _ | .keyboard (.unicodeReleased _) _ | .keyboard (.synchronize _) _
  | .mouse _ _ => False

/-- The flags of a key event. -/
def CGEvent.flags : CGEvent → Option CGEventFlags
  | .key _ _ flags => some flags
  | .string _ _ | .pointer _ => none

/-- The flags of the key events among the posted ones. -/
def attachedFlags (posted : List CGEvent) : List CGEventFlags := posted.filterMap CGEvent.flags

variable {handler : MacInputHandler} {modifier : Modifier} {input : Input} {stroke : Stroke}

/-- Flags are known by the modifiers they contain. -/
theorem CGEventFlags.eq_iff_contains {flags other : CGEventFlags} :
    flags = other ↔ ∀ modifier, flags.contains modifier = other.contains modifier := by
  constructor
  · rintro rfl modifier
    rfl
  · intro same
    obtain ⟨command, alternate, shift, control⟩ := flags
    obtain rfl : command = _ := same .command
    obtain rfl : alternate = _ := same .alternate
    obtain rfl : shift = _ := same .shift
    obtain rfl : control = _ := same .control
    rfl

@[simp] theorem modifiers_eq (handler : MacInputHandler) : handler.modifiers =
    ⟨handler.cmdPressed, handler.altPressed, handler.shiftPressed, handler.ctrlPressed⟩ := by
  unfold MacInputHandler.modifiers
  cases handler.cmdPressed <;> cases handler.altPressed <;> cases handler.shiftPressed <;>
    cases handler.ctrlPressed <;> rfl

@[simp] theorem pressed_new : MacInputHandler.new.pressed modifier = false := by
  cases modifier <;> rfl

/-- A stroke sets the flag of its own modifier, and no other. -/
theorem pressed_flashKey (handler : MacInputHandler) (code : UInt8) (down : Bool) :
    (handler.flashKey code down).pressed modifier =
      if modifierOf code = some modifier then down else handler.pressed modifier := by
  unfold MacInputHandler.flashKey modifierOf MacInputHandler.pressed
  split
  · cases modifier <;> simp [CGEventFlags.contains]
  · split
    · cases modifier <;> simp [CGEventFlags.contains]
    · split
      · cases modifier <;> simp [CGEventFlags.contains]
      · split
        · cases modifier <;> simp [CGEventFlags.contains]
        · simp

/-- What posts a key is a stroke. -/
theorem stroke_of_postsKey (posts : input.PostsKey) : ∃ stroke, input.stroke = some stroke := by
  cases input with
  | mouse event created => exact posts.elim
  | keyboard event created =>
    cases event with
    | pressed code extended => exact ⟨_, rfl⟩
    | released code extended => exact ⟨_, rfl⟩
    | unicodePressed ch => exact posts.elim
    | unicodeReleased ch => exact posts.elim
    | synchronize flags => exact posts.elim

theorem after_concat (past : List Input) :
    handler.after (past ++ [input]) = ((handler.after past).handle input).1 := by
  simp [MacInputHandler.after]

instance : DecidablePred Input.PostsKey := fun input => match input with
  | .keyboard (.pressed code extended) created | .keyboard (.released code extended) created =>
    inferInstanceAs (Decidable (created = true ∧ scancodeToCg code extended ≠ none))
  | .keyboard (.unicodePressed _) _ | .keyboard (.unicodeReleased _) _ | .keyboard (.synchronize _) _
  | .mouse _ _ => inferInstanceAs (Decidable False)

/-- What a stroke does: its key is posted with the flags as they are while the
modifier counts, which it does after a press and before a release. -/
theorem handle_of_stroke (handler : MacInputHandler) (strokes : input.stroke = some stroke) :
    ∃ created, handler.handle input = (handler.flashKey stroke.code stroke.down,
        (if stroke.down then handler.flashKey stroke.code stroke.down else handler).postKey created
          stroke.code stroke.extended stroke.down) ∧
      (input.PostsKey ↔ created = true ∧ scancodeToCg stroke.code stroke.extended ≠ none) := by
  cases input with
  | mouse event created => cases strokes
  | keyboard event created =>
    cases event with
    | pressed code extended =>
      cases strokes
      exact ⟨created, rfl, Iff.rfl⟩
    | released code extended =>
      cases strokes
      exact ⟨created, rfl, Iff.rfl⟩
    | unicodePressed ch => cases strokes
    | unicodeReleased ch => cases strokes
    | synchronize flags => cases strokes

private theorem flags_postString {created : Bool} {ch : UInt16} {down : Bool} {event : CGEvent}
    (posted : event ∈ MacInputHandler.postString created ch down) : event.flags = none := by
  unfold MacInputHandler.postString at posted
  split at posted
  · rw [List.mem_singleton.mp posted]
    rfl
  · cases posted

/-- Any other input leaves the flags alone, and posts no key. -/
theorem handle_of_none (handler : MacInputHandler) (silent : input.stroke = none) :
    (handler.handle input).1.modifiers = handler.modifiers ∧
      ∀ event ∈ (handler.handle input).2, event.flags = none := by
  cases input with
  | mouse event created =>
    refine ⟨rfl, fun event posted => ?_⟩
    obtain ⟨pointer, _, rfl⟩ := List.mem_map.mp posted
    rfl
  | keyboard event created =>
    cases event with
    | pressed code extended => cases silent
    | released code extended => cases silent
    | unicodePressed ch => exact ⟨rfl, fun _ posted => flags_postString posted⟩
    | unicodeReleased ch => exact ⟨rfl, fun _ posted => flags_postString posted⟩
    | synchronize flags => exact ⟨rfl, List.forall_mem_nil _⟩

/-- What an input does to the flags. -/
theorem pressed_handle_of_stroke (strokes : input.stroke = some stroke) :
    (handler.handle input).1.pressed modifier =
      if modifierOf stroke.code = some modifier then stroke.down else handler.pressed modifier := by
  obtain ⟨created, handled, _⟩ := handle_of_stroke handler strokes
  rw [handled]
  exact pressed_flashKey handler stroke.code stroke.down

/-- What is no stroke leaves the modifiers alone. -/
theorem pressed_handle_of_none (silent : input.stroke = none) :
    (handler.handle input).1.pressed modifier = handler.pressed modifier :=
  congrArg (CGEventFlags.contains · modifier) (handle_of_none handler silent).1

private theorem attached_postKey (created : Bool) (code : UInt8) (extended down : Bool) :
    attachedFlags (handler.postKey created code extended down) =
      if created = true ∧ scancodeToCg code extended ≠ none then [handler.modifiers] else [] := by
  unfold MacInputHandler.postKey
  cases scancodeToCg code extended <;> cases created <;> rfl

/-- A key going down is posted with the flags as it leaves them, a key coming
up with the flags as it finds them. -/
theorem attached_handle_of_stroke (strokes : input.stroke = some stroke) :
    attachedFlags (handler.handle input).2 =
      if input.PostsKey
      then [(if stroke.down then (handler.handle input).1 else handler).modifiers] else [] := by
  obtain ⟨created, handled, posts⟩ := handle_of_stroke handler strokes
  rw [handled, attached_postKey]
  exact if_congr posts.symm rfl rfl

/-- What is no stroke attaches no flags. -/
theorem attached_handle_of_none (silent : input.stroke = none) :
    attachedFlags (handler.handle input).2 = [] :=
  List.filterMap_eq_nil_iff.mpr (handle_of_none handler silent).2

private theorem posted_of_postKey {created : Bool} {code : UInt8} {extended way down : Bool}
    {keyCode : KeyCode} {flags : CGEventFlags}
    (posted : .key keyCode down flags ∈ handler.postKey created code extended way) :
    down = way ∧ flags = handler.modifiers := by
  unfold MacInputHandler.postKey at posted
  split at posted
  · split at posted
    · cases List.mem_singleton.mp posted
      exact ⟨rfl, rfl⟩
    · cases posted
  · cases posted

/-- A posted key event comes from the stroke of that direction. -/
theorem stroke_of_posted {keyCode : KeyCode} {down : Bool} {flags : CGEventFlags}
    (posted : .key keyCode down flags ∈ (handler.handle input).2) :
    ∃ code extended, input.stroke = some ⟨code, extended, down⟩ ∧
      flags = (if down then (handler.handle input).1 else handler).modifiers := by
  cases stroked : input.stroke with
  | none => cases (handle_of_none handler stroked).2 _ posted
  | some stroke =>
    obtain ⟨created, handled, _⟩ := handle_of_stroke handler stroked
    rw [handled] at posted ⊢
    obtain ⟨rfl, same⟩ := posted_of_postKey posted
    exact ⟨stroke.code, stroke.extended, rfl, same⟩

end Strokes
end Osxrdp.Keyboard
