import Osxrdp.Runs

/-! `input.rs`: the client's mouse events become CoreGraphics events. The
cursor is kept in whole points, which `f64` adds exactly. Whether CoreGraphics
creates the event is an input of every step. -/
namespace Osxrdp.Input

/-- What the server makes of a client's mouse message. -/
inductive MouseEvent where
  | move (x y : UInt16)
  | rightPressed
  | rightReleased
  | leftPressed
  | leftReleased
  | middlePressed
  | middleReleased
  | button4Pressed
  | button4Released
  | button5Pressed
  | button5Released
  | verticalScroll (value : Int16)
  | scroll (x y : Int32)
  | relMove (x y : Int32)
  deriving DecidableEq, Repr

/-- The kind of an event that is posted. -/
inductive CGEventType where
  | mouseMoved
  | leftMouseDown
  | leftMouseUp
  | rightMouseDown
  | rightMouseUp
  | otherMouseDown
  | otherMouseUp
  deriving DecidableEq, Repr

/-- The button of an event that is posted. -/
inductive CGMouseButton where
  | left
  | right
  | center
  deriving DecidableEq, Repr

/-- A posted event: a mouse event at a point, or a scroll by some lines. -/
inductive CGEvent where
  | mouse (eventType : CGEventType) (x y : Int) (button : CGMouseButton)
  | scroll (lines : Int32)
  deriving DecidableEq, Repr

/-- The mouse handler remembers where the cursor is. -/
structure MacInputHandler where
  cursorX : Int
  cursorY : Int
  deriving DecidableEq, Repr

namespace MacInputHandler

def new : MacInputHandler := ⟨0, 0⟩

/-- `post_mouse` at the cursor. -/
def postMouse (created : Bool) (handler : MacInputHandler) (eventType : CGEventType)
    (button : CGMouseButton) : List CGEvent :=
  if created then [.mouse eventType handler.cursorX handler.cursorY button] else []

/-- A turn of the wheel is posted in lines. -/
def postScroll (created : Bool) (lines : Int32) : List CGEvent :=
  if created then [.scroll lines] else []

/-- `RdpServerInputHandler::mouse`: the handler afterwards and what was posted. -/
def mouse (created : Bool) (handler : MacInputHandler) :
    MouseEvent → MacInputHandler × List CGEvent
  | .move x y =>
    let handler := { handler with cursorX := x.toNat, cursorY := y.toNat }
    (handler, handler.postMouse created .mouseMoved .left)
  | .leftPressed => (handler, handler.postMouse created .leftMouseDown .left)
  | .leftReleased => (handler, handler.postMouse created .leftMouseUp .left)
  | .rightPressed => (handler, handler.postMouse created .rightMouseDown .right)
  | .rightReleased => (handler, handler.postMouse created .rightMouseUp .right)
  | .middlePressed => (handler, handler.postMouse created .otherMouseDown .center)
  | .middleReleased => (handler, handler.postMouse created .otherMouseUp .center)
  | .verticalScroll value => (handler, postScroll created (value.toInt32 / 120))
  | .scroll _ y => (handler, postScroll created (y / 120))
  | .relMove x y =>
    let handler := { handler with
      cursorX := handler.cursorX + x.toInt, cursorY := handler.cursorY + y.toInt }
    (handler, handler.postMouse created .mouseMoved .left)
  | .button4Pressed | .button4Released | .button5Pressed | .button5Released => (handler, [])

end MacInputHandler

/-- The handler as a system; an input also says whether CoreGraphics creates
the event. -/
def step : Runs.System MacInputHandler (MouseEvent × Bool) CGEvent
  | handler, (event, created) => some (handler.mouse created event)

/-- Events that leave the cursor where it is. -/
def MouseEvent.KeepsCursor : MouseEvent → Prop
  | .move _ _ | .relMove _ _ => False
  | _ => True

/-- Mouse events are posted at the point; scrolls have none. -/
def CGEvent.At (x y : Int) : CGEvent → Prop
  | .mouse _ x' y' _ => x' = x ∧ y' = y
  | .scroll _ => True

variable {handler : MacInputHandler} {event : MouseEvent} {created : Bool}

private theorem postMouse_at {eventType : CGEventType} {button : CGMouseButton} :
    ∀ posted ∈ handler.postMouse created eventType button,
      posted.At handler.cursorX handler.cursorY := by
  unfold MacInputHandler.postMouse
  split <;> simp [CGEvent.At]

private theorem postScroll_at {lines : Int32} {x y : Int} :
    ∀ posted ∈ MacInputHandler.postScroll created lines, posted.At x y := by
  unfold MacInputHandler.postScroll
  split <;> simp [CGEvent.At]

/-- Every event is posted at the cursor as it is after the event. -/
theorem mouse_posts_at_cursor : ∀ posted ∈ (handler.mouse created event).2,
    posted.At (handler.mouse created event).1.cursorX (handler.mouse created event).1.cursorY := by
  cases event <;> first | exact postMouse_at | exact postScroll_at | exact nofun

private theorem mouse_keeps_cursor (keeps : event.KeepsCursor) :
    (handler.mouse created event).1 = handler := by
  cases event <;> first | rfl | exact keeps.elim

/-- From a move on, everything posted before the next move is at its point. -/
theorem posts_at_last_move (handler : MacInputHandler) (later : List (MouseEvent × Bool))
    (keeps : ∀ input ∈ later, input.1.KeepsCursor) :
    ∃ posted, Runs.run step handler later = some (handler, posted) ∧
      ∀ event ∈ posted, event.At handler.cursorX handler.cursorY := by
  have kept : ∀ (current : MacInputHandler) (past : List CGEvent) (input : MouseEvent × Bool),
      (current = handler ∧ ∀ event ∈ past, event.At handler.cursorX handler.cursorY) →
      input.1.KeepsCursor → ∃ next posted, step current input = some (next, posted) ∧
        next = handler ∧ ∀ event ∈ past ++ posted, event.At handler.cursorX handler.cursorY := by
    rintro _ past ⟨event, created⟩ ⟨rfl, held⟩ keeps
    refine ⟨_, _, rfl, mouse_keeps_cursor keeps, fun posted member => ?_⟩
    rcases List.mem_append.mp member with before | now
    · exact held posted before
    · have at_cursor := mouse_posts_at_cursor posted now
      rwa [mouse_keeps_cursor keeps] at at_cursor
  obtain ⟨_, posted, ran, rfl, held⟩ := Runs.run_succeeds _ _ kept ⟨rfl, List.forall_mem_nil _⟩ keeps
  exact ⟨posted, ran, held⟩

end Osxrdp.Input
