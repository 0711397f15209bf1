import Osxrdp.AspectFit
import Osxrdp.DisplaySteps
import Osxrdp.NativeLayout

/-! A client that adopts the desktop announced to it may ask for just that
layout. When the request changes nothing, with the `f64` arithmetic read as
exact and a helper that acts on the mode and the size it is given. -/
namespace Osxrdp.LayoutEcho
open AspectFit Display DisplayMode DisplaySteps FramePipeline NativeLayout

/-- What `--display-mode-switch` does in a mode, when it is asked for a size. -/
abbrev Helper := CGDisplayMode → UInt32 → UInt32 → SwitchOutcome

/-- The display has this size by both of the questions that the server asks it. -/
def Reports (host : Host) (size : DesktopSize) : Prop :=
  cgDisplaySize host = size ∧
    DisplayModeSwitcher.atTarget host size.width.toUInt32 size.height.toUInt32 = true

/-- After a switch the display reports the size it was switched to. -/
def Reported (helper : Helper) : Prop := ∀ (host : Host) targetW targetH mode,
  helper host.active targetW targetH = .completed mode → Reports (host.setMode mode) (modeSize mode)

/-- `request_layout` with the helper's answer. -/
def request (helper : Helper) (host : Host) (display : MacDisplay) (client : UInt32 × UInt32) :
    Host × MacDisplay × List Event :=
  let target := clientSize client.1 client.2
  display.requestLayout (.exact 53) host (some client)
    (helper host.active target.width.toUInt32 target.height.toUInt32)

/-- The dimensions of a desktop, as a client asks for them. -/
def echo (size : DesktopSize) : UInt32 × UInt32 := (size.width.toUInt32, size.height.toUInt32)

/-- The sizes and the channel are left as they are, and nothing is sent. -/
structure Unmoved (before after : MacDisplay) (events : List Event) : Prop where
  currentSize : after.currentSize = before.currentSize
  nativeSize : after.nativeSize = before.nativeSize
  resizeTx : after.resizeTx = before.resizeTx
  silent : ∀ size, .sent size ∉ events

/-- The side of the desktop that Native mode computes is rounded up, or down by
no more than half a pixel of the side it takes from the client. -/
def EchoSettles (native : DesktopSize) (client : UInt32 × UInt32) : Prop :=
  if Wider (native.width.toNat, native.height.toNat) (client.1.toNat, client.2.toNat)
  then Settles client.2.toNat native.height.toNat native.width.toNat
  else Settles client.1.toNat native.width.toNat native.height.toNat

instance (native : DesktopSize) (client : UInt32 × UInt32) : Decidable (EchoSettles native client) :=
  if wider : Wider (native.width.toNat, native.height.toNat) (client.1.toNat, client.2.toNat)
  then decidable_of_iff (Settles client.2.toNat native.height.toNat native.width.toNat) (by
    rw [EchoSettles, if_pos wider])
  else decidable_of_iff (Settles client.1.toNat native.width.toNat native.height.toNat) (by
    rw [EchoSettles, if_neg wider])

/-- Dimensions that a desktop can have. -/
structure Dimensions (client : UInt32 × UInt32) : Prop where
  wide : 1 ≤ client.1.toNat
  wide_le : client.1.toNat ≤ 65535
  high : 1 ≤ client.2.toNat
  high_le : client.2.toNat ≤ 65535

/-- Neither side is zero. -/
def Nonempty (size : DesktopSize) : Prop := 1 ≤ size.width.toNat ∧ 1 ≤ size.height.toNat

/-- A size that is not empty can be echoed. -/
theorem Nonempty.echo {size : DesktopSize} (nonempty : Nonempty size) : Dimensions (echo size) where
  wide := nonempty.1
  wide_le := Nat.le_of_lt_succ size.width.toNat_lt_size
  high := nonempty.2
  high_le := Nat.le_of_lt_succ size.height.toNat_lt_size

section NativeMode
variable {native size : DesktopSize} {client : UInt32 × UInt32}

/-- Native mode fits the client's window to the shape of the display. -/
theorem nativeModeSize_eq_fit (display : Nonempty native) (window : Dimensions client) :
    ((nativeModeSize (Rounding.exact 53) native client.1 client.2).width.toNat,
      (nativeModeSize (Rounding.exact 53) native client.1 client.2).height.toNat) =
    fit (native.width.toNat, native.height.toNat) (client.1.toNat, client.2.toNat) := by
  have widthPos : (0 : ℚ) < native.width.toNat := by exact_mod_cast display.1
  have heightPos : (0 : ℚ) < native.height.toNat := by exact_mod_cast display.2
  have clientPos : (0 : ℚ) < client.2.toNat := by exact_mod_cast window.high
  have high : client.2 ≠ 0 := fun zero => absurd window.high (by rw [zero]; decide)
  have ratios : (client.1.toNat : ℚ) / client.2.toNat > (native.width.toNat : ℚ) / native.height.toNat ↔
      Wider (native.width.toNat, native.height.toNat) (client.1.toNat, client.2.toNat) := by
    rw [gt_iff_lt, div_lt_div_iff₀ heightPos clientPos]
    exact_mod_cast Iff.rfl
  rw [exact_size high, fit]
  by_cases wider : Wider (native.width.toNat, native.height.toNat) (client.1.toNat, client.2.toNat)
  · rw [if_pos (ratios.mpr wider), if_pos wider, ← mul_div_assoc]
    have below : (client.2.toNat : ℚ) * native.width.toNat / native.height.toNat ≤ client.1.toNat := by
      rw [div_le_iff₀ heightPos, mul_comm (client.2.toNat : ℚ)]
      exact_mod_cast wider.le
    refine Prod.ext ?_ (whole_side window.high window.high_le)
    dsimp only
    rw [max_one_toNat, roundToU16_toNat (by positivity) below window.wide_le, round_scaled display.2]
    rfl
  · rw [if_neg (mt ratios.mp wider), if_neg wider, div_div_eq_mul_div]
    have below : (client.1.toNat : ℚ) * native.height.toNat / native.width.toNat ≤ client.2.toNat := by
      rw [div_le_iff₀ widthPos, mul_comm (client.2.toNat : ℚ)]
      exact_mod_cast Nat.le_of_not_lt wider
    refine Prod.ext (whole_side window.wide window.wide_le) ?_
    dsimp only
    rw [max_one_toNat, roundToU16_toNat (by positivity) below window.high_le, round_scaled display.1]
    rfl

theorem size_eq_iff {first second : DesktopSize} :
    first = second ↔ first.width = second.width ∧ first.height = second.height := by
  constructor
  · rintro rfl
    exact ⟨rfl, rfl⟩
  · obtain ⟨width, height⟩ := first
    rintro ⟨rfl, rfl⟩
    rfl

/-- A desktop asked for again is given again exactly when its rounded side settles. -/
theorem nativeModeSize_echo_iff (display : Nonempty native) (window : Dimensions client)
    (chosen : nativeModeSize (Rounding.exact 53) native client.1 client.2 = size) :
    nativeModeSize (Rounding.exact 53) native (echo size).1 (echo size).2 = size ↔
      EchoSettles native client := by
  have first := nativeModeSize_eq_fit display window
  rw [chosen] at first
  have sides : 0 < (size.width.toNat, size.height.toNat).1 ∧ 0 < (size.width.toNat, size.height.toNat).2 := by
    rw [first]
    exact fit_pos _ (client.1.toNat, client.2.toNat) window.wide window.high
  have second := nativeModeSize_eq_fit display (Nonempty.echo sides)
  have same : (echo size).1.toNat = size.width.toNat ∧ (echo size).2.toNat = size.height.toNat :=
    ⟨rfl, rfl⟩
  rw [same.1, same.2, first] at second
  have equal : nativeModeSize (Rounding.exact 53) native (echo size).1 (echo size).2 = size ↔
      fit (native.width.toNat, native.height.toNat) (fit (native.width.toNat, native.height.toNat)
        (client.1.toNat, client.2.toNat)) =
      fit (native.width.toNat, native.height.toNat) (client.1.toNat, client.2.toNat) := by
    rw [← second, ← first, Prod.mk.injEq, UInt16.toNat_inj, UInt16.toNat_inj]
    exact size_eq_iff
  rw [equal, fit_fit_eq_iff (native.width.toNat, native.height.toNat) (client.1.toNat, client.2.toNat)
    display.1 display.2 window.wide window.high]
  exact Iff.rfl

end NativeMode

section Requests
variable {helper : Helper} {host : Host} {display : MacDisplay} {size : DesktopSize} {client : UInt32 × UInt32}

/-- The size announced is the current one. -/
theorem announce_currentSize (display : MacDisplay) (size : DesktopSize) :
    (display.announce size).1.currentSize = some size := by
  unfold MacDisplay.announce
  split
  · assumption
  · rfl

/-- The size switched to is the current one. -/
theorem announceSwitched_currentSize (display : MacDisplay) (size : DesktopSize) :
    (display.announceSwitched size).1.currentSize = some size := by
  unfold MacDisplay.announceSwitched
  split
  · assumption
  · rfl

/-- A size is not announced again, and any other is. -/
theorem announce_unmoved_iff {other : DesktopSize} (current : display.currentSize = some size) :
    Unmoved display (display.announce other).1 (display.announce other).2 ↔ other = size := by
  constructor
  · intro unmoved
    have := unmoved.currentSize
    rw [announce_currentSize, current] at this
    exact Option.some_inj.mp this
  · rintro rfl
    rw [MacDisplay.announce, if_pos current]
    exact ⟨rfl, rfl, rfl, fun _ member => by cases member⟩

private theorem max_one_of_pos {n : UInt16} (positive : 1 ≤ n.toNat) : max n 1 = n := by
  rw [← UInt16.toNat_inj, max_one_toNat]
  exact Nat.max_eq_left positive

private theorem one_le_max (n : UInt16) : 1 ≤ (max n 1).toNat := by
  rw [max_one_toNat]
  exact Nat.le_max_right _ _

private theorem clientSize_echo (nonempty : Nonempty size) : clientSize (echo size).1 (echo size).2 = size := by
  refine size_eq_iff.mpr ⟨?_, ?_⟩
  · simpa [clientSize, echo] using max_one_of_pos nonempty.1
  · simpa [clientSize, echo] using max_one_of_pos nonempty.2

private theorem clientSize_nonempty (clientW clientH : UInt32) : Nonempty (clientSize clientW clientH) :=
  ⟨one_le_max _, one_le_max _⟩

private theorem cgDisplaySize_nonempty (host : Host) : Nonempty (cgDisplaySize host) := ⟨one_le_max _, one_le_max _⟩

/-- In Native mode the size announced depends on the client and the native size. -/
theorem request_native (aspectMode : display.aspectMode = .native) :
    request helper host display client =
      (host, display.announce (nativeModeSize (.exact 53) (display.native host) client.1 client.2)) := by
  simp only [request, MacDisplay.requestLayout, aspectMode]

/-- The handler once it has a mode switcher. -/
def withSwitcher (host : Host) (display : MacDisplay) : MacDisplay :=
  { display with modeSwitcher := some (display.modeSwitcher.getD (.new host)) }

section FitMode
variable {outcome : SwitchOutcome} (fl : Rounding 53) (aspectMode : display.aspectMode = .fit)
include aspectMode

/-- Where the display has the size already, that is announced. -/
theorem fit_at_target (already : DisplayModeSwitcher.atTarget host
      (clientSize client.1 client.2).width.toUInt32 (clientSize client.1 client.2).height.toUInt32 = true) :
    display.requestLayout fl host (some client) outcome =
      (host, (withSwitcher host display).announceSwitched (clientSize client.1 client.2)) := by
  simp [MacDisplay.requestLayout, aspectMode, DisplayModeSwitcher.switchToBestMode, already, withSwitcher]

/-- Where the helper fails, the client's own size is announced. -/
theorem fit_failed (elsewhere : DisplayModeSwitcher.atTarget host
      (clientSize client.1 client.2).width.toUInt32 (clientSize client.1 client.2).height.toUInt32 = false)
    (fails : ∀ mode, outcome ≠ .completed mode) : display.requestLayout fl host (some client) outcome =
      (host, (withSwitcher host display).announce (clientSize client.1 client.2)) := by
  cases outcome with
  | spawnFailed =>
    simp [MacDisplay.requestLayout, aspectMode, DisplayModeSwitcher.switchToBestMode, elsewhere, withSwitcher]
  | failed =>
    simp [MacDisplay.requestLayout, aspectMode, DisplayModeSwitcher.switchToBestMode, elsewhere, withSwitcher]
  | completed mode => exact absurd rfl (fails mode)

/-- Where the helper succeeds, the size of the mode it chose is announced. -/
theorem fit_completed (elsewhere : DisplayModeSwitcher.atTarget host
      (clientSize client.1 client.2).width.toUInt32 (clientSize client.1 client.2).height.toUInt32 = false)
    (mode : CGDisplayMode) :
    (display.requestLayout fl host (some client) (.completed mode)).1.active = mode ∧
      (display.requestLayout fl host (some client) (.completed mode)).2.1.currentSize =
        some (modeSize mode) := by
  simp only [MacDisplay.requestLayout, aspectMode, DisplayModeSwitcher.switchToBestMode, elsewhere,
    Bool.false_eq_true, if_false]
  exact ⟨rfl, announceSwitched_currentSize _ _⟩

end FitMode

/-- The display has the size, or the helper does not switch it there. -/
def Reached (helper : Helper) (host : Host) (size : DesktopSize) : Prop :=
  DisplayModeSwitcher.atTarget host size.width.toUInt32 size.height.toUInt32 = true ∨
    ∀ mode, helper host.active size.width.toUInt32 size.height.toUInt32 ≠ .completed mode

/-- In Fit mode a request reaches the size that it announces. -/
theorem request_fit_reaches (reported : Reported helper) (aspectMode : display.aspectMode = .fit) :
    ∃ size, (request helper host display client).2.1.currentSize = some size ∧ Nonempty size ∧
      Reached helper (request helper host display client).1 size := by
  unfold request
  dsimp only
  cases already : DisplayModeSwitcher.atTarget host (clientSize client.1 client.2).width.toUInt32
      (clientSize client.1 client.2).height.toUInt32 with
  | true =>
    rw [fit_at_target _ aspectMode already]
    exact ⟨_, announceSwitched_currentSize _ _, clientSize_nonempty _ _, .inl already⟩
  | false =>
    cases ends : helper host.active (clientSize client.1 client.2).width.toUInt32
        (clientSize client.1 client.2).height.toUInt32 with
    | completed mode =>
      obtain ⟨active, current⟩ := fit_completed (.exact 53) aspectMode already mode
      obtain ⟨measured, atTarget⟩ := reported host _ _ mode ends
      refine ⟨_, current, measured ▸ cgDisplaySize_nonempty _, .inl ?_⟩
      rw [DisplayModeSwitcher.atTarget, active]
      exact atTarget
    | spawnFailed =>
      have fails : ∀ mode, SwitchOutcome.spawnFailed ≠ .completed mode := fun _ same => by cases same
      rw [fit_failed _ aspectMode already fails]
      exact ⟨_, announce_currentSize _ _, clientSize_nonempty _ _, .inr (by rw [ends]; exact fails)⟩
    | failed =>
      have fails : ∀ mode, SwitchOutcome.failed ≠ .completed mode := fun _ same => by cases same
      rw [fit_failed _ aspectMode already fails]
      exact ⟨_, announce_currentSize _ _, clientSize_nonempty _ _, .inr (by rw [ends]; exact fails)⟩

private theorem unmoved_withSwitcher {after : MacDisplay × List Event}
    (unmoved : Unmoved (withSwitcher host display) after.1 after.2) : Unmoved display after.1 after.2 :=
  ⟨unmoved.currentSize, unmoved.nativeSize, unmoved.resizeTx, unmoved.silent⟩

/-- In Fit mode a size that was reached is not announced again. -/
theorem request_fit_unmoved (aspectMode : display.aspectMode = .fit) (nonempty : Nonempty size)
    (current : display.currentSize = some size) (reached : Reached helper host size) :
    Unmoved display (request helper host display (echo size)).2.1
      (request helper host display (echo size)).2.2 := by
  have asked := clientSize_echo nonempty
  unfold request
  dsimp only
  cases already : DisplayModeSwitcher.atTarget host (clientSize (echo size).1 (echo size).2).width.toUInt32
      (clientSize (echo size).1 (echo size).2).height.toUInt32 with
  | true =>
    rw [fit_at_target _ aspectMode already, asked, MacDisplay.announceSwitched,
      if_pos (show (withSwitcher host display).currentSize = some size from current)]
    exact ⟨rfl, rfl, rfl, fun _ member => by cases member⟩
  | false =>
    rw [asked] at already
    rw [fit_failed _ aspectMode (by rw [asked]; exact already) (by
      rw [asked]
      exact reached.resolve_left (by rw [already]; exact Bool.false_ne_true))]
    have same : (withSwitcher host display).currentSize = some size := current
    exact unmoved_withSwitcher ((announce_unmoved_iff same).mpr asked)

/-- Announcing a size keeps the aspect mode and the native size. -/
theorem announce_keeps (display : MacDisplay) (size : DesktopSize) :
    (display.announce size).1.aspectMode = display.aspectMode ∧
      (display.announce size).1.nativeSize = display.nativeSize := by
  unfold MacDisplay.announce
  split <;> exact ⟨rfl, rfl⟩

private theorem layoutEffect_aspectMode {after : MacDisplay} {announced : List Event}
    (effect : LayoutEffect display after announced) : after.aspectMode = display.aspectMode := by
  cases effect with
  | unchanged switcher current => rfl
  | announced switcher size new => rfl
  | switched switcher size new => rfl

private theorem request_aspectMode (helper : Helper) (host : Host) (display : MacDisplay) (client : UInt32 × UInt32) :
    (request helper host display client).2.1.aspectMode = display.aspectMode := by
  obtain ⟨announced, effect, _⟩ := requestLayout_effect (.exact 53) host display client
    (helper host.active (clientSize client.1 client.2).width.toUInt32
      (clientSize client.1 client.2).height.toUInt32)
  exact layoutEffect_aspectMode effect

end Requests

section Reachable
variable {platform : Platform} {display : MacDisplay} {world next final : World} {op : Op} {ops : List Op}
  {events : List Event}

/-- The native size, once asked for, is not empty. -/
def Sized (display : MacDisplay) : Prop := ∀ size ∈ display.nativeSize, Nonempty size

/-- The native size is not empty. -/
theorem Sized.native (sized : Sized display) (host : Host) : Nonempty (display.native host) := by
  unfold MacDisplay.native
  cases known : display.nativeSize with
  | none => exact cgDisplaySize_nonempty host
  | some native => exact sized native known

private theorem sized_of_none (unknown : display.nativeSize = none) : Sized display := by
  intro size known
  rw [unknown] at known
  cases known

private theorem sized_of_native {after : MacDisplay} (sized : Sized display) (host : Host)
    (known : after.nativeSize = some (display.native host)) : Sized after := by
  intro size same
  rw [known] at same
  cases same
  exact sized.native host

/-- A step keeps the sizes from being empty. -/
theorem step_sized (sized : Sized world.display)
    (stepped : Display.step platform world op = some (next, events)) :
    Sized next.display := by
  cases step_transition stepped with
  | size =>
    unfold MacDisplay.size
    split
    · exact sized
    · exact sized_of_native sized world.host rfl
  | noMonitor outcome => exact sized
  | requestLayout client outcome =>
    obtain ⟨announced, effect, _⟩ := requestLayout_effect platform.fl world.host world.display client
      outcome
    generalize (world.display.requestLayout platform.fl world.host (some client) outcome).2.1 = after
      at effect ⊢
    cases effect with
    | unchanged switcher current => exact sized
    | announced switcher size new => exact sized
    | switched switcher size new => exact sized_of_none rfl
  | updates created =>
    refine sized_of_native sized world.host ?_
    rcases updates_cases world.host world.display created with failed | ⟨updates, _, started⟩
    · simp only [failed]
      rfl
    · simp only [started]
      rfl
  | poll index live found => exact sized
  | frame index capture live updates forceKeyframe events found framed => exact sized
  | drop index live found => exact sized
  | clientDisconnected outcome => exact sized_of_none rfl
  | setAvc420Enabled avc420Enabled => exact sized
  | setForceKeyframe forceKeyframe => exact sized

/-- Every handler that a run of the server reaches is sized. -/
theorem run_sized (host : Host) (mode : CaptureMode) (aspectMode : AspectMode)
    (ran : Runs.run (Display.step platform) (World.fresh host mode aspectMode) ops = some (final, events)) :
    Sized final.display := by
  refine Runs.invariant_of_step (fun world _ => Sized world.display) ?_ [] (sized_of_none rfl) ran
  exact fun _ _ _ _ _ sized stepped => step_sized sized stepped

end Reachable

/-- A request for the size that a request of the client has chosen. -/
def echoed (helper : Helper) (host : Host) (display : MacDisplay) (client : UInt32 × UInt32)
    (size : DesktopSize) : Host × MacDisplay × List Event :=
  request helper (request helper host display client).1 (request helper host display client).2.1 (echo size)

/-- **An echoed layout changes nothing**, in Fit mode always, and in Native mode
exactly when the rounded side settles. -/
theorem echoed_layout_changes_nothing_iff (helper : Helper) (host : Host) (display : MacDisplay)
    (reported : display.aspectMode = .fit → Reported helper)
    (sized : Sized display) (client : UInt32 × UInt32)
    (wide : 200 ≤ client.1.toNat ∧ client.1.toNat ≤ 8192)
    (high : 200 ≤ client.2.toNat ∧ client.2.toNat ≤ 8192) :
    ∃ size, (request helper host display client).2.1.currentSize = some size ∧
      (Unmoved (request helper host display client).2.1 (echoed helper host display client size).2.1
          (echoed helper host display client size).2.2 ↔
        display.aspectMode = .fit ∨ EchoSettles (display.native host) client) := by
  unfold echoed
  cases aspectMode : display.aspectMode with
  | fit =>
    obtain ⟨size, current, nonempty, reached⟩ := request_fit_reaches (reported aspectMode) aspectMode
    have kept : (request helper host display client).2.1.aspectMode = .fit :=
      (request_aspectMode helper host display client).trans aspectMode
    exact ⟨size, current, iff_of_true (request_fit_unmoved kept nonempty current reached) (.inl rfl)⟩
  | native =>
    have window : Dimensions client := ⟨by omega, by omega, by omega, by omega⟩
    rw [request_native aspectMode]
    refine ⟨_, announce_currentSize _ _, ?_⟩
    obtain ⟨aspect, native⟩ := announce_keeps display
      (nativeModeSize (.exact 53) (display.native host) client.1 client.2)
    have unchanged : (display.announce (nativeModeSize (.exact 53) (display.native host)
        client.1 client.2)).1.native host = display.native host := by
      rw [MacDisplay.native, native]
      rfl
    rw [request_native (aspect.trans aspectMode), unchanged,
      announce_unmoved_iff (announce_currentSize _ _), nativeModeSize_echo_iff (sized.native host) window rfl]
    simp

/-- A helper that knows of one size. -/
def switchesTo720 : Helper := fun _ targetW targetH =>
  if targetW = 1280 ∧ targetH = 720 then .completed ⟨1280, 720, 0⟩ else .failed

private theorem switchesTo720_reported : Reported switchesTo720 := by
  intro host targetW targetH mode completed
  unfold switchesTo720 at completed
  split at completed
  · cases completed
    exact ⟨rfl, rfl⟩
  · cases completed

/-- A size that is echoed changes nothing. -/
theorem laptop_echo_changes_nothing : ∃ size,
    (request switchesTo720 laptop (.withMode .bgra .fit) (1280, 720)).2.1.currentSize = some size ∧
      Unmoved (request switchesTo720 laptop (.withMode .bgra .fit) (1280, 720)).2.1
        (echoed switchesTo720 laptop (.withMode .bgra .fit) (1280, 720) size).2.1
        (echoed switchesTo720 laptop (.withMode .bgra .fit) (1280, 720) size).2.2 := by
  obtain ⟨size, current, unmoved⟩ := echoed_layout_changes_nothing_iff switchesTo720 laptop
    (.withMode .bgra .fit) (fun _ => switchesTo720_reported) (fun size known => by cases known) (1280, 720)
    (by decide) (by decide)
  exact ⟨size, current, unmoved.mpr (.inl rfl)⟩

/-- A display of 1920 by 1080. -/
def fullHd : Host :=
  { displayId := 1, modes := [⟨1920, 1080, 0⟩], active := ⟨1920, 1080, 0⟩, pendingRestore := none }

/-- A window of 1030 by 768 on a display of 1920 by 1080. The desktop of 1030 by
579 is echoed as a window in which 579 lines are 1029 pixels wide. -/
theorem echo_of_a_window_shrinks :
    ¬ Unmoved (request (fun _ _ _ => .failed) fullHd (.withMode .bgra .native) (1030, 768)).2.1
        (echoed (fun _ _ _ => .failed) fullHd (.withMode .bgra .native) (1030, 768) ⟨1030, 579⟩).2.1
        (echoed (fun _ _ _ => .failed) fullHd (.withMode .bgra .native) (1030, 768) ⟨1030, 579⟩).2.2 ∧
      (request (fun _ _ _ => .failed) fullHd (.withMode .bgra .native) (1030, 768)).2.1.currentSize =
        some ⟨1030, 579⟩ := by
  refine ⟨fun unmoved => ?_, by decide +kernel⟩
  exact absurd unmoved.currentSize (by decide +kernel)

end Osxrdp.LayoutEcho
