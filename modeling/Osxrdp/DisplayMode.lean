import Osxrdp.DecimalText

/-! `display_mode.rs`: the switcher that puts the main display into a mode of
the client's size and back. The helper processes act on the host; how each of
them ends is an input. The file contents are kept as text. -/
namespace Osxrdp.DisplayMode
open DecimalText (Text)

/-- Several modes of a display may share a size. -/
structure CGDisplayMode where
  width : UInt64
  height : UInt64
  variant : Nat
  deriving DecidableEq, Repr

/-- What the processes share: the main display, its modes in the order they
are enumerated, and the file at `PENDING_RESTORE_FILE`. -/
structure Host where
  displayId : UInt32
  modes : List CGDisplayMode
  active : CGDisplayMode
  pendingRestore : Option Text
  deriving DecidableEq, Repr

/-- `DisplayModeSwitcher`: the mode to restore, and whether a switch is to be undone. -/
structure DisplayModeSwitcher where
  displayId : UInt32
  originalWidth : UInt64
  originalHeight : UInt64
  switched : Bool
  deriving DecidableEq, Repr

/-- How `--display-mode-switch` ends. A helper that completes has made the mode
active, or found it active, and has printed its size. -/
inductive SwitchOutcome where
  | spawnFailed
  | failed
  | completed (mode : CGDisplayMode)
  deriving DecidableEq, Repr

/-- How `--display-mode-restore` ends, when there is a mode of the size asked for. -/
inductive RestoreOutcome where
  | spawnFailed
  | failed
  | completed
  deriving DecidableEq, Repr

/-- Why a restore fails. -/
inductive RestoreError where
  | noOriginalMode
  | spawnFailed
  | helperFailed
  deriving DecidableEq, Repr

/-- The mode `--display-mode-restore` applies. -/
def Host.modeOfSize (host : Host) (width height : UInt64) : Option CGDisplayMode :=
  host.modes.find? fun mode => mode.width == width && mode.height == height

/-- `CGConfigureDisplayWithDisplayMode`, done by a helper. -/
def Host.setMode (host : Host) (mode : CGDisplayMode) : Host := { host with active := mode }

/-- `fs::write` of the pending-restore file. -/
def Host.writePending (host : Host) (contents : Text) : Host :=
  { host with pendingRestore := some contents }

/-- `fs::remove_file` of the pending-restore file. -/
def Host.removePending (host : Host) : Host := { host with pendingRestore := none }

namespace DisplayModeSwitcher

/-- The active mode is what is restored later. -/
def new (host : Host) : DisplayModeSwitcher :=
  { displayId := host.displayId, originalWidth := host.active.width,
    originalHeight := host.active.height, switched := false }

/-- For a mode that an earlier process left behind. -/
def newWithId (displayId : UInt32) (originalWidth originalHeight : UInt64) : DisplayModeSwitcher :=
  { displayId, originalWidth, originalHeight, switched := true }

/-- What `switch_to_best_mode` writes to the pending-restore file. -/
def pendingText (switcher : DisplayModeSwitcher) : Text :=
  DecimalText.unlines [DecimalText.print switcher.displayId.toNat,
    DecimalText.print switcher.originalWidth.toNat, DecimalText.print switcher.originalHeight.toNat]

/-- The display already has the target size, as the parent process sees it. -/
def atTarget (host : Host) (targetW targetH : UInt32) : Bool :=
  host.active.width.toUInt32 == targetW && host.active.height.toUInt32 == targetH

/-- `switch_to_best_mode`: the size switched to, the switcher and the host. -/
def switchToBestMode (host : Host) (switcher : DisplayModeSwitcher) (targetW targetH : UInt32)
    (outcome : SwitchOutcome) : Option (UInt32 × UInt32) × DisplayModeSwitcher × Host :=
  if atTarget host targetW targetH then (some (targetW, targetH), switcher, host)
  else match outcome with
    | .spawnFailed | .failed => (none, switcher, host)
    | .completed mode =>
      (some (mode.width.toUInt32, mode.height.toUInt32), { switcher with switched := true },
        (host.setMode mode).writePending switcher.pendingText)

/-- `restore`, and likewise `Drop`, which only logs the error. -/
def restore (host : Host) (switcher : DisplayModeSwitcher) (outcome : RestoreOutcome) :
    Except RestoreError Unit × DisplayModeSwitcher × Host :=
  if switcher.switched = false then (.ok (), switcher, host)
  else
    let switcher := { switcher with switched := false }
    if switcher.originalWidth = 0 ∨ switcher.originalHeight = 0 then
      (.error .noOriginalMode, switcher, host)
    else match outcome with
      | .spawnFailed => (.error .spawnFailed, switcher, host)
      | .failed => (.error .helperFailed, switcher, host)
      | .completed => match host.modeOfSize switcher.originalWidth switcher.originalHeight with
        | none => (.error .helperFailed, switcher, host)
        | some mode => (.ok (), switcher, (host.setMode mode).removePending)

end DisplayModeSwitcher

/-- The three numbers of a pending-restore file, if it has that format. -/
def parsePending (contents : Text) : Option (UInt32 × UInt64 × UInt64) :=
  match DecimalText.lines (DecimalText.trim contents) with
  | [displayId, width, height] =>
    match DecimalText.parse UInt32.size displayId, DecimalText.parse UInt64.size width,
        DecimalText.parse UInt64.size height with
    | some displayId, some width, some height => some (displayId.toUInt32, width.toUInt64, height.toUInt64)
    | _, _, _ => none
  | _ => none

/-- `restore_pending`. Its switcher is dropped at the end, having nothing left
to restore. -/
def restorePending (host : Host) (outcome : RestoreOutcome) : Host :=
  match host.pendingRestore with
  | none => host
  | some contents =>
    match parsePending contents with
    | none => host.removePending
    | some (displayId, width, height) =>
      let switcher := DisplayModeSwitcher.newWithId displayId width height
      (switcher.restore host outcome).2.2.removePending

/-- The file a switch writes is read back as the same three numbers. -/
theorem parsePending_pendingText (switcher : DisplayModeSwitcher) :
    parsePending switcher.pendingText =
      some (switcher.displayId, switcher.originalWidth, switcher.originalHeight) := by
  have three := DecimalText.lines_trim_unlines_print
    (List.cons_ne_nil switcher.displayId.toNat
      [switcher.originalWidth.toNat, switcher.originalHeight.toNat])
  simp only [List.map_cons, List.map_nil] at three
  simp only [parsePending, DisplayModeSwitcher.pendingText, three,
    DecimalText.parse_print switcher.displayId.toNat_lt_size,
    DecimalText.parse_print switcher.originalWidth.toNat_lt_size,
    DecimalText.parse_print switcher.originalHeight.toNat_lt_size]
  simp

section Switching
variable {host : Host} {switcher : DisplayModeSwitcher} {targetW targetH : UInt32}
  {outcome : SwitchOutcome}

/-- The helper is run and completes with this mode. -/
def Switches (host : Host) (targetW targetH : UInt32) (outcome : SwitchOutcome)
    (mode : CGDisplayMode) : Prop :=
  DisplayModeSwitcher.atTarget host targetW targetH = false ∧ outcome = .completed mode

/-- A switch either leaves switcher and host alone, or makes the helper's mode
active, remembers that, and writes the file. -/
theorem switchToBestMode_cases (host : Host) (switcher : DisplayModeSwitcher)
    (targetW targetH : UInt32) (outcome : SwitchOutcome) :
    (∃ size, switcher.switchToBestMode host targetW targetH outcome = (size, switcher, host) ∧
      ∀ mode, ¬ Switches host targetW targetH outcome mode) ∨
    ∃ mode, Switches host targetW targetH outcome mode ∧
      switcher.switchToBestMode host targetW targetH outcome =
        (some (mode.width.toUInt32, mode.height.toUInt32), { switcher with switched := true },
          (host.setMode mode).writePending switcher.pendingText) := by
  unfold DisplayModeSwitcher.switchToBestMode
  cases already : DisplayModeSwitcher.atTarget host targetW targetH with
  | true => exact .inl ⟨_, rfl, fun mode switches => by simp [Switches, already] at switches⟩
  | false =>
    cases outcome with
    | spawnFailed => exact .inl ⟨_, rfl, fun mode switches => by simp [Switches] at switches⟩
    | failed => exact .inl ⟨_, rfl, fun mode switches => by simp [Switches] at switches⟩
    | completed mode => exact .inr ⟨mode, ⟨already, rfl⟩, rfl⟩

end Switching

section Restoring

/-- The restore helper finds a mode of the original size and applies it. -/
def Restores (host : Host) (switcher : DisplayModeSwitcher) (outcome : RestoreOutcome)
    (mode : CGDisplayMode) : Prop :=
  switcher.originalWidth ≠ 0 ∧ switcher.originalHeight ≠ 0 ∧ outcome = .completed ∧
    host.modeOfSize switcher.originalWidth switcher.originalHeight = some mode

/-- A restore does nothing unless the switcher remembers a switch, which it
then forgets; only a successful one changes the host. -/
theorem restore_cases (host : Host) (switcher : DisplayModeSwitcher) (outcome : RestoreOutcome) :
    (switcher.switched = false ∧ switcher.restore host outcome = (.ok (), switcher, host)) ∨
    (switcher.switched = true ∧ (∀ mode, ¬ Restores host switcher outcome mode) ∧
      ∃ error, switcher.restore host outcome =
        (.error error, { switcher with switched := false }, host)) ∨
    (switcher.switched = true ∧ ∃ mode, Restores host switcher outcome mode ∧
      switcher.restore host outcome =
        (.ok (), { switcher with switched := false }, (host.setMode mode).removePending)) := by
  unfold DisplayModeSwitcher.restore
  by_cases idle : switcher.switched = false
  · exact .inl ⟨idle, if_pos idle⟩
  · have switched : switcher.switched = true := by simpa using idle
    rw [if_neg idle]
    by_cases unsaved : switcher.originalWidth = 0 ∨ switcher.originalHeight = 0
    · refine .inr (.inl ⟨switched, fun mode restores => ?_, .noOriginalMode, if_pos unsaved⟩)
      exact unsaved.elim restores.1 restores.2.1
    · rw [if_neg unsaved]
      rw [not_or] at unsaved
      cases outcome with
      | spawnFailed => exact .inr (.inl ⟨switched, fun _ ⟨_, _, ended, _⟩ => (nomatch ended), _, rfl⟩)
      | failed => exact .inr (.inl ⟨switched, fun _ ⟨_, _, ended, _⟩ => (nomatch ended), _, rfl⟩)
      | completed =>
        dsimp only
        cases found : host.modeOfSize switcher.originalWidth switcher.originalHeight with
        | none =>
          refine .inr (.inl ⟨switched, fun mode ⟨_, _, _, same⟩ => ?_, _, rfl⟩)
          exact nomatch found.symm.trans same
        | some mode => exact .inr (.inr ⟨switched, mode, ⟨unsaved.1, unsaved.2, rfl, found⟩, rfl⟩)

end Restoring

/-- A display with two modes, in the first of them. -/
def laptop : Host :=
  { displayId := 1, modes := [⟨1440, 900, 0⟩, ⟨1280, 720, 0⟩], active := ⟨1440, 900, 0⟩,
    pendingRestore := none }

end Osxrdp.DisplayMode
