import Osxrdp.ModeSelection

/-! Switching the display with the helper's own selection, and restoring it: the
mode at the start is remembered by its dimensions only. -/
namespace Osxrdp.ModeRestoration
open DisplayMode ModeSelection

/-- How a run of `--display-mode-switch` goes apart from what it selects. -/
inductive HelperRun where
  | spawnFailed
  | enumerationFailed
  | ran (configured : Bool)
  deriving DecidableEq, Repr

/-- `run_helper` with `--display-mode-switch`, on a display whose current mode
can be told. -/
def helperOutcome (fl : Rounding 53) (host : Host) (targetW targetH : UInt32) : HelperRun → SwitchOutcome
  | .spawnFailed => .spawnFailed
  | .enumerationFailed => .failed
  | .ran configured => match search fl host.modes (some host.active) targetW targetH with
    | .alreadyAtTarget => .completed host.active
    | .noMode => .failed
    | .selected best =>
      -- Already at the best mode: its size is printed, but it is not applied.
      if modeW best = modeW host.active ∧ modeH best = modeH host.active then .completed host.active
      else if configured then .completed best else .failed

/-- A request, and how its helper ends. -/
structure Request where
  targetW : UInt32
  targetH : UInt32
  helper : HelperRun
  deriving DecidableEq, Repr

/-- Calls of `switch_to_best_mode` one after another, while they succeed. -/
def switchAll (fl : Rounding 53) : Host → DisplayModeSwitcher → List Request →
    Option (DisplayModeSwitcher × Host)
  | host, switcher, [] => some (switcher, host)
  | host, switcher, request :: rest =>
    match switcher.switchToBestMode host request.targetW request.targetH
      (helperOutcome fl host request.targetW request.targetH request.helper) with
    | (none, _, _) => none
    | (some _, switcher, host) => switchAll fl host switcher rest

variable {fl : Rounding 53} {host switchedHost : Host} {switcher switched : DisplayModeSwitcher}
  {requests : List Request} {request : Request}

/-- The request is for the size that the display has. -/
def Request.Idle (request : Request) (host : Host) : Prop :=
  DisplayModeSwitcher.atTarget host request.targetW request.targetH = true

/-- A successful call is idle, or makes some mode active and remembers that. -/
theorem switch_succeeds {outcome : SwitchOutcome} {targetW targetH : UInt32} {size : UInt32 × UInt32}
    {after : DisplayModeSwitcher} {next : Host}
    (called : switcher.switchToBestMode host targetW targetH outcome = (some size, after, next)) :
    (DisplayModeSwitcher.atTarget host targetW targetH = true ∧ after = switcher ∧ next = host) ∨
    (DisplayModeSwitcher.atTarget host targetW targetH = false ∧ after = { switcher with switched := true } ∧
      next.modes = host.modes) := by
  unfold DisplayModeSwitcher.switchToBestMode at called
  cases idle : DisplayModeSwitcher.atTarget host targetW targetH with
  | true =>
    rw [idle] at called
    cases called
    exact .inl ⟨rfl, rfl, rfl⟩
  | false =>
    rw [idle] at called
    cases outcome with
    | spawnFailed => cases called
    | failed => cases called
    | completed mode =>
      cases called
      exact .inr ⟨rfl, rfl, rfl⟩

/-- What a sequence of calls keeps. -/
theorem switchAll_keeps (ran : switchAll fl host switcher requests = some (switched, switchedHost)) :
    switchedHost.modes = host.modes ∧ switched.originalWidth = switcher.originalWidth ∧
      switched.originalHeight = switcher.originalHeight ∧
      (switcher.switched = true → switched.switched = true) := by
  induction requests generalizing host switcher with
  | nil =>
    cases ran
    exact ⟨rfl, rfl, rfl, id⟩
  | cons request rest ih =>
    unfold switchAll at ran
    split at ran
    · cases ran
    next size after next called =>
      obtain ⟨modes, width, height, remembered⟩ := ih ran
      obtain ⟨_, rfl, rfl⟩ | ⟨_, rfl, same⟩ := switch_succeeds called
      · exact ⟨modes, width, height, remembered⟩
      · exact ⟨modes.trans same, width, height, fun _ => remembered rfl⟩

/-- Idle requests do nothing, and after any other the switch is remembered. -/
theorem switchAll_idle (ran : switchAll fl host switcher requests = some (switched, switchedHost)) :
    ((∀ request ∈ requests, request.Idle host) ∧ switched = switcher ∧ switchedHost = host) ∨
    ((∃ request ∈ requests, ¬ request.Idle host) ∧ switched.switched = true) := by
  induction requests with
  | nil =>
    cases ran
    exact .inl ⟨List.forall_mem_nil _, rfl, rfl⟩
  | cons request rest ih =>
    unfold switchAll at ran
    split at ran
    · cases ran
    next size after next called =>
      obtain ⟨idle, rfl, rfl⟩ | ⟨busy, rfl, _⟩ := switch_succeeds called
      · obtain ⟨allIdle, sameSwitcher, sameHost⟩ | ⟨⟨other, among, busy⟩, remembered⟩ := ih ran
        · exact .inl ⟨List.forall_mem_cons.mpr ⟨idle, allIdle⟩, sameSwitcher, sameHost⟩
        · exact .inr ⟨⟨other, List.mem_cons_of_mem _ among, busy⟩, remembered⟩
      · refine .inr ⟨⟨request, List.mem_cons_self, ?_⟩, (switchAll_keeps ran).2.2.2 rfl⟩
        unfold Request.Idle
        rw [busy]
        exact Bool.false_ne_true

/-- **Switch and restore.** After switches that succeed, a restore that succeeds
leaves the mode of the start active exactly when every request was for the size
of that mode, or it is the first in the enumeration with its size. -/
theorem restored_to_original_iff (host : Host) (requests : List Request)
    (ran : switchAll fl host (.new host) requests = some (switched, switchedHost))
    {outcome : RestoreOutcome} (restored : (switched.restore switchedHost outcome).1 = .ok ()) :
    (switched.restore switchedHost outcome).2.2.active = host.active ↔
      (∀ request ∈ requests, request.Idle host) ∨
        host.modeOfSize host.active.width host.active.height = some host.active := by
  obtain ⟨idle, rfl, rfl⟩ | ⟨⟨request, among, busy⟩, remembered⟩ := switchAll_idle ran
  · have same : (DisplayModeSwitcher.new switchedHost).restore switchedHost outcome =
        (.ok (), .new switchedHost, switchedHost) := rfl
    rw [same]
    exact iff_of_true rfl (.inl idle)
  · obtain ⟨modes, width, height, _⟩ := switchAll_keeps ran
    have notIdle : ¬ ∀ request ∈ requests, request.Idle host := fun idle => busy (idle request among)
    rw [or_iff_right notIdle]
    obtain ⟨unswitched, _⟩ | ⟨_, _, error, failed⟩ | ⟨_, mode, ⟨_, _, _, found⟩, applied⟩ :=
      restore_cases switchedHost switched outcome
    · rw [remembered] at unswitched
      cases unswitched
    · rw [failed] at restored
      cases restored
    · have sameMode : host.modeOfSize host.active.width host.active.height = some mode := by
        unfold Host.modeOfSize at found ⊢
        rw [modes, width, height] at found
        exact found
      rw [applied, sameMode, Option.some.injEq]
      exact Iff.rfl

private theorem switchAll_single (switcher : DisplayModeSwitcher) {targetW targetH : UInt32}
    {helper : HelperRun} {mode : CGDisplayMode} (busy : DisplayModeSwitcher.atTarget host targetW targetH = false)
    (selects : helperOutcome fl host targetW targetH helper = .completed mode) :
    switchAll fl host switcher [⟨targetW, targetH, helper⟩] =
      some ({ switcher with switched := true }, (host.setMode mode).writePending switcher.pendingText) := by
  unfold switchAll DisplayModeSwitcher.switchToBestMode
  rw [selects, if_neg (by simp [busy])]
  rfl

/-- A laptop's display is restored. -/
theorem laptop_is_restored :
    ∃ switched switchedHost, switchAll (.exact 53) laptop (.new laptop) [⟨1280, 720, .ran true⟩] =
        some (switched, switchedHost) ∧
      (switched.restore switchedHost .completed).2.2.active = laptop.active := by
  have selects : helperOutcome (.exact 53) laptop 1280 720 (.ran true) = .completed ⟨1280, 720, 0⟩ := by
    decide +kernel
  have ran := switchAll_single (DisplayModeSwitcher.new laptop) rfl selects
  exact ⟨_, _, ran, (restored_to_original_iff laptop _ ran rfl).mpr (.inr rfl)⟩

/-- A display in the second of two modes that share their size. -/
def twoRates : Host :=
  { displayId := 1, modes := [⟨1440, 900, 0⟩, ⟨1440, 900, 1⟩, ⟨1280, 720, 0⟩], active := ⟨1440, 900, 1⟩,
    pendingRestore := none }

/-- A display with two modes of its size is restored to the one it had. -/
theorem other_rate_is_restored :
    twoRates.active ∈ twoRates.modes ∧ ∃ switched switchedHost,
      switchAll (.exact 53) twoRates (.new twoRates) [⟨1280, 720, .ran true⟩] = some (switched, switchedHost) ∧
      (switched.restore switchedHost .completed).1 = .ok () ∧
      (switched.restore switchedHost .completed).2.2.active ≠ twoRates.active := by
  have selects : helperOutcome (.exact 53) twoRates 1280 720 (.ran true) = .completed ⟨1280, 720, 0⟩ := by
    decide +kernel
  exact ⟨by decide, _, _, switchAll_single (DisplayModeSwitcher.new twoRates) rfl selects, rfl, by decide⟩

end Osxrdp.ModeRestoration
