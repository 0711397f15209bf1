import Osxrdp.DisplayMode
import Osxrdp.Runs

/-! A switched display must stay restorable: away from its original mode, the
switcher has to remember that it switched. The flag is cleared before the
restore helper is run, so exactly the restores that do not end in the original
mode break this. -/
namespace Osxrdp.Restorability
open DisplayMode

/-- The calls made on one switcher; `Drop` is a restore. -/
inductive Call where
  | switchToBestMode (targetW targetH : UInt32) (outcome : SwitchOutcome)
  | restore (outcome : RestoreOutcome)
  deriving DecidableEq, Repr

/-- The switcher acting on its host; the events are the results of restores. -/
def step : Runs.System (Host × DisplayModeSwitcher) Call (Except RestoreError Unit)
  | (host, switcher), .switchToBestMode targetW targetH outcome =>
    let (_, switcher, host) := switcher.switchToBestMode host targetW targetH outcome
    some ((host, switcher), [])
  | (host, switcher), .restore outcome =>
    let (result, switcher, host) := switcher.restore host outcome
    some ((host, switcher), [result])

/-- Away from the original mode, the next restore still runs the helper. -/
def Restorable (original : CGDisplayMode) (state : Host × DisplayModeSwitcher) : Prop :=
  state.1.active ≠ original → state.2.switched = true

/-- A restore that runs the helper either applies the original mode, or fails
while the display is in its original mode anyway. -/
def Returns (original : CGDisplayMode) : Host × DisplayModeSwitcher → Call → Prop
  | _, .switchToBestMode _ _ _ => True
  | (host, switcher), .restore outcome => switcher.switched = true →
    Restores host switcher outcome original ∨
      (∀ mode, ¬ Restores host switcher outcome mode) ∧ host.active = original

/-- A restore of a restorable display ends in the original mode exactly when it returns it. -/
theorem restore_returns_iff {original : CGDisplayMode} {host : Host} {switcher : DisplayModeSwitcher}
    {outcome : RestoreOutcome} (restorable : Restorable original (host, switcher)) :
    (switcher.restore host outcome).2.2.active = original ↔
      Returns original (host, switcher) (.restore outcome) := by
  rcases restore_cases host switcher outcome with
    ⟨idle, unchanged⟩ | ⟨switched, fails, error, failed⟩ | ⟨switched, mode, restores, restored⟩
  · rw [unchanged]
    refine iff_of_true (by_contra fun away => ?_) (by simp [Returns, idle])
    exact Bool.false_ne_true (idle.symm.trans (restorable away))
  · rw [failed]
    constructor
    · exact fun home _ => .inr ⟨fails, home⟩
    · intro returns
      rcases returns switched with restores | ⟨_, home⟩
      · exact (fails _ restores).elim
      · exact home
  · rw [restored]
    constructor
    · rintro rfl _
      exact .inl restores
    · intro returns
      rcases returns switched with home | ⟨fails, _⟩
      · exact Option.some.inj (restores.2.2.2.symm.trans home.2.2.2)
      · exact (fails mode restores).elim

/-- A restore forgets the switch. -/
theorem restore_forgets (host : Host) (switcher : DisplayModeSwitcher) (outcome : RestoreOutcome) :
    (switcher.restore host outcome).2.1.switched = false := by
  rcases restore_cases host switcher outcome with
    ⟨idle, unchanged⟩ | ⟨_, _, error, failed⟩ | ⟨_, mode, _, restored⟩
  · rw [unchanged]
    exact idle
  · rw [failed]
  · rw [restored]

/-- A step keeps the display restorable exactly when its restore returns it. -/
theorem step_restorable_iff {original : CGDisplayMode} {state next : Host × DisplayModeSwitcher}
    {call : Call} {emitted : List (Except RestoreError Unit)} (restorable : Restorable original state)
    (stepped : step state call = some (next, emitted)) :
    Restorable original next ↔ Returns original state call := by
  obtain ⟨host, switcher⟩ := state
  cases call with
  | switchToBestMode targetW targetH outcome =>
    refine iff_of_true ?_ trivial
    rcases switchToBestMode_cases host switcher targetW targetH outcome with
      ⟨size, unchanged, _⟩ | ⟨mode, _, switched⟩
    · simp only [step, unchanged, Option.some.injEq, Prod.mk.injEq] at stepped
      obtain ⟨rfl, _⟩ := stepped
      exact restorable
    · simp only [step, switched, Option.some.injEq, Prod.mk.injEq] at stepped
      obtain ⟨rfl, _⟩ := stepped
      exact fun _ => rfl
  | restore outcome =>
    cases stepped
    have forgets := restore_forgets host switcher outcome
    refine Iff.trans ?_ (restore_returns_iff restorable)
    constructor
    · intro after
      by_contra away
      exact Bool.false_ne_true (forgets.symm.trans (after away))
    · exact fun home away => (away home).elim

/-- **Restorability.** A switcher created in the original mode keeps the
display restorable throughout a run exactly when no restore of the run that
still has something to restore misses the original mode. -/
theorem always_restorable_iff (host : Host) (calls : List Call) :
    Runs.Always step (Restorable host.active) (host, DisplayModeSwitcher.new host) calls ↔
      Runs.Meets step (fun _ => Returns host.active) [] (host, DisplayModeSwitcher.new host) calls := by
  have survives : ∀ state (_ : List (Except RestoreError Unit)) call next emitted,
      Restorable host.active state → True → step state call = some (next, emitted) →
        (Restorable host.active next ↔ Returns host.active state call) :=
    fun _ _ _ _ _ restorable _ stepped => step_restorable_iff restorable stepped
  exact Runs.always_iff_meets _ (fun _ => True) survives (fun _ _ _ _ _ _ _ _ _ => trivial)
    (fun away => (away rfl).elim) trivial

/-- The switch succeeds and the restore helper cannot be spawned: the display
stays in the client's mode, and a later restore reports success without
running anything. -/
theorem failed_restore_strands_display :
    (∃ final, Runs.run step (laptop, DisplayModeSwitcher.new laptop)
        [.switchToBestMode 1280 720 (.completed ⟨1280, 720, 0⟩), .restore .spawnFailed,
          .restore .completed] = some (final, [.error .spawnFailed, .ok ()]) ∧
      final.1.active = ⟨1280, 720, 0⟩ ∧ final.2.switched = false) ∧
    ¬ Runs.Always step (Restorable laptop.active) (laptop, DisplayModeSwitcher.new laptop)
      [.switchToBestMode 1280 720 (.completed ⟨1280, 720, 0⟩), .restore .spawnFailed,
        .restore .completed] := by
  refine ⟨⟨_, rfl, rfl, rfl⟩, fun always => ?_⟩
  have stranded := Runs.always_final always rfl (by decide)
  exact Bool.false_ne_true stranded

end Osxrdp.Restorability
