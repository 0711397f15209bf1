import Osxrdp.DisplayMode
import Osxrdp.Runs

/-! The pending-restore file across crashes. Every call is a script of actions
on the host, one at a time, and the server may die between any two of them. A
helper is a process of its own and outlives the server. The file is written only
after the helper has switched the display, and is removed at start-up whether or
not the restore worked. -/
namespace Osxrdp.CrashRecovery
open DisplayMode DisplayModeSwitcher
open DecimalText (Text)

/-- A helper process, with the mode that it is to apply. -/
inductive Helper where
  | switchMode (best : CGDisplayMode)
  | restoreMode (mode : CGDisplayMode)
  deriving DecidableEq, Repr

/-- The display has the size of the mode, as a switch helper sees it. -/
def atBest (host : Host) (best : CGDisplayMode) : Bool :=
  best.width.toUInt32 == host.active.width.toUInt32 && best.height.toUInt32 == host.active.height.toUInt32

/-- A switch helper that finds the display at the best mode applies nothing. -/
def Helper.apply (host : Host) : Helper → Host
  | .switchMode best => if atBest host best then host else host.setMode best
  | .restoreMode mode => host.setMode mode

/-- One effect outside the server's memory: of a helper, of the server on the
file, or the end of the server. -/
inductive Action where
  | run (helper : Helper)
  | writePending (contents : Text)
  | removePending
  | exit
  deriving DecidableEq, Repr

/-- The effects of `switch_to_best_mode`, in order. -/
def switchScript (host : Host) (switcher : DisplayModeSwitcher) (targetW targetH : UInt32)
    (outcome : SwitchOutcome) : List Action :=
  if atTarget host targetW targetH then []
  else match outcome with
    | .spawnFailed | .failed => []
    | .completed mode => [.run (.switchMode mode), .writePending switcher.pendingText]

/-- The effects of `restore`. -/
def restoreScript (host : Host) (switcher : DisplayModeSwitcher) (outcome : RestoreOutcome) :
    List Action :=
  if switcher.switched = false ∨ switcher.originalWidth = 0 ∨ switcher.originalHeight = 0 then []
  else match outcome with
    | .spawnFailed | .failed => []
    | .completed => match host.modeOfSize switcher.originalWidth switcher.originalHeight with
      | none => []
      | some mode => [.run (.restoreMode mode), .removePending]

/-- The effects of `restore_pending`. -/
def restorePendingScript (host : Host) (outcome : RestoreOutcome) : List Action :=
  match host.pendingRestore with
  | none => []
  | some contents =>
    match parsePending contents with
    | none => [.removePending]
    | some (displayId, width, height) =>
      restoreScript host (newWithId displayId width height) outcome ++ [.removePending]

/-- What an action does to the display and the file. -/
def perform (host : Host) : Action → Host
  | .run helper => helper.apply host
  | .writePending contents => host.writePending contents
  | .removePending => host.removePending
  | .exit => host

section Scripts
variable (host : Host) (switcher : DisplayModeSwitcher)

/-- Uninterrupted, the script of a switch does what the call does, where a mode
of the size of the display is the one that it is in. -/
theorem switchScript_performs (targetW targetH : UInt32) (outcome : SwitchOutcome)
    (found : ∀ mode, outcome = .completed mode → atBest host mode = true → mode = host.active) :
    (switchScript host switcher targetW targetH outcome).foldl perform host =
      (switcher.switchToBestMode host targetW targetH outcome).2.2 := by
  unfold switchScript switchToBestMode
  split
  · rfl
  · cases outcome with
    | spawnFailed => rfl
    | failed => rfl
    | completed mode =>
      have applied : (Helper.switchMode mode).apply host = host.setMode mode := by
        cases already : atBest host mode with
        | true =>
          rw [found mode rfl already]
          exact ite_self _
        | false => exact if_neg (by simp [already])
      simp only [List.foldl_cons, List.foldl_nil, perform, applied]

private theorem restoreScript_performs (outcome : RestoreOutcome) :
    (restoreScript host switcher outcome).foldl perform host =
      (switcher.restore host outcome).2.2 := by
  unfold restoreScript restore
  by_cases idle : switcher.switched = false
  · simp [idle]
  · by_cases unsaved : switcher.originalWidth = 0 ∨ switcher.originalHeight = 0
    · simp [idle, unsaved]
    · simp only [idle, unsaved, ↓reduceIte]
      cases outcome with
      | spawnFailed => rfl
      | failed => rfl
      | completed =>
        dsimp only
        cases host.modeOfSize switcher.originalWidth switcher.originalHeight <;> rfl

theorem restorePendingScript_performs (outcome : RestoreOutcome) :
    (restorePendingScript host outcome).foldl perform host = restorePending host outcome := by
  unfold restorePendingScript restorePending
  cases host.pendingRestore with
  | none => rfl
  | some contents =>
    dsimp only
    cases parsePending contents with
    | none => rfl
    | some numbers => rw [List.foldl_append, restoreScript_performs]; rfl

end Scripts

/-- The server's switcher, if it has one yet, and what is left of its call. -/
structure Server where
  switcher : Option DisplayModeSwitcher
  script : List Action
  deriving DecidableEq, Repr

/-- The helper that the server waits for. -/
def Server.running (server : Server) : List Helper :=
  match server.script with
  | .run helper :: _ => [helper]
  | _ => []

/-- The host, the server if it is alive, the helpers that have outlived theirs,
and whether the mode in place was set by a switch and not restored since. -/
structure Machine where
  host : Host
  server : Option Server
  orphans : List Helper
  inSwitchedMode : Bool
  deriving DecidableEq, Repr

/-- What may happen next: a request, an action of the script, a death. -/
inductive Input where
  | start (outcome : RestoreOutcome)
  | switchToBestMode (targetW targetH : UInt32) (outcome : SwitchOutcome)
  | restore (outcome : RestoreOutcome)
  | shutdown (outcome : RestoreOutcome)
  | act
  | die
  | crash (outcome : RestoreOutcome)
  | orphan (index : Nat)
  deriving DecidableEq, Repr

/-- The restore of `client_disconnected` or of `Drop`; there may be no switcher. -/
def restoreServer (host : Host) (switcher : Option DisplayModeSwitcher) (outcome : RestoreOutcome) :
    Server :=
  match switcher with
  | none => ⟨none, []⟩
  | some switcher => ⟨some (switcher.restore host outcome).2.1, restoreScript host switcher outcome⟩

/-- The machine with another server, or none. -/
def Machine.withServer (machine : Machine) (server : Option Server) : Machine :=
  { machine with server }

/-- A helper changes the mode. A switch to the mode that is active changes nothing. -/
def Machine.run (machine : Machine) (helper : Helper) : Machine := { machine with
  host := helper.apply machine.host
  inSwitchedMode := match helper with
    | .switchMode best => !atBest machine.host best || machine.inSwitchedMode
    | .restoreMode _ => false }

/-- The server does the first action of its script. -/
def Machine.act (machine : Machine) (switcher : Option DisplayModeSwitcher) (action : Action)
    (rest : List Action) : Machine :=
  match action with
  | .run helper => (machine.run helper).withServer (some ⟨switcher, rest⟩)
  | .writePending contents =>
    { machine with host := machine.host.writePending contents, server := some ⟨switcher, rest⟩ }
  | .removePending => { machine with host := machine.host.removePending, server := some ⟨switcher, rest⟩ }
  | .exit => machine.withServer none

/-- The server gives up its call, and its helper goes on alone. -/
def Machine.abandon (machine : Machine) (old : Server) (server : Option Server) : Machine :=
  { machine with server, orphans := machine.orphans ++ old.running }

/-- Calls start when the server is between calls. `die` is a death without
warning; `crash` is the signal handler, which runs `restore_pending` first. A
helper whose server is gone comes to its end at any time, or never. -/
def step : Runs.System Machine Input Action
  | machine, .start outcome =>
    match machine.server with
    | none => some (machine.withServer (some ⟨none, restorePendingScript machine.host outcome⟩), [])
    | some _ => none
  | machine, .switchToBestMode targetW targetH outcome =>
    match machine.server with
    | some ⟨saved, []⟩ =>
      let switcher := saved.getD (DisplayModeSwitcher.new machine.host)
      let switched := (switcher.switchToBestMode machine.host targetW targetH outcome).2.1
      let script := switchScript machine.host switcher targetW targetH outcome
      some (machine.withServer (some ⟨some switched, script⟩), [])
    | _ => none
  | machine, .restore outcome =>
    match machine.server with
    | some ⟨saved, []⟩ =>
      some (machine.withServer (some (restoreServer machine.host saved outcome)), [])
    | _ => none
  | machine, .shutdown outcome =>
    match machine.server with
    | some ⟨saved, []⟩ =>
      let server := restoreServer machine.host saved outcome
      some (machine.withServer (some ⟨server.switcher, server.script ++ [.exit]⟩), [])
    | _ => none
  | machine, .act =>
    match machine.server with
    | some ⟨saved, action :: rest⟩ => some (machine.act saved action rest, [action])
    | _ => none
  | machine, .die =>
    match machine.server with
    | some server => some (machine.abandon server none, [])
    | none => none
  | machine, .crash outcome =>
    match machine.server with
    | some server =>
      let script := restorePendingScript machine.host outcome ++ [.exit]
      some (machine.abandon server (some ⟨server.switcher, script⟩), [])
    | none => none
  | machine, .orphan index =>
    match machine.orphans[index]? with
    | some helper =>
      some ({ machine.run helper with orphans := machine.orphans.eraseIdx index }, [.run helper])
    | none => none

/-- A display in its original mode, no file, and no server yet. -/
def Machine.fresh (host : Host) : Machine :=
  { host := { host with pendingRestore := none }, server := none, orphans := [], inSwitchedMode := false }

/-- What each step does, by its input and the state of the server. -/
inductive Transition (machine : Machine) : Input → Machine → Prop
  | start (outcome : RestoreOutcome) (dead : machine.server = none) :
    Transition machine (.start outcome)
      (machine.withServer (some ⟨none, restorePendingScript machine.host outcome⟩))
  | switchToBestMode (targetW targetH : UInt32) (outcome : SwitchOutcome)
    (saved : Option DisplayModeSwitcher) (idle : machine.server = some ⟨saved, []⟩) :
    Transition machine (.switchToBestMode targetW targetH outcome) (machine.withServer (some
      ⟨some ((saved.getD (.new machine.host)).switchToBestMode machine.host targetW targetH outcome).2.1,
        switchScript machine.host (saved.getD (.new machine.host)) targetW targetH outcome⟩))
  | restore (outcome : RestoreOutcome) (saved : Option DisplayModeSwitcher)
    (idle : machine.server = some ⟨saved, []⟩) :
    Transition machine (.restore outcome)
      (machine.withServer (some (restoreServer machine.host saved outcome)))
  | shutdown (outcome : RestoreOutcome) (saved : Option DisplayModeSwitcher)
    (idle : machine.server = some ⟨saved, []⟩) :
    Transition machine (.shutdown outcome) (machine.withServer (some
      ⟨(restoreServer machine.host saved outcome).switcher,
        (restoreServer machine.host saved outcome).script ++ [.exit]⟩))
  | act (saved : Option DisplayModeSwitcher) (action : Action) (rest : List Action)
    (running : machine.server = some ⟨saved, action :: rest⟩) :
    Transition machine .act (machine.act saved action rest)
  | die (server : Server) (alive : machine.server = some server) :
    Transition machine .die (machine.abandon server none)
  | crash (outcome : RestoreOutcome) (server : Server) (alive : machine.server = some server) :
    Transition machine (.crash outcome) (machine.abandon server (some
      ⟨server.switcher, restorePendingScript machine.host outcome ++ [.exit]⟩))
  | orphan (index : Nat) (helper : Helper) (left : machine.orphans[index]? = some helper) :
    Transition machine (.orphan index) { machine.run helper with orphans := machine.orphans.eraseIdx index }

/-- All that a step can do. -/
theorem step_transition {machine next : Machine} {input : Input} {emitted : List Action}
    (stepped : step machine input = some (next, emitted)) : Transition machine input next := by
  cases input with
  | start outcome =>
    simp only [step] at stepped
    split at stepped
    · rename_i dead
      cases stepped
      exact .start outcome dead
    · cases stepped
  | switchToBestMode targetW targetH outcome =>
    simp only [step] at stepped
    split at stepped
    · rename_i saved idle
      cases stepped
      exact .switchToBestMode targetW targetH outcome saved idle
    · cases stepped
  | restore outcome =>
    simp only [step] at stepped
    split at stepped
    · rename_i saved idle
      cases stepped
      exact .restore outcome saved idle
    · cases stepped
  | shutdown outcome =>
    simp only [step] at stepped
    split at stepped
    · rename_i saved idle
      cases stepped
      exact .shutdown outcome saved idle
    · cases stepped
  | act =>
    simp only [step] at stepped
    split at stepped
    · rename_i saved action rest running
      cases stepped
      exact .act saved action rest running
    · cases stepped
  | die =>
    simp only [step] at stepped
    split at stepped
    · rename_i server alive
      cases stepped
      exact .die server alive
    · cases stepped
  | crash outcome =>
    simp only [step] at stepped
    split at stepped
    · rename_i server alive
      cases stepped
      exact .crash outcome server alive
    · cases stepped
  | orphan index =>
    simp only [step] at stepped
    split at stepped
    · rename_i helper left
      cases stepped
      exact .orphan index helper left
    · cases stepped

section Statement
variable (original : CGDisplayMode)

/-- The file exists and holds the display id and the original size. -/
def Holds (host : Host) : Prop :=
  ∃ contents, host.pendingRestore = some contents ∧
    parsePending contents = some (host.displayId, original.width, original.height)

/-- The switch helper has finished and the server is about to write the file. -/
def AboutToWrite (machine : Machine) : Prop :=
  ∃ switcher contents rest, machine.server = some ⟨switcher, .writePending contents :: rest⟩

/-- A display left in a switched mode can be recovered from the file. -/
def Recoverable (machine : Machine) : Prop :=
  machine.inSwitchedMode = true → ¬ AboutToWrite machine → Holds original machine.host

/-- The server does not die before it has written the file of a switched
display, nor remove the file while it is still switched; and a helper that has
outlived its server switches it only when the file holds or is about to. -/
def KeepsFile (machine : Machine) : Input → Prop
  | .die | .crash _ => machine.inSwitchedMode = true → AboutToWrite machine → Holds original machine.host
  | .act => (∃ switcher rest, machine.server = some ⟨switcher, .removePending :: rest⟩) →
      machine.inSwitchedMode = false
  | .orphan index => ∀ best, machine.orphans[index]? = some (.switchMode best) →
      atBest machine.host best = false → AboutToWrite machine ∨ Holds original machine.host
  | _ => True

end Statement

section Invariant
variable {original : CGDisplayMode} {displayId : UInt32}

/-- The switcher has saved the original size. -/
structure Remembers (original : CGDisplayMode) (displayId : UInt32)
    (switcher : DisplayModeSwitcher) : Prop where
  id_eq : switcher.displayId = displayId
  width_eq : switcher.originalWidth = original.width
  height_eq : switcher.originalHeight = original.height

/-- The file contents that every switch writes. -/
def text (original : CGDisplayMode) (displayId : UInt32) : Text :=
  pendingText ⟨displayId, original.width, original.height, true⟩

/-- A restore is to a mode of the original size. -/
def Homeward (original : CGDisplayMode) : Helper → Prop
  | .restoreMode mode => mode.width = original.width ∧ mode.height = original.height
  | .switchMode _ => True

/-- Actions that write nothing and set no mode but one of the original size. -/
def Plain (original : CGDisplayMode) : Action → Prop
  | .run (.restoreMode mode) => mode.width = original.width ∧ mode.height = original.height
  | .removePending | .exit => True
  | .run (.switchMode _) | .writePending _ => False

/-- The display is switched, or there is a file that says so. -/
def Owing (machine : Machine) : Prop := machine.inSwitchedMode = true ∨ machine.host.pendingRestore ≠ none

/-- What a call can have left to do: all of a switch, the write after its
helper, or actions that write nothing. A server without a switcher that finds
something owing is still to remove the file, or to exit. -/
def Expected (original : CGDisplayMode) (displayId : UInt32) (owing : Prop) (server : Server) : Prop :=
  (server.switcher ≠ none ∧
    ∃ mode, server.script = [.run (.switchMode mode), .writePending (text original displayId)]) ∨
  (server.switcher ≠ none ∧ server.script = [.writePending (text original displayId)]) ∨
  ((∀ action ∈ server.script, Plain original action) ∧
    (server.switcher = none → owing → .removePending ∈ server.script ∨ .exit ∈ server.script))

/-- What the file holds and what each process is about to do, as long as recovery stays possible. -/
structure Sound (original : CGDisplayMode) (displayId : UInt32) (machine : Machine) : Prop where
  id_eq : machine.host.displayId = displayId
  file : ∀ contents, machine.host.pendingRestore = some contents → contents = text original displayId
  home : machine.inSwitchedMode = false →
    machine.host.active.width = original.width ∧ machine.host.active.height = original.height
  saved : ∀ server switcher, machine.server = some server → server.switcher = some switcher →
    Remembers original displayId switcher
  expected : ∀ server, machine.server = some server → Expected original displayId (Owing machine) server
  orphans : ∀ helper ∈ machine.orphans, Homeward original helper

private theorem parsePending_text :
    parsePending (text original displayId) = some (displayId, original.width, original.height) :=
  parsePending_pendingText _

private theorem Remembers.pendingText_eq {switcher : DisplayModeSwitcher}
    (remembers : Remembers original displayId switcher) :
    switcher.pendingText = text original displayId := by
  simp only [text, pendingText, remembers.id_eq, remembers.width_eq, remembers.height_eq]

/-- A switch keeps what is remembered. -/
theorem Remembers.switch {switcher : DisplayModeSwitcher}
    (remembers : Remembers original displayId switcher) (host : Host) (targetW targetH : UInt32)
    (outcome : SwitchOutcome) : Remembers original displayId
      (switcher.switchToBestMode host targetW targetH outcome).2.1 := by
  rcases switchToBestMode_cases host switcher targetW targetH outcome with
    ⟨size, unchanged, _⟩ | ⟨mode, _, switched⟩
  · rwa [unchanged]
  · rw [switched]
    exact ⟨remembers.id_eq, remembers.width_eq, remembers.height_eq⟩

/-- A restore keeps what is remembered. -/
theorem Remembers.restore {switcher : DisplayModeSwitcher}
    (remembers : Remembers original displayId switcher) (host : Host) (outcome : RestoreOutcome) :
    Remembers original displayId (switcher.restore host outcome).2.1 := by
  have forgotten : Remembers original displayId { switcher with switched := false } :=
    ⟨remembers.id_eq, remembers.width_eq, remembers.height_eq⟩
  rcases restore_cases host switcher outcome with
    ⟨_, unchanged⟩ | ⟨_, _, error, failed⟩ | ⟨_, mode, _, restored⟩
  · rwa [unchanged]
  · rwa [failed]
  · rwa [restored]

private theorem restoreScript_plain {switcher : DisplayModeSwitcher}
    (remembers : Remembers original displayId switcher) (host : Host) (outcome : RestoreOutcome) :
    ∀ action ∈ restoreScript host switcher outcome, Plain original action := by
  unfold restoreScript
  split
  · exact nofun
  · cases outcome with
    | spawnFailed => exact nofun
    | failed => exact nofun
    | completed =>
      dsimp only
      cases found : host.modeOfSize switcher.originalWidth switcher.originalHeight with
      | none => exact nofun
      | some mode =>
        have size := List.find?_some found
        simp only [Bool.and_eq_true, beq_iff_eq, remembers.width_eq, remembers.height_eq] at size
        simpa [Plain] using size

private theorem restorePendingScript_plain {host : Host}
    (file : ∀ contents, host.pendingRestore = some contents → contents = text original displayId)
    (outcome : RestoreOutcome) :
    ∀ action ∈ restorePendingScript host outcome, Plain original action := by
  unfold restorePendingScript
  cases held : host.pendingRestore with
  | none => exact nofun
  | some contents =>
    obtain rfl := file contents held
    simp only [parsePending_text, List.mem_append, List.mem_singleton]
    rintro action (member | rfl)
    · have remembers : Remembers original displayId
          (newWithId displayId original.width original.height) := ⟨rfl, rfl, rfl⟩
      exact restoreScript_plain remembers host outcome action member
    · trivial

private theorem plain_exit {script : List Action} (plain : ∀ action ∈ script, Plain original action) :
    ∀ action ∈ script ++ [.exit], Plain original action := by
  intro action member
  rcases List.mem_append.mp member with before | last
  · exact plain action before
  · obtain rfl := List.mem_singleton.mp last
    trivial

/-- A new switcher of a display in its original mode remembers that mode. -/
theorem Sound.remembers_new {machine : Machine} (sound : Sound original displayId machine)
    (home : machine.inSwitchedMode = false) :
    Remembers original displayId (DisplayModeSwitcher.new machine.host) :=
  ⟨sound.id_eq, (sound.home home).1, (sound.home home).2⟩

/-- Another server on the same host is sound when its switcher and script are. -/
theorem Sound.withServer {machine : Machine} (sound : Sound original displayId machine)
    {switcher : Option DisplayModeSwitcher} {script : List Action}
    (saved : ∀ held, switcher = some held → Remembers original displayId held)
    (expected : Expected original displayId (Owing machine) ⟨switcher, script⟩) :
    Sound original displayId (machine.withServer (some ⟨switcher, script⟩)) := by
  refine ⟨sound.id_eq, sound.file, sound.home, ?_, ?_, sound.orphans⟩
  · rintro _ held ⟨⟩ same
    exact saved held same
  · rintro _ ⟨⟩
    exact expected

/-- The helper that a server waits for restores the original size, if it restores. -/
theorem Sound.running {machine : Machine} (sound : Sound original displayId machine) {server : Server}
    (alive : machine.server = some server) : ∀ helper ∈ server.running, Homeward original helper := by
  intro helper member
  unfold Server.running at member
  split at member
  · rename_i head rest script
    cases List.mem_singleton.mp member
    cases helper with
    | switchMode best => trivial
    | restoreMode mode =>
      rcases sound.expected server alive with ⟨_, best, whole⟩ | ⟨_, write⟩ | ⟨plain, _⟩
      · cases script.symm.trans whole
      · cases script.symm.trans write
      · exact plain (.run (.restoreMode mode)) (by rw [script]; exact List.mem_cons_self)
  · exact nomatch member

/-- A helper keeps the file and the display, and comes home with a restore. -/
theorem Sound.run {machine : Machine} (sound : Sound original displayId machine) (helper : Helper)
    (homeward : Homeward original helper) :
    (machine.run helper).host.displayId = displayId ∧
      (machine.run helper).host.pendingRestore = machine.host.pendingRestore ∧
      ((machine.run helper).inSwitchedMode = false → (machine.run helper).host.active.width = original.width ∧
        (machine.run helper).host.active.height = original.height) := by
  cases helper with
  | switchMode best =>
    cases already : atBest machine.host best with
    | true =>
      have same : machine.run (.switchMode best) = machine := by
        simp [Machine.run, Helper.apply, already]
      rw [same]
      exact ⟨sound.id_eq, rfl, sound.home⟩
    | false =>
      have switched : (machine.run (.switchMode best)).inSwitchedMode = true := by simp [Machine.run, already]
      have moved : (machine.run (.switchMode best)).host = machine.host.setMode best :=
        if_neg (by simp [already])
      rw [moved, switched]
      exact ⟨sound.id_eq, rfl, nofun⟩
  | restoreMode mode => exact ⟨sound.id_eq, rfl, fun _ => homeward⟩

private theorem restoreServer_sound {saved : Option DisplayModeSwitcher}
    (remembers : ∀ switcher, saved = some switcher → Remembers original displayId switcher)
    (host : Host) (outcome : RestoreOutcome) :
    (∀ switcher, (restoreServer host saved outcome).switcher = some switcher →
      Remembers original displayId switcher) ∧
    ∀ action ∈ (restoreServer host saved outcome).script, Plain original action := by
  cases saved with
  | none => exact ⟨nofun, nofun⟩
  | some switcher =>
    have held := remembers switcher rfl
    refine ⟨?_, restoreScript_plain held host outcome⟩
    rintro _ ⟨⟩
    exact held.restore host outcome

variable {machine next : Machine} {input : Input}

private theorem act_sound (sound : Sound original displayId machine)
    {saved : Option DisplayModeSwitcher} {action : Action} {rest : List Action}
    (running : machine.server = some ⟨saved, action :: rest⟩)
    (keeps : action = .removePending → machine.inSwitchedMode = false) :
    Sound original displayId (machine.act saved action rest) := by
  have remembers : ∀ switcher, saved = some switcher → Remembers original displayId switcher :=
    fun switcher same => sound.saved _ switcher running same
  have kept : ∀ (server : Server) switcher, some (Server.mk saved rest) = some server →
      server.switcher = some switcher → Remembers original displayId switcher := by
    rintro _ switcher ⟨⟩ same
    exact remembers switcher same
  rcases sound.expected _ running with ⟨present, mode, whole⟩ | ⟨present, write⟩ | ⟨plain, owed⟩
  · obtain ⟨rfl, rfl⟩ := List.cons.inj whole
    obtain ⟨id, file, home⟩ := sound.run (.switchMode mode) trivial
    refine ⟨id, file ▸ sound.file, home, kept, ?_, sound.orphans⟩
    rintro _ ⟨⟩
    exact .inr (.inl ⟨present, rfl⟩)
  · obtain ⟨rfl, rfl⟩ := List.cons.inj write
    refine ⟨sound.id_eq, ?_, sound.home, kept, ?_, sound.orphans⟩
    · rintro contents ⟨⟩
      rfl
    · rintro _ ⟨⟩
      exact .inr (.inr ⟨nofun, fun absent => (present absent).elim⟩)
  · have plainRest : ∀ action' ∈ rest, Plain original action' :=
      fun action' member => plain action' (List.mem_cons_of_mem _ member)
    have here := plain action (by simp)
    cases action with
    | writePending contents => exact here.elim
    | run helper =>
      cases helper with
      | switchMode mode => exact here.elim
      | restoreMode mode =>
        refine ⟨sound.id_eq, sound.file, fun _ => here, kept, ?_, sound.orphans⟩
        rintro _ ⟨⟩
        refine .inr (.inr ⟨plainRest, fun absent owing => ?_⟩)
        have left := owed absent (.inr (owing.resolve_left nofun))
        simpa using left
    | removePending =>
      refine ⟨sound.id_eq, nofun, sound.home, kept, ?_, sound.orphans⟩
      rintro _ ⟨⟩
      refine .inr (.inr ⟨plainRest, fun _ owing => ?_⟩)
      rcases owing with switched | held
      · exact absurd ((keeps rfl).symm.trans switched) Bool.false_ne_true
      · exact absurd rfl held
    | exit => exact ⟨sound.id_eq, sound.file, sound.home, nofun, nofun, sound.orphans⟩

/-- A helper without a server may come to its end when it keeps the file. -/
theorem orphan_sound (sound : Sound original displayId machine) {index : Nat} {helper : Helper}
    (left : machine.orphans[index]? = some helper) (keeps : KeepsFile original machine (.orphan index)) :
    Sound original displayId { machine.run helper with orphans := machine.orphans.eraseIdx index } := by
  have among := List.mem_of_getElem? left
  obtain ⟨id, file, home⟩ := sound.run helper (sound.orphans helper among)
  refine ⟨id, file ▸ sound.file, home, sound.saved, ?_, fun other member =>
    sound.orphans other (List.mem_of_mem_eraseIdx member)⟩
  intro server alive
  rcases sound.expected server alive with whole | write | ⟨plain, owed⟩
  · exact .inl whole
  · exact .inr (.inl write)
  · refine .inr (.inr ⟨plain, fun absent owing => owed absent ?_⟩)
    rcases owing with switched | held
    · cases helper with
      | restoreMode mode => exact nomatch switched
      | switchMode best =>
        cases already : atBest machine.host best with
        | true =>
          simp only [Machine.run, already, Bool.not_true, Bool.false_or] at switched
          exact .inl switched
        | false =>
          rcases keeps best left already with ⟨_, contents, rest, writing⟩ | ⟨contents, held, _⟩
          · cases alive.symm.trans writing
            exact (plain _ List.mem_cons_self).elim
          · exact .inr (by rw [held]; exact Option.some_ne_none _)
    · exact .inr (file ▸ held)

private theorem restorePending_expected (sound : Sound original displayId machine)
    (recoverable : machine.server = none → Recoverable original machine)
    (outcome : RestoreOutcome) (saved : Option DisplayModeSwitcher) (ending : List Action)
    (plain : ∀ action ∈ ending, Plain original action)
    (ends : machine.server = none ∨ .exit ∈ ending) :
    Expected original displayId (Owing machine)
      ⟨saved, restorePendingScript machine.host outcome ++ ending⟩ := by
  refine .inr (.inr ⟨?_, fun _ owing => ?_⟩)
  · intro action member
    rcases List.mem_append.mp member with restoring | last
    · exact restorePendingScript_plain sound.file outcome action restoring
    · exact plain action last
  · rcases ends with dead | exits
    · have present : machine.host.pendingRestore ≠ none := by
        rcases owing with switched | held
        · obtain ⟨contents, held, _⟩ := recoverable dead switched (by simp [AboutToWrite, dead])
          rw [held]
          exact Option.some_ne_none _
        · exact held
      obtain ⟨contents, held⟩ := Option.ne_none_iff_exists'.mp present
      obtain rfl := sound.file contents held
      left
      simp [restorePendingScript, held, parsePending_text]
    · exact .inr (List.mem_append_right _ exits)

/-- Between calls, a server that has no switcher yet is on an unswitched display. -/
theorem Sound.idle_home (sound : Sound original displayId machine)
    (idle : machine.server = some ⟨none, []⟩) : machine.inSwitchedMode = false := by
  rcases sound.expected _ idle with ⟨present, _⟩ | ⟨present, _⟩ | ⟨_, owed⟩
  · exact (present rfl).elim
  · exact (present rfl).elim
  · cases switched : machine.inSwitchedMode with
    | false => rfl
    | true => simpa using owed rfl (.inl switched)

private theorem switch_expected {switcher : DisplayModeSwitcher} (host : Host)
    (remembers : Remembers original displayId switcher) (targetW targetH : UInt32)
    (outcome : SwitchOutcome) (held : DisplayModeSwitcher) (owing : Prop) :
    Expected original displayId owing
      ⟨some held, switchScript host switcher targetW targetH outcome⟩ := by
  unfold switchScript
  split
  · exact .inr (.inr ⟨nofun, nofun⟩)
  · cases outcome with
    | spawnFailed => exact .inr (.inr ⟨nofun, nofun⟩)
    | failed => exact .inr (.inr ⟨nofun, nofun⟩)
    | completed mode =>
      refine .inl ⟨Option.some_ne_none _, mode, ?_⟩
      rw [remembers.pendingText_eq]

/-- Every step that keeps the file also keeps the invariant. -/
theorem step_sound (sound : Sound original displayId machine)
    (recoverable : Recoverable original machine) (keeps : KeepsFile original machine input)
    (transition : Transition machine input next) : Sound original displayId next := by
  cases transition with
  | start outcome dead =>
    refine sound.withServer nofun ?_
    have expected := restorePending_expected sound (fun _ => recoverable) outcome none [] nofun (.inl dead)
    rwa [List.append_nil] at expected
  | switchToBestMode targetW targetH outcome saved idle =>
    have held : Remembers original displayId (saved.getD (.new machine.host)) := by
      cases saved with
      | some switcher => exact sound.saved _ switcher idle rfl
      | none => exact sound.remembers_new (sound.idle_home idle)
    refine sound.withServer ?_ (switch_expected machine.host held targetW targetH outcome _ _)
    rintro _ ⟨⟩
    exact held.switch machine.host targetW targetH outcome
  | restore outcome saved idle =>
    obtain ⟨kept, plain⟩ := restoreServer_sound (fun switcher same => sound.saved _ switcher idle same)
      machine.host outcome
    refine sound.withServer kept (.inr (.inr ⟨plain, fun absent owing => ?_⟩))
    cases saved with
    | some switcher => exact nomatch absent
    | none =>
      rcases sound.expected _ idle with ⟨present, _⟩ | ⟨present, _⟩ | ⟨_, owed⟩
      · exact absurd rfl present
      · exact absurd rfl present
      · exact owed rfl owing
  | shutdown outcome saved idle =>
    obtain ⟨kept, plain⟩ := restoreServer_sound (fun switcher same => sound.saved _ switcher idle same)
      machine.host outcome
    exact sound.withServer kept (.inr (.inr ⟨plain_exit plain, fun _ _ => .inr (by simp)⟩))
  | act saved action rest running =>
    refine act_sound sound running ?_
    rintro rfl
    exact keeps ⟨_, _, running⟩
  | die server alive =>
    exact ⟨sound.id_eq, sound.file, sound.home, nofun, nofun,
      List.forall_mem_append.mpr ⟨sound.orphans, sound.running alive⟩⟩
  | crash outcome server alive =>
    have called := sound.withServer (fun switcher same => sound.saved _ switcher alive same)
      (restorePending_expected sound (fun dead => by simp [alive] at dead) outcome server.switcher [.exit]
        (by simp [Plain]) (.inr (by simp)))
    exact ⟨called.id_eq, called.file, called.home, called.saved, called.expected,
      List.forall_mem_append.mpr ⟨sound.orphans, sound.running alive⟩⟩
  | orphan index helper left => exact orphan_sound sound left keeps

/-- A death at any point leaves the display recoverable exactly when no write
was outstanding, or the file was already there. -/
theorem abandoned_iff (recoverable : Recoverable original machine) {old : Server} {server : Option Server}
    (silent : ¬ AboutToWrite (machine.abandon old server)) :
    Recoverable original (machine.abandon old server) ↔
      (machine.inSwitchedMode = true → AboutToWrite machine → Holds original machine.host) := by
  constructor
  · exact fun after switched _ => after switched silent
  · intro written switched _
    by_cases writing : AboutToWrite machine
    · exact written switched writing
    · exact recoverable switched writing

/-- A helper without a server keeps the display recoverable when it keeps the file. -/
theorem orphan_recoverable_iff (recoverable : Recoverable original machine) {index : Nat} {helper : Helper}
    (left : machine.orphans[index]? = some helper) :
    Recoverable original { machine.run helper with orphans := machine.orphans.eraseIdx index } ↔
      KeepsFile original machine (.orphan index) := by
  cases helper with
  | restoreMode mode =>
    refine iff_of_true nofun fun best same => ?_
    cases left.symm.trans same
  | switchMode best =>
    cases already : atBest machine.host best with
    | true =>
      refine iff_of_true ?_ fun other same elsewhere => ?_
      · unfold Recoverable
        simp only [Machine.run, Helper.apply, already, if_true, Bool.not_true, Bool.false_or]
        exact recoverable
      · cases left.symm.trans same
        exact absurd (already.symm.trans elsewhere) Bool.false_ne_true.symm
    | false =>
      have moved : Helper.apply machine.host (.switchMode best) = machine.host.setMode best :=
        if_neg (by simp [already])
      constructor
      · intro after other same _
        by_cases writing : AboutToWrite machine
        · exact .inl writing
        · have held := after (by simp [Machine.run, already]) writing
          simp only [Machine.run, moved] at held
          exact .inr held
      · intro keeps _ silent
        simp only [Machine.run, moved]
        exact (keeps best left already).resolve_left silent

private theorem plain_silent {saved : Option DisplayModeSwitcher} {script : List Action}
    (plain : ∀ action ∈ script, Plain original action)
    (running : machine.server = some ⟨saved, script⟩) : ¬ AboutToWrite machine := by
  rintro ⟨_, contents, rest, writing⟩
  obtain ⟨_, rfl⟩ := Server.mk.inj (Option.some.inj (running.symm.trans writing))
  exact plain _ List.mem_cons_self

private theorem act_recoverable_iff (sound : Sound original displayId machine)
    (recoverable : Recoverable original machine) {saved : Option DisplayModeSwitcher}
    {action : Action} {rest : List Action} (running : machine.server = some ⟨saved, action :: rest⟩) :
    Recoverable original (machine.act saved action rest) ↔
      (action = .removePending → machine.inSwitchedMode = false) := by
  have expected := sound.expected _ running
  cases action with
  | run helper =>
    refine iff_of_true (fun switched silent => ?_) nofun
    rcases expected with ⟨_, mode, whole⟩ | ⟨_, write⟩ | ⟨plain, _⟩
    · obtain ⟨_, rfl⟩ := List.cons.inj whole
      exact (silent ⟨_, _, _, rfl⟩).elim
    · exact nomatch write
    · cases helper with
      | switchMode mode => exact (plain _ List.mem_cons_self).elim
      | restoreMode mode => exact nomatch switched
  | writePending contents =>
    refine iff_of_true (fun _ _ => ?_) nofun
    rcases expected with ⟨_, mode, whole⟩ | ⟨_, write⟩ | ⟨plain, _⟩
    · exact nomatch whole
    · obtain ⟨same, _⟩ := List.cons.inj write
      obtain rfl := Action.writePending.inj same
      refine ⟨_, rfl, ?_⟩
      rw [parsePending_text]
      exact congrArg _ (congrArg (·, _) sound.id_eq.symm)
    · exact (plain _ List.mem_cons_self).elim
  | removePending =>
    have plain : ∀ action ∈ rest, Plain original action := by
      rcases expected with ⟨_, mode, whole⟩ | ⟨_, write⟩ | ⟨plain, _⟩
      · exact nomatch whole
      · exact nomatch write
      · exact fun action member => plain action (List.mem_cons_of_mem _ member)
    constructor
    · intro after _
      cases home : machine.inSwitchedMode with
      | false => rfl
      | true =>
        obtain ⟨_, held, _⟩ := after home (plain_silent plain rfl)
        exact nomatch held
    · intro home switched
      exact absurd ((home rfl).symm.trans switched) Bool.false_ne_true
  | exit =>
    refine iff_of_true (fun switched _ => recoverable switched ?_) nofun
    rintro ⟨_, contents, later, writing⟩
    exact nomatch running.symm.trans writing

private theorem call_recoverable (recoverable : Recoverable original machine)
    (silent : ¬ AboutToWrite machine) (server : Option Server) :
    Recoverable original (machine.withServer server) :=
  fun switched _ => recoverable switched silent

/-- A step keeps the display recoverable exactly when it keeps the file. -/
theorem step_recoverable_iff (sound : Sound original displayId machine)
    (recoverable : Recoverable original machine) (transition : Transition machine input next) :
    Recoverable original next ↔ KeepsFile original machine input := by
  cases transition with
  | start outcome dead =>
    exact iff_of_true (call_recoverable recoverable (by simp [AboutToWrite, dead]) _) trivial
  | switchToBestMode targetW targetH outcome saved idle =>
    exact iff_of_true (call_recoverable recoverable (by simp [AboutToWrite, idle]) _) trivial
  | restore outcome saved idle =>
    exact iff_of_true (call_recoverable recoverable (by simp [AboutToWrite, idle]) _) trivial
  | shutdown outcome saved idle =>
    exact iff_of_true (call_recoverable recoverable (by simp [AboutToWrite, idle]) _) trivial
  | act saved action rest running =>
    rw [act_recoverable_iff sound recoverable running]
    constructor
    · rintro home ⟨_, _, removing⟩
      obtain ⟨_, scripts⟩ := Server.mk.inj (Option.some.inj (running.symm.trans removing))
      exact home (List.cons.inj scripts).1
    · rintro home rfl
      exact home ⟨_, _, running⟩
  | die server alive => exact abandoned_iff recoverable (by simp [AboutToWrite, Machine.abandon])
  | crash outcome server alive =>
    have plain := plain_exit (restorePendingScript_plain sound.file outcome)
    exact abandoned_iff recoverable (plain_silent plain rfl)
  | orphan index helper left => exact orphan_recoverable_iff recoverable left

/-- **Crash recovery.** Through any calls, deaths, crashes and restarts, the
file describes the original mode whenever the display is left in a switched
one, exactly when the server never dies with a write outstanding and never
removes the file before the display is restored, and no helper that it has left
behind switches the display without the file. -/
theorem always_recoverable_iff (host : Host) (inputs : List Input) :
    Runs.Always step (Recoverable host.active) (Machine.fresh host) inputs ↔
      Runs.Meets step (fun _ => KeepsFile host.active) [] (Machine.fresh host) inputs := by
  have survives : ∀ machine (_ : List Action) input next emitted, Recoverable host.active machine →
      Sound host.active host.displayId machine → step machine input = some (next, emitted) →
        (Recoverable host.active next ↔ KeepsFile host.active machine input) :=
    fun _ _ _ _ _ recoverable sound stepped => step_recoverable_iff sound recoverable (step_transition stepped)
  have kept : ∀ machine (_ : List Action) input next emitted, Recoverable host.active machine →
      Sound host.active host.displayId machine → KeepsFile host.active machine input →
        step machine input = some (next, emitted) → Sound host.active host.displayId next :=
    fun _ _ _ _ _ recoverable sound keeps stepped => step_sound sound recoverable keeps (step_transition stepped)
  exact Runs.always_iff_meets _ _ survives kept nofun
    ⟨rfl, nofun, fun _ => ⟨rfl, rfl⟩, nofun, nofun, List.forall_mem_nil _⟩

end Invariant

/-- Three ways to lose the original mode: the server dies after the helper has
switched and before the file is written; or before, and the helper switches
alone; or later, and at the restart the restore helper cannot be spawned and
the file is removed all the same. -/
theorem crash_loses_original_mode :
    ¬ Runs.Always step (Recoverable laptop.active) (Machine.fresh laptop)
      [.start .completed, .switchToBestMode 1280 720 (.completed ⟨1280, 720, 0⟩), .act, .die] ∧
    ¬ Runs.Always step (Recoverable laptop.active) (Machine.fresh laptop)
      [.start .completed, .switchToBestMode 1280 720 (.completed ⟨1280, 720, 0⟩), .die, .orphan 0] ∧
    ¬ Runs.Always step (Recoverable laptop.active) (Machine.fresh laptop)
      [.start .completed, .switchToBestMode 1280 720 (.completed ⟨1280, 720, 0⟩), .act, .act, .die,
        .start .spawnFailed, .act] := by
  have silent : ∀ machine : Machine, machine.server = none ∨ machine.server = some ⟨none, []⟩ →
      ¬ AboutToWrite machine := by
    rintro machine (dead | idle) ⟨_, _, _, writing⟩
    · exact nomatch dead.symm.trans writing
    · exact nomatch idle.symm.trans writing
  refine ⟨fun always => ?_, fun always => ?_, fun always => ?_⟩
  · obtain ⟨_, held, _⟩ := Runs.always_final always rfl rfl (silent _ (.inl rfl))
    exact nomatch held
  · obtain ⟨_, held, _⟩ := Runs.always_final always rfl rfl (silent _ (.inl rfl))
    exact nomatch held
  · obtain ⟨_, held, _⟩ := Runs.always_final always rfl rfl (silent _ (.inr rfl))
    exact nomatch held

end Osxrdp.CrashRecovery
