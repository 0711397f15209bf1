import Osxrdp.Clipboard

/-! What the poller announces to the client. A text that the client itself put
on the clipboard is suppressed by `known_clipboard` alone, which is written
apart from the clipboard and by the poller too. -/
namespace Osxrdp.ClipboardEcho
open Clipboard

/-- Nothing that the poller announces is the client's own. -/
def NotEchoed : Event → Prop
  | .sent (.poller current) _ => current.origin = .localUser
  | _ => True

instance : DecidablePred NotEchoed
  | .sent (.poller current) _ => inferInstanceAs (Decidable (current.origin = .localUser))
  | .sent .backend _ | .recorded _ => isTrue trivial

/-- Nothing that was announced is what the client sent. -/
def NoEcho (past : List Event) : Prop := ∀ event ∈ past, NotEchoed event

instance (past : List Event) : Decidable (NoEcho past) := inferInstanceAs (Decidable (∀ _ ∈ _, _))

/-- The text recorded or announced last, after the one read at the start. -/
def lastKnown (built : String) (past : List Event) : String :=
  past.foldl (fun known event => match event with
    | .recorded text => text
    | .sent (.poller current) _ => current.text
    | .sent .backend _ => known) built

/-- When the poller compares a text that the client put on the clipboard, that
text has been recorded, and no other has been recorded or announced since. -/
def RecordedInTime (built : String) (past : List Event) (host : Host) (op : Op) : Prop :=
  match op, host.poller with
  | .pollCompare, .comparing current =>
    current.origin = .client → current.text = "" ∨ current.text = lastKnown built past
  | _, _ => True

instance (built : String) (past : List Event) (host : Host) (op : Op) :
    Decidable (RecordedInTime built past host op) := by
  unfold RecordedInTime
  split <;> infer_instance

section Steps
variable {built : String} {host next : Host} {op : Op} {past emitted : List Event}

private theorem recordedInTime_of_other (other : op ≠ .pollCompare) : RecordedInTime built past host op := by
  cases op with
  | pollCompare => exact (other rfl).elim
  | _ => trivial

private theorem recordedInTime_iff {current : Content} (held : host.poller = .comparing current) :
    RecordedInTime built past host .pollCompare ↔
      (current.origin = .client → current.text = "" ∨ current.text = lastKnown built past) := by
  simp only [RecordedInTime, held]

private theorem noEcho_append : NoEcho (past ++ emitted) ↔ NoEcho past ∧ NoEcho emitted :=
  List.forall_mem_append

private theorem lastKnown_append (emitted : List Event) :
    lastKnown built (past ++ emitted) = lastKnown (lastKnown built past) emitted := List.foldl_append

private theorem own_answers (own : ∀ event ∈ emitted, ∃ message, event = .sent .backend message)
    (known : String) : NoEcho emitted ∧ lastKnown known emitted = known := by
  induction emitted with
  | nil => exact ⟨List.forall_mem_nil _, rfl⟩
  | cons event rest ih =>
    obtain ⟨message, rfl⟩ := own event (by simp)
    obtain ⟨quiet, same⟩ := ih fun later member => own later (List.mem_cons_of_mem _ member)
    exact ⟨List.forall_mem_cons.mpr ⟨trivial, quiet⟩, same⟩

/-- `known_clipboard` is the text that was recorded or announced last. -/
theorem moves_lastKnown (moves : Moves host op next emitted)
    (tracked : host.knownClipboard = lastKnown built past) :
    next.knownClipboard = lastKnown built (past ++ emitted) := by
  rw [lastKnown_append, ← tracked]
  cases moves with
  | localCopy text => rfl
  | head poller resting => rfl
  | read pbpaste => rfl
  | announce current held fresh nonempty => rfl
  | ignore current held suppressed => rfl
  | write text pbcopy nonempty idle =>
    cases pbcopy with
    | none => rfl
    | some written => rfl
  | refuse response pbcopy => rfl
  | record text writing => rfl
  | answer op emitted other own => exact (own_answers own _).2.symm
  | dropped idle => rfl

/-- A step echoes exactly when it compares a text that was not recorded in time. -/
theorem moves_noEcho_iff (moves : Moves host op next emitted)
    (tracked : host.knownClipboard = lastKnown built past) :
    NoEcho emitted ↔ RecordedInTime built past host op := by
  cases moves with
  | announce current held fresh nonempty =>
    rw [recordedInTime_iff held, ← tracked]
    have known : NoEcho [sendInitiateCopy (.poller current)] ↔ current.origin = .localUser := by
      simp [NoEcho, sendInitiateCopy, NotEchoed]
    rw [known]
    constructor
    · intro own client
      rw [own] at client
      cases client
    · intro recorded
      cases origin : current.origin with
      | localUser => rfl
      | client =>
        rcases recorded origin with empty | same
        · exact (nonempty empty).elim
        · exact (fresh same).elim
  | ignore current held suppressed =>
    rw [recordedInTime_iff held, ← tracked]
    exact iff_of_true (List.forall_mem_nil _) fun _ => suppressed
  | answer op emitted other own =>
    exact iff_of_true (own_answers own "").1 (recordedInTime_of_other other.1)
  | record text writing => exact iff_of_true (by simp [NoEcho, NotEchoed]) trivial
  | localCopy text => exact iff_of_true (List.forall_mem_nil _) trivial
  | head poller resting => exact iff_of_true (List.forall_mem_nil _) trivial
  | read pbpaste => exact iff_of_true (List.forall_mem_nil _) trivial
  | write text pbcopy nonempty idle => exact iff_of_true (List.forall_mem_nil _) trivial
  | refuse response pbcopy => exact iff_of_true (List.forall_mem_nil _) trivial
  | dropped idle => exact iff_of_true (List.forall_mem_nil _) trivial

end Steps

/-- **The poller never echoes the client's copy exactly when each text of the
client is recorded before it is compared, and nothing comes between.** -/
theorem no_echo_iff (clipboard : Content) (pbpaste : Bool) {ops : List Op} {final : Host}
    {events : List Event} (ran : Runs.run step (.build clipboard pbpaste) ops = some (final, events)) :
    NoEcho events ↔ Runs.Meets step (RecordedInTime (Host.build clipboard pbpaste).knownClipboard) []
      (.build clipboard pbpaste) ops := by
  let built := (Host.build clipboard pbpaste).knownClipboard
  have whole : NoEcho ([] ++ events) ↔ NoEcho [] ∧
      Runs.Meets step (RecordedInTime built) [] (.build clipboard pbpaste) ops := by
    refine Runs.history_iff_meets NoEcho (fun host past => host.knownClipboard = lastKnown built past)
      ?_ ?_ rfl ran
    · intro host past op next emitted tracked stepped
      rw [noEcho_append]
      exact and_congr_right fun _ => moves_noEcho_iff (step_moves stepped) tracked
    · intro host past op next emitted tracked stepped
      exact moves_lastKnown (step_moves stepped) tracked
  exact whole.trans (and_iff_right (List.forall_mem_nil _))

/-- The client copies a text, and the poller looks at it after it was recorded. -/
def copyBetweenPolls : List Op :=
  [.checkStop, .formatDataResponse (.data (some "copied")) (some "copied"), .recordKnown, .pollRead true,
    .pollCompare, .localCopy "typed", .checkStop, .pollRead true, .pollCompare]

/-- A text that the user copies between two polls is announced, and that is no echo. -/
theorem copy_between_polls_is_not_echoed : ∃ final events,
    Runs.run step (.build ⟨"", .localUser⟩ true) copyBetweenPolls = some (final, events) ∧ NoEcho events := by
  have succeeds : (Runs.run step (.build ⟨"", .localUser⟩ true) copyBetweenPolls).isSome := by decide
  obtain ⟨⟨final, events⟩, ran⟩ := Option.isSome_iff_exists.mp succeeds
  exact ⟨final, events, ran, (no_echo_iff ⟨"", .localUser⟩ true ran).mpr (by decide)⟩

/-- The poller wakes up between the write and the record of a response. -/
theorem copy_before_record_is_echoed : ∃ final events,
    Runs.run step (.build ⟨"", .localUser⟩ true)
      [.checkStop, .formatDataResponse (.data (some "copied")) (some "copied"), .pollRead true,
        .pollCompare, .recordKnown] = some (final, events) ∧ ¬NoEcho events :=
  ⟨_, _, rfl, by decide⟩

/-- A text is written whole and outside any poll, and is recorded before the next. -/
def Apart (host : Host) : Op → Prop
  | .formatDataResponse (.data (some text)) pbcopy =>
    text ≠ "" → (∀ current, host.poller ≠ .comparing current) ∧ pbcopy = some text
  | .pollRead _ => ∀ text, host.backend ≠ .writing text
  | _ => True

/-- What the client put on the clipboard is known, or about to be. -/
structure Synced (host : Host) : Prop where
  recorded : (∀ text, host.backend ≠ .writing text) → host.clipboard.origin = .client →
    host.clipboard.text = host.knownClipboard
  writing : ∀ text, host.backend = .writing text → (∀ current, host.poller ≠ .comparing current) ∧
    (host.clipboard.origin = .client → host.clipboard.text = text)
  held : ∀ current, host.poller = .comparing current →
    (current.origin = .client → current.text = host.knownClipboard) ∧
      (current.text = "" ∨ current = host.clipboard ∨ host.clipboard.origin = .localUser)

section Apart
variable {host next : Host} {op : Op} {emitted : List Event}

private theorem build_synced (clipboard : Content) : Synced (.build clipboard true) :=
  ⟨fun _ _ => rfl, nofun, nofun⟩

private theorem step_apart (synced : Synced host) (apart : Apart host op) (moves : Moves host op next emitted) :
    Synced next ∧ NoEcho emitted := by
  cases moves with
  | localCopy text =>
    refine ⟨⟨nofun, fun text writing => ⟨(synced.writing text writing).1, nofun⟩, ?_⟩, List.forall_mem_nil _⟩
    exact fun current held => ⟨(synced.held current held).1, .inr (.inr rfl)⟩
  | head poller resting =>
    refine ⟨⟨synced.recorded, fun text writing => ⟨resting, (synced.writing text writing).2⟩, ?_⟩,
      List.forall_mem_nil _⟩
    exact fun current held => (resting current held).elim
  | read pbpaste =>
    refine ⟨⟨synced.recorded, fun text writing => (apart text writing).elim, ?_⟩, List.forall_mem_nil _⟩
    rintro current ⟨⟩
    cases pbpaste with
    | false => exact ⟨nofun, .inl rfl⟩
    | true => exact ⟨synced.recorded apart, .inr (.inl rfl)⟩
  | announce current held fresh nonempty =>
    obtain ⟨known, here⟩ := synced.held current held
    have own : current.origin = .localUser := by
      cases origin : current.origin with
      | localUser => rfl
      | client => exact (fresh (known origin)).elim
    refine ⟨⟨fun _ client => ?_, fun text writing => ⟨nofun, (synced.writing text writing).2⟩, nofun⟩, ?_⟩
    · rcases here with empty | same | replaced
      · exact (nonempty empty).elim
      · rw [← same, own] at client
        cases client
      · rw [replaced] at client
        cases client
    · simpa [NoEcho, sendInitiateCopy, NotEchoed] using own
  | ignore current held suppressed =>
    exact ⟨⟨synced.recorded, fun text writing => ⟨nofun, (synced.writing text writing).2⟩, nofun⟩,
      List.forall_mem_nil _⟩
  | write text pbcopy nonempty idle =>
    obtain ⟨outside, rfl⟩ := apart nonempty
    refine ⟨⟨fun quiet => (quiet text rfl).elim, ?_, fun current held => (outside current held).elim⟩,
      List.forall_mem_nil _⟩
    rintro _ ⟨⟩
    exact ⟨outside, fun _ => rfl⟩
  | refuse response pbcopy => exact ⟨synced, List.forall_mem_nil _⟩
  | record text writing =>
    obtain ⟨outside, written⟩ := synced.writing text writing
    refine ⟨⟨fun _ => written, nofun, fun current held => (outside current held).elim⟩, ?_⟩
    simp [NoEcho, NotEchoed]
  | answer op emitted other own => exact ⟨synced, (own_answers own "").1⟩
  | dropped idle =>
    have quiet (text : String) : host.backend ≠ .writing text := by
      rw [idle]
      exact nofun
    exact ⟨⟨fun _ => synced.recorded quiet, nofun, synced.held⟩, List.forall_mem_nil _⟩

/-- **No echo when polls and responses keep apart.** -/
theorem apart_runs_never_echo (clipboard : Content) {ops : List Op} {final : Host} {events : List Event}
    (apart : Runs.Meets step (fun _ => Apart) [] (.build clipboard true) ops)
    (ran : Runs.run step (.build clipboard true) ops = some (final, events)) : NoEcho events := by
  have kept := Runs.invariant_of_meets (fun host past => Synced host ∧ NoEcho past)
    (fun host past op next emitted inv apart stepped => by
      obtain ⟨synced, quiet⟩ := step_apart inv.1 apart (step_moves stepped)
      exact ⟨synced, noEcho_append.mpr ⟨inv.2, quiet⟩⟩)
    ⟨build_synced clipboard, List.forall_mem_nil _⟩ apart ran
  exact kept.2

end Apart

end Osxrdp.ClipboardEcho
