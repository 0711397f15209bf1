import Osxrdp.DisplayMode

/-! `display_mode.rs`: the texts that the processes pass to each other. The
arguments of a helper, the line it prints, and the bytes of the pending-restore
file are each written in one function and read in another. -/
namespace Osxrdp.HelperText
open DecimalText (Text Surrounded)
open DisplayMode

/-- `print` as an argument of a process. -/
def printArg (n : Nat) : String := String.ofList (DecimalText.print n)

/-- `arg.parse()` into an unsigned number below `bound`. -/
def parseArg (bound : Nat) (arg : String) : Option Nat := DecimalText.parse bound arg.toList

/-- The arguments that `switch_to_best_mode` gives the helper. -/
def switchArgs (displayId targetW targetH : UInt32) : List String :=
  ["--display-mode-switch", printArg displayId.toNat, printArg targetW.toNat, printArg targetH.toNat]

/-- The arguments that `restore` gives the helper, when it runs one. -/
def restoreArgs (switcher : DisplayModeSwitcher) : Option (List String) :=
  if switcher.switched = false ∨ switcher.originalWidth = 0 ∨ switcher.originalHeight = 0 then none
  else some ["--display-mode-restore", printArg switcher.displayId.toNat,
    printArg switcher.originalWidth.toNat, printArg switcher.originalHeight.toNat]

/-- What the helper is asked to do. -/
inductive HelperCommand where
  | switch (displayId targetW targetH : UInt32)
  | restore (displayId : UInt32) (origW origH : UInt64)
  deriving DecidableEq, Repr

/-- What `run_helper` prints before it exits with an error. -/
inductive UsageError where
  | usage
  | invalidDisplayId (arg : String)
  | invalidWidth (arg : String)
  | invalidHeight (arg : String)
  | unknownArgument (arg : String)
  deriving DecidableEq, Repr

/-- A width and a height below the bound. -/
def parseSize (bound : Nat) (width height : String) : Except UsageError (Nat × Nat) :=
  match parseArg bound width with
  | none => .error (.invalidWidth width)
  | some w => match parseArg bound height with
    | none => .error (.invalidHeight height)
    | some h => .ok (w, h)

/-- The start of `run_helper`, up to what it was asked to do. `args[0]` is the
executable, and arguments after the fifth are not read. -/
def runHelper : List String → Except UsageError HelperCommand
  | _ :: command :: displayId :: width :: height :: _ =>
    match parseArg UInt32.size displayId with
    | none => .error (.invalidDisplayId displayId)
    | some displayId =>
      if command = "--display-mode-switch" then
        (parseSize UInt32.size width height).map fun (w, h) =>
          .switch displayId.toUInt32 w.toUInt32 h.toUInt32
      else if command = "--display-mode-restore" then
        (parseSize UInt64.size width height).map fun (w, h) =>
          .restore displayId.toUInt32 w.toUInt64 h.toUInt64
      else .error (.unknownArgument command)
  | _ => .error .usage

/-- The line `OK <width> <height>`. -/
def okLine (width height : UInt32) : Text :=
  'O' :: 'K' :: ' ' :: (DecimalText.print width.toNat ++ ' ' :: DecimalText.print height.toNat)

/-- What `switch_to_best_mode` reads from the output of a helper that succeeded. -/
def parseOutput (stdout : Text) : Option (UInt32 × UInt32) :=
  match DecimalText.splitWhitespace (DecimalText.trim stdout) with
  | [ok, width, height] =>
    if ok = ['O', 'K'] then
      match DecimalText.parse UInt32.size width, DecimalText.parse UInt32.size height with
      | some w, some h => some (w.toUInt32, h.toUInt32)
      | _, _ => none
    else none
  | _ => none

/-- `fs::write` of a text. -/
def writeText (text : Text) : ByteArray := (String.ofList text).toUTF8

/-- `fs::read_to_string`, of a file that is there. -/
def readToString (bytes : ByteArray) : Option Text := (String.fromUTF8? bytes).map String.toList

/-- `restore_pending` on the bytes of the file: the arguments of the helper it
runs, if any. A file that is not UTF-8 is left alone, any other is removed. -/
def restorePendingArgs (bytes : ByteArray) : Option (List String) :=
  (readToString bytes).bind fun contents => (parsePending contents).bind fun (displayId, width, height) =>
    restoreArgs (.newWithId displayId width height)

/-- Three lines, each a number of its type, with white space around them at most. -/
def PendingFormat (contents : Text) (displayId : UInt32) (width height : UInt64) : Prop :=
  ∃ first second third, Surrounded (DecimalText.unlines [first, second, third]) contents ∧
    DecimalText.parse UInt32.size first = some displayId.toNat ∧
    DecimalText.parse UInt64.size second = some width.toNat ∧
    DecimalText.parse UInt64.size third = some height.toNat

section Arguments

/-- What is printed for an argument is parsed. -/
@[simp] theorem parseArg_printArg {bound n : Nat} (small : n < bound) :
    parseArg bound (printArg n) = some n := by
  rw [parseArg, printArg, String.toList_ofList, DecimalText.parse_print small]

private theorem parseSize_printArg {bound w h : Nat} (width : w < bound) (height : h < bound) :
    parseSize bound (printArg w) (printArg h) = .ok (w, h) := by
  simp only [parseSize, parseArg_printArg width, parseArg_printArg height]

private theorem runHelper_switchArgs (exe : String) (displayId targetW targetH : UInt32) :
    runHelper (exe :: switchArgs displayId targetW targetH) = .ok (.switch displayId targetW targetH) := by
  simp only [runHelper, switchArgs, parseArg_printArg displayId.toNat_lt_size,
    parseSize_printArg targetW.toNat_lt_size targetH.toNat_lt_size, if_true]
  simp [Except.map]

private theorem runHelper_restoreArgs (exe : String) {switcher : DisplayModeSwitcher} {args : List String}
    (runs : restoreArgs switcher = some args) : runHelper (exe :: args) =
      .ok (.restore switcher.displayId switcher.originalWidth switcher.originalHeight) := by
  unfold restoreArgs at runs
  split at runs
  · cases runs
  · cases runs
    simp only [runHelper, parseArg_printArg switcher.displayId.toNat_lt_size,
      parseSize_printArg switcher.originalWidth.toNat_lt_size switcher.originalHeight.toNat_lt_size]
    simp [Except.map]

end Arguments

section Output

/-- The line is read whatever white space there is around it. -/
theorem parseOutput_okLine {width height : UInt32} {stdout : Text}
    (printed : Surrounded (okLine width height) stdout) : parseOutput stdout = some (width, height) := by
  have words : DecimalText.splitWhitespace (okLine width height) =
      [['O', 'K'], DecimalText.print width.toNat, DecimalText.print height.toNat] := by
    have blank : DecimalText.isWhitespace ' ' = true := by decide
    have plain : ∀ c ∈ ['O', 'K'], DecimalText.isWhitespace c = false :=
      List.forall_mem_cons.mpr ⟨by decide, List.forall_mem_singleton.mpr (by decide)⟩
    have shape : okLine width height =
      ['O', 'K'] ++ ' ' :: (DecimalText.print width.toNat ++ ' ' :: DecimalText.print height.toNat) := rfl
    rw [shape, DecimalText.splitWhitespace_append_cons blank, DecimalText.splitWhitespace_append_cons blank,
      DecimalText.splitWhitespace_print, DecimalText.splitWhitespace_print,
      DecimalText.splitWhitespace_word (by simp) plain]
    rfl
  rw [parseOutput, DecimalText.splitWhitespace_trim, DecimalText.splitWhitespace_of_surrounded printed, words]
  simp [DecimalText.parse_print width.toNat_lt_size, DecimalText.parse_print height.toNat_lt_size]

end Output

section PendingFile

/-- What was written to the file is read. -/
@[simp] theorem readToString_writeText (text : Text) : readToString (writeText text) = some text := by
  have valid : (writeText text).IsValidUTF8 := (String.ofList text).isValidUTF8
  have read : String.fromUTF8? (writeText text) = some (String.ofList text) := dif_pos valid
  rw [readToString, read, Option.map_some, String.toList_ofList]

/-- What is read from the file are the numbers of its three lines. -/
theorem parsePending_eq_some {contents : Text} {displayId : UInt32} {width height : UInt64} :
    parsePending contents = some (displayId, width, height) ↔
      PendingFormat contents displayId width height := by
  constructor
  · intro parsed
    unfold parsePending at parsed
    split at parsed
    · rename_i first second third found
      split at parsed
      · rename_i x y z firstIs secondIs thirdIs
        cases parsed
        refine ⟨first, second, third, ?_, ?_, ?_, ?_⟩
        · rw [← found, DecimalText.unlines_lines]
          exact DecimalText.surrounded_trim contents
        · rw [firstIs, Nat.toUInt32, UInt32.toNat_ofNat_of_lt' (DecimalText.parse_lt firstIs)]
        · rw [secondIs, Nat.toUInt64, UInt64.toNat_ofNat_of_lt' (DecimalText.parse_lt secondIs)]
        · rw [thirdIs, Nat.toUInt64, UInt64.toNat_ofNat_of_lt' (DecimalText.parse_lt thirdIs)]
      · cases parsed
    · cases parsed
  · rintro ⟨first, second, third, surrounded, firstIs, secondIs, thirdIs⟩
    have each : ∀ line ∈ [first, second, third],
        line ≠ [] ∧ ∀ c ∈ line, c ≠ '\n' ∧ DecimalText.isWhitespace c = false := by
      intro line member
      obtain rfl | rfl | rfl : line = first ∨ line = second ∨ line = third := by simpa using member
      · exact DecimalText.plain_of_parse firstIs
      · exact DecimalText.plain_of_parse secondIs
      · exact DecimalText.plain_of_parse thirdIs
    have found := DecimalText.lines_trim_of_surrounded (List.cons_ne_nil _ _)
      (fun line member => (each line member).1) (fun line member => (each line member).2) surrounded
    simp only [parsePending, found, firstIs, secondIs, thirdIs]
    simp

/-- Without arguments no helper runs, and the display stays in its mode. -/
theorem restore_of_restoreArgs_none {switcher : DisplayModeSwitcher} (idle : restoreArgs switcher = none)
    (host : Host) (outcome : RestoreOutcome) : (switcher.restore host outcome).2.2 = host := by
  have unready : switcher.switched = false ∨ switcher.originalWidth = 0 ∨ switcher.originalHeight = 0 := by
    by_contra ready
    rw [restoreArgs, if_neg ready] at idle
    cases idle
  unfold DisplayModeSwitcher.restore
  by_cases unswitched : switcher.switched = false
  · rw [if_pos unswitched]
  · rw [if_neg unswitched]
    dsimp only
    rw [if_pos (unready.resolve_left unswitched)]

private theorem restorePending_of_args_none {bytes : ByteArray} {contents : Text}
    (read : readToString bytes = some contents) (idle : restorePendingArgs bytes = none) (host : Host)
    (outcome : RestoreOutcome) : restorePending { host with pendingRestore := some contents } outcome =
      { host with pendingRestore := none } := by
  rw [restorePendingArgs, read, Option.bind_some] at idle
  unfold restorePending
  dsimp only
  cases parsed : parsePending contents with
  | none => rfl
  | some pending =>
    obtain ⟨displayId, width, height⟩ := pending
    rw [parsed, Option.bind_some] at idle
    dsimp only
    rw [restore_of_restoreArgs_none idle]
    rfl

/-- A file without the format makes `restore_pending` run no helper. -/
theorem restorePendingArgs_of_unformatted {bytes : ByteArray} (unformatted : ∀ contents,
    readToString bytes = some contents → ∀ displayId width height,
      ¬ PendingFormat contents displayId width height) : restorePendingArgs bytes = none := by
  unfold restorePendingArgs
  cases read : readToString bytes with
  | none => rfl
  | some contents =>
    rw [Option.bind_some]
    cases parsed : parsePending contents with
    | none => rfl
    | some pending =>
      exact (unformatted contents read _ _ _ (parsePending_eq_some.mp parsed)).elim

end PendingFile

/-- What the model says a completed switch returns is what the parent reads. -/
theorem switchToBestMode_reads_output {host : Host} {targetW targetH : UInt32}
    (elsewhere : DisplayModeSwitcher.atTarget host targetW targetH = false) (switcher : DisplayModeSwitcher)
    (mode : CGDisplayMode) : (switcher.switchToBestMode host targetW targetH (.completed mode)).1 =
      parseOutput (okLine mode.width.toUInt32 mode.height.toUInt32 ++ ['\n']) := by
  have newline : ∀ c ∈ ['\n'], DecimalText.isWhitespace c = true := List.forall_mem_singleton.mpr (by decide)
  rw [parseOutput_okLine (DecimalText.surrounded_append_of_blank newline _),
    DisplayModeSwitcher.switchToBestMode, elsewhere]
  rfl

/-- **The text formats round-trip.** The pending-restore file, the line of the
switch helper and the arguments of both helpers are read as the numbers they were
written from, and a file without the format restores nothing. -/
theorem text_formats_round_trip :
    (∀ switcher : DisplayModeSwitcher, (readToString (writeText switcher.pendingText)).bind parsePending =
      some (switcher.displayId, switcher.originalWidth, switcher.originalHeight)) ∧
    (∀ width height stdout, Surrounded (okLine width height) stdout →
      parseOutput stdout = some (width, height)) ∧
    (∀ exe displayId targetW targetH, runHelper (exe :: switchArgs displayId targetW targetH) =
      .ok (.switch displayId targetW targetH)) ∧
    (∀ exe switcher args, restoreArgs switcher = some args → runHelper (exe :: args) =
      .ok (.restore switcher.displayId switcher.originalWidth switcher.originalHeight)) ∧
    (∀ bytes, (∀ contents, readToString bytes = some contents → ∀ displayId width height,
        ¬ PendingFormat contents displayId width height) →
      restorePendingArgs bytes = none ∧
        ∀ contents (host : Host) outcome, readToString bytes = some contents →
          restorePending { host with pendingRestore := some contents } outcome =
            { host with pendingRestore := none }) := by
  refine ⟨fun switcher => ?_, fun _ _ _ => parseOutput_okLine, runHelper_switchArgs,
    fun exe _ _ => runHelper_restoreArgs exe, fun bytes unformatted => ?_⟩
  · rw [readToString_writeText, Option.bind_some, parsePending_pendingText]
  · have idle := restorePendingArgs_of_unformatted unformatted
    exact ⟨idle, fun contents host outcome read => restorePending_of_args_none read idle host outcome⟩

/-- A file whose first line starts with a blank. -/
def indented : Text := [' ', '1', '\n', '1', '4', '4', '0', '\n', '9', '0', '0']

/-- The first of its three lines does not read as a number, but the blank is
trimmed before the lines are split. -/
theorem indented_file_is_restored :
    (¬ ∃ first second third, indented = DecimalText.unlines [first, second, third] ∧
      DecimalText.parse UInt32.size first ≠ none ∧ DecimalText.parse UInt64.size second ≠ none ∧
      DecimalText.parse UInt64.size third ≠ none) ∧
    restorePendingArgs (writeText indented) ≠ none := by
  constructor
  · rintro ⟨first, second, third, split, number, _, _⟩
    obtain ⟨n, parsed⟩ := Option.ne_none_iff_exists'.mp number
    obtain ⟨filled, plain⟩ := DecimalText.plain_of_parse parsed
    cases first with
    | nil => exact filled rfl
    | cons c rest =>
      obtain rfl : ' ' = c := (List.cons.inj split).1
      exact absurd (plain ' ' List.mem_cons_self).2 (by decide)
  · have pending : parsePending indented = some (1, 1440, 900) := by decide
    rw [restorePendingArgs, readToString_writeText, Option.bind_some, pending]
    simp [restoreArgs, DisplayModeSwitcher.newWithId]

end Osxrdp.HelperText
