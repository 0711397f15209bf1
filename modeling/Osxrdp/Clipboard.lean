import Osxrdp.Runs

/-! `clipboard.rs`: the clipboard backend of one connection, its polling thread,
and the users of the Mac. `pbpaste` and `pbcopy` are outside; whether they work
is part of each step. -/
namespace Osxrdp.Clipboard

/-- Who put a text on the macOS clipboard. No code looks at it. -/
inductive Origin where
  | localUser
  | client
  deriving DecidableEq, Repr

/-- A text on the clipboard, and who put it there. -/
structure Content where
  text : String
  origin : Origin
  deriving DecidableEq, Repr

/-- A format of the clipboard, by its number. -/
abbrev ClipboardFormatId := UInt32

namespace ClipboardFormatId

def cfUnicodetext : ClipboardFormatId := 13

end ClipboardFormatId

/-- A response and what `to_unicode_string` makes of its data. -/
inductive FormatDataResponse where
  | error
  | data (unicode : Option String)
  deriving DecidableEq, Repr

/-- What is sent to the clipboard channel. -/
inductive ClipboardMessage where
  | sendInitiateCopy (formats : List ClipboardFormatId)
  | sendInitiatePaste (format : ClipboardFormatId)
  | sendFormatData (response : FormatDataResponse)
  deriving DecidableEq, Repr

/-- The poller sends for the content that it has read. -/
inductive Sender where
  | poller (current : Content)
  | backend
  deriving DecidableEq, Repr

/-- What is seen of the parties: a text recorded in `known_clipboard`, a message sent. -/
inductive Event where
  | recorded (text : String)
  | sent (sender : Sender) (message : ClipboardMessage)
  deriving DecidableEq, Repr

/-- The client is told of a text. -/
def sendInitiateCopy (sender : Sender) : Event :=
  .sent sender (.sendInitiateCopy [ClipboardFormatId.cfUnicodetext])

/-- Where the polling thread is: it compares what it read before. -/
inductive Poller where
  | loopHead
  | sleeping
  | comparing (current : Content)
  | returned
  deriving DecidableEq, Repr

/-- Where the backend is: between its write and its record it holds the text. -/
inductive Backend where
  | idle
  | writing (text : String)
  | dropped
  deriving DecidableEq, Repr

/-- The clipboard, what the two threads share, and how far each of them is. -/
structure Host where
  clipboard : Content
  knownClipboard : String
  stop : Bool
  poller : Poller
  backend : Backend
  deriving DecidableEq, Repr

/-- The steps of the three parties, in any order. `pbpaste` tells whether it
succeeds, `pbcopy` what it leaves on the clipboard. -/
inductive Op where
  | localCopy (text : String)
  | checkStop
  | pollRead (pbpaste : Bool)
  | pollCompare
  | formatDataResponse (response : FormatDataResponse) (pbcopy : Option String)
  | recordKnown
  | advertise (pbpaste : Bool)
  | remoteCopy (availableFormats : List ClipboardFormatId)
  | formatDataRequest (format : ClipboardFormatId) (pbpaste : Bool)
  | drop
  deriving DecidableEq, Repr

namespace Host

/-- `read_mac_clipboard`, where `pbpaste` can fail. -/
def readMacClipboard (host : Host) (pbpaste : Bool) : Option Content :=
  if pbpaste then some host.clipboard else none

/-- `unwrap_or_default`, which leaves nobody's empty text. -/
def currentContent (host : Host) (pbpaste : Bool) : Content :=
  (host.readMacClipboard pbpaste).getD ⟨"", .localUser⟩

/-- `write_mac_clipboard`: `pbcopy` may leave another text than it was given, or none. -/
def writeMacClipboard (host : Host) (pbcopy : Option String) : Host :=
  match pbcopy with
  | some text => { host with clipboard := ⟨text, .client⟩ }
  | none => host

/-- What `build_cliprdr_backend` starts from. -/
def build (clipboard : Content) (pbpaste : Bool) : Host :=
  let host : Host := { clipboard, knownClipboard := "", stop := false, poller := .loopHead, backend := .idle }
  { host with knownClipboard := (host.currentContent pbpaste).text }

/-- The poller's compare and update, under the lock. -/
def compare (host : Host) (current : Content) : Host × List Event :=
  let host := { host with poller := .loopHead }
  if current.text ≠ host.knownClipboard ∧ ¬current.text.isEmpty then
    ({ host with knownClipboard := current.text }, [sendInitiateCopy (.poller current)])
  else (host, [])

/-- `on_format_data_response` as far as the lock. -/
def onFormatDataResponse (host : Host) (response : FormatDataResponse) (pbcopy : Option String) : Host :=
  match response with
  | .error | .data none => host
  | .data (some text) =>
    if text.isEmpty then host else { host.writeMacClipboard pbcopy with backend := .writing text }

/-- `advertise_local_clipboard`: the client is told of a text that is not empty. -/
def advertiseLocalClipboard (host : Host) (pbpaste : Bool) : List Event :=
  if (host.readMacClipboard pbpaste).any fun content => !content.text.isEmpty
  then [sendInitiateCopy .backend] else []

/-- `on_remote_copy`: a text of the client is asked for. -/
def onRemoteCopy (availableFormats : List ClipboardFormatId) : List Event :=
  if availableFormats.any (· == ClipboardFormatId.cfUnicodetext)
  then [.sent .backend (.sendInitiatePaste ClipboardFormatId.cfUnicodetext)] else []

/-- `on_format_data_request`: the text is sent, or an error for any other format. -/
def onFormatDataRequest (host : Host) (format : ClipboardFormatId) (pbpaste : Bool) : List Event :=
  let text := if format = ClipboardFormatId.cfUnicodetext
    then (host.readMacClipboard pbpaste).map Content.text else none
  let response := match text with
    | some text => .data (some text)
    | none => .error
  [.sent .backend (.sendFormatData response)]

end Host

/-- The backend's callbacks run one at a time, and none once it is dropped. -/
def step (host : Host) : Op → Option (Host × List Event)
  | .localCopy text => some ({ host with clipboard := ⟨text, .localUser⟩ }, [])
  | .checkStop =>
    if host.poller = .loopHead then
      some ({ host with poller := if host.stop then .returned else .sleeping }, [])
    else none
  | .pollRead pbpaste =>
    if host.poller = .sleeping then
      some ({ host with poller := .comparing (host.currentContent pbpaste) }, [])
    else none
  | .pollCompare =>
    match host.poller with
    | .comparing current => some (host.compare current)
    | _ => none
  | .formatDataResponse response pbcopy =>
    if host.backend = .idle then some (host.onFormatDataResponse response pbcopy, []) else none
  | .recordKnown =>
    match host.backend with
    | .writing text => some ({ host with knownClipboard := text, backend := .idle }, [.recorded text])
    | _ => none
  | .advertise pbpaste =>
    if host.backend = .idle then some (host, host.advertiseLocalClipboard pbpaste) else none
  | .remoteCopy availableFormats =>
    if host.backend = .idle then some (host, Host.onRemoteCopy availableFormats) else none
  | .formatDataRequest format pbpaste =>
    if host.backend = .idle then some (host, host.onFormatDataRequest format pbpaste) else none
  | .drop =>
    if host.backend = .idle then some ({ host with stop := true, backend := .dropped }, []) else none

section Steps
variable {host next : Host} {op : Op} {emitted : List Event}

/-- What a step does, by the state that it touches. -/
inductive Moves (host : Host) : Op → Host → List Event → Prop
  | localCopy (text : String) : Moves host (.localCopy text) { host with clipboard := ⟨text, .localUser⟩ } []
  | head (poller : Poller) (resting : ∀ current, poller ≠ .comparing current) :
    Moves host .checkStop { host with poller } []
  | read (pbpaste : Bool) :
    Moves host (.pollRead pbpaste) { host with poller := .comparing (host.currentContent pbpaste) } []
  | announce (current : Content) (held : host.poller = .comparing current)
    (fresh : current.text ≠ host.knownClipboard) (nonempty : current.text ≠ "") :
    Moves host .pollCompare { host with poller := .loopHead, knownClipboard := current.text }
      [sendInitiateCopy (.poller current)]
  | ignore (current : Content) (held : host.poller = .comparing current)
    (suppressed : current.text = "" ∨ current.text = host.knownClipboard) :
    Moves host .pollCompare { host with poller := .loopHead } []
  | write (text : String) (pbcopy : Option String) (nonempty : text ≠ "") (idle : host.backend = .idle) :
    Moves host (.formatDataResponse (.data (some text)) pbcopy)
      { host.writeMacClipboard pbcopy with backend := .writing text } []
  | refuse (response : FormatDataResponse) (pbcopy : Option String) :
    Moves host (.formatDataResponse response pbcopy) host []
  | record (text : String) (writing : host.backend = .writing text) :
    Moves host .recordKnown { host with knownClipboard := text, backend := .idle } [.recorded text]
  | answer (op : Op) (emitted : List Event)
    (other : op ≠ .pollCompare ∧ (∀ response pbcopy, op ≠ .formatDataResponse response pbcopy) ∧
      ∀ pbpaste, op ≠ .pollRead pbpaste)
    (own : ∀ event ∈ emitted, ∃ message, event = .sent .backend message) : Moves host op host emitted
  | dropped (idle : host.backend = .idle) :
    Moves host .drop { host with stop := true, backend := .dropped } []

private theorem compare_moves {current : Content} (held : host.poller = .comparing current) :
    Moves host .pollCompare (host.compare current).1 (host.compare current).2 := by
  unfold Host.compare
  by_cases announced : current.text ≠ host.knownClipboard ∧ ¬current.text.isEmpty
  · simp only [if_pos announced]
    exact .announce current held announced.1 (by simpa using announced.2)
  · simp only [if_neg announced]
    refine .ignore current held ?_
    by_cases empty : current.text = ""
    · exact .inl empty
    · refine .inr (Classical.byContradiction fun fresh => announced ⟨fresh, ?_⟩)
      simpa using empty

private theorem onFormatDataResponse_moves (response : FormatDataResponse) (pbcopy : Option String)
    (idle : host.backend = .idle) :
    Moves host (.formatDataResponse response pbcopy) (host.onFormatDataResponse response pbcopy) [] := by
  cases response with
  | error => exact .refuse _ _
  | data unicode =>
    cases unicode with
    | none => exact .refuse _ _
    | some text =>
      by_cases empty : text.isEmpty = true
      · rw [Host.onFormatDataResponse, if_pos empty]
        exact .refuse _ _
      · rw [Host.onFormatDataResponse, if_neg empty]
        exact .write text pbcopy (by simpa using empty) idle

/-- All that a step can do. -/
theorem step_moves (stepped : step host op = some (next, emitted)) : Moves host op next emitted := by
  cases op with
  | localCopy text =>
    cases stepped
    exact .localCopy text
  | checkStop =>
    obtain ⟨_, moved⟩ := Option.ite_none_right_eq_some.mp stepped
    cases moved
    exact .head _ (by split <;> exact nofun)
  | pollRead pbpaste =>
    obtain ⟨_, moved⟩ := Option.ite_none_right_eq_some.mp stepped
    cases moved
    exact .read pbpaste
  | pollCompare =>
    cases held : host.poller with
    | comparing current =>
      have compared : host.compare current = (next, emitted) := by simpa [step, held] using stepped
      have moves := compare_moves held
      rwa [compared] at moves
    | _ => simp [step, held] at stepped
  | formatDataResponse response pbcopy =>
    obtain ⟨idle, moved⟩ := Option.ite_none_right_eq_some.mp stepped
    cases moved
    exact onFormatDataResponse_moves response pbcopy idle
  | recordKnown =>
    cases writing : host.backend with
    | writing text =>
      simp only [step, writing, Option.some.injEq, Prod.mk.injEq] at stepped
      obtain ⟨rfl, rfl⟩ := stepped
      exact .record text writing
    | _ => simp [step, writing] at stepped
  | advertise pbpaste =>
    obtain ⟨_, moved⟩ := Option.ite_none_right_eq_some.mp stepped
    cases moved
    refine .answer _ _ ⟨nofun, nofun, nofun⟩ fun event member => ?_
    unfold Host.advertiseLocalClipboard at member
    split at member
    · exact ⟨_, List.mem_singleton.mp member⟩
    · cases member
  | remoteCopy availableFormats =>
    obtain ⟨_, moved⟩ := Option.ite_none_right_eq_some.mp stepped
    cases moved
    refine .answer _ _ ⟨nofun, nofun, nofun⟩ fun event member => ?_
    unfold Host.onRemoteCopy at member
    split at member
    · exact ⟨_, List.mem_singleton.mp member⟩
    · cases member
  | formatDataRequest format pbpaste =>
    obtain ⟨_, moved⟩ := Option.ite_none_right_eq_some.mp stepped
    cases moved
    exact .answer _ _ ⟨nofun, nofun, nofun⟩ fun event member => ⟨_, List.mem_singleton.mp member⟩
  | drop =>
    obtain ⟨idle, moved⟩ := Option.ite_none_right_eq_some.mp stepped
    cases moved
    exact .dropped idle

end Steps

end Osxrdp.Clipboard
