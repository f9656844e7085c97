import FileClerk.Action
import FileClerk.Command.Operation
import FileClerk.Outcome
import FileClerk.Text.Utf8

/-!
# Carrying out an operation

Every path is resolved in the sandbox before anything is asked of the disk, so a bad path touches
nothing. A target that is missing, or already there, is looked for first and makes the operation a
skipped one; any call that fails ends it as failed. Directories above a target are created as
needed, and never above the root.
-/

namespace FileClerk

namespace Execution

/-- Goes on with the place a path names, or fails. -/
def resolving (box : Sandbox) (raw : Text) (next : Location → Action Outcome) : Action Outcome :=
  match box.resolve raw with
  | .ok place => next place
  | .error error => .done (.failed (.path error))

/-- Asks a call and goes on with its reply, or fails with its error. -/
def attempting (attempt : Attempt) (place : Location) (call : Call)
    (next : call.Reply → Action Outcome) : Action Outcome :=
  .ask call fun
    | .ok reply => next reply
    | .error error => .done (.failed (.call attempt place error))

def ifPresent (place : Location) (next : Bool → Action Outcome) : Action Outcome :=
  attempting .check place (.isPresent place.text) next

/-- Goes on once the directory above a place exists. Nothing is created above the root. -/
def underParent (box : Sandbox) (place : Location) (next : Action Outcome) : Action Outcome :=
  match place.parent? with
  | none => next
  | some parent =>
    if parent.isWithin box.root then
      attempting .createDirectories parent (.createDirectories parent.text) fun _ => next
    else next

def success (message : Text) : Action Outcome := .done (.success message)

def skipped (message : Text) : Action Outcome := .done (.skipped message)

def absent (raw : Text) : Text := "file ".toList ++ raw ++ " does not exist".toList

def present (raw : Text) : Text := "file ".toList ++ raw ++ " already exists".toList

def create (box : Sandbox) (raw : Text) : Action Outcome :=
  resolving box raw fun place =>
  ifPresent place fun there =>
  if there then skipped (present raw)
  else
    underParent box place <|
    .ask (.createEmpty place.text) fun
      | .ok () => success ("created file ".toList ++ raw)
      | .error error =>
        if error.kind = .alreadyExists then skipped (present raw)
        else .done (.failed (.call .create place error))

def delete (box : Sandbox) (raw : Text) : Action Outcome :=
  resolving box raw fun place =>
  ifPresent place fun there =>
  if there then
    attempting .delete place (.removeFile place.text) fun _ =>
    success ("deleted file ".toList ++ raw)
  else skipped (absent raw)

def rename (box : Sandbox) (old new : Text) : Action Outcome :=
  resolving box old fun source =>
  resolving box new fun target =>
  ifPresent source fun there =>
  if there then
    ifPresent target fun taken =>
    if taken then skipped (present new ++ ", not overwriting".toList)
    else
      underParent box target <|
      attempting .rename source (.rename source.text target.text) fun _ =>
      success ("renamed ".toList ++ old ++ " to ".toList ++ new)
  else skipped (absent old)

def append (box : Sandbox) (raw content : Text) : Action Outcome :=
  resolving box raw fun place =>
  underParent box place <|
  attempting .append place (.append place.text (Utf8.encode content)) fun _ =>
  success ("appended ".toList ++ Text.ofNat content.octets ++ " bytes to ".toList ++ raw)

/-- Stands for the content of an empty file. -/
def emptyFile : Text := "<empty file>".toList

/-- Tells that a content is not shown octet for octet. -/
def lossyNote : Text := " (not valid UTF-8, invalid bytes shown as U+FFFD)".toList

/-- How the content of a file is shown under its name. -/
def contentReport (raw : Text) (content : Bytes) : Text :=
  let heading := "contents of ".toList ++ raw
  if content = [] then heading ++ ":\n".toList ++ emptyFile
  else
    match Utf8.decode? content with
    | some text => heading ++ ":\n".toList ++ text
    | none => heading ++ lossyNote ++ ":\n".toList ++ Utf8.decodeLossy content

def read (box : Sandbox) (raw : Text) : Action Outcome :=
  resolving box raw fun place =>
  ifPresent place fun there =>
  if there then
    attempting .read place (.read place.text) fun content => success (contentReport raw content)
  else skipped (absent raw)

def copy (box : Sandbox) (source target : Text) : Action Outcome :=
  resolving box source fun old =>
  resolving box target fun new =>
  if old = new then
    skipped (source ++ " and ".toList ++ target ++ " are the same file, not copying".toList)
  else
    ifPresent old fun there =>
    if there then
      underParent box new <|
      attempting .copy old (.copy old.text new.text) fun count =>
      success ("copied ".toList ++ source ++ " to ".toList ++ target ++ " (".toList
        ++ Text.ofNat count ++ " bytes)".toList)
    else skipped (absent source)

def entryLine (entry : DirectoryEntry) : Text :=
  let tag := match entry.kind with
    | .file => "[FILE] ".toList
    | .directory => "[DIR] ".toList
  '\n' :: tag ++ entry.name

/-- How the entries of a directory are shown under its name. -/
def listReport (raw : Text) (entries : List DirectoryEntry) : Text :=
  raw ++ " (".toList ++ Text.ofNat entries.length ++ " entries):".toList
    ++ (if entries = [] then "\n(empty directory)".toList else [])
    ++ entries.flatMap entryLine

def list (box : Sandbox) (raw : Text) : Action Outcome :=
  resolving box raw fun place =>
  .ask (.status place.text) fun
    | .error error =>
      .done <| .failed <|
        if error.kind = .notFound then .notFound place else .call .inspect place error
    | .ok status =>
      if status.kind = .directory then
        attempting .list place (.list place.text) fun entries => success (listReport raw entries)
      else .done (.failed (.notADirectory place))

/-- A time as it is shown; there is no text for one outside the calendar. -/
def timeText? : Option Instant → Option Text
  | none => some "unavailable".toList
  | some t => t.text?

/-- What is known about a place, a fact to a line. -/
def infoReport? (raw : Text) (status : FileStatus) : Option Text := do
  let kind := match status.kind with
    | .file => "file".toList
    | .directory => "directory".toList
  let created ← timeText? status.created
  let modified ← timeText? status.modified
  let accessed ← timeText? status.accessed
  pure ("info for ".toList ++ raw ++ ":\n  kind: ".toList ++ kind ++ "\n  size: ".toList
    ++ Text.ofNat status.size ++ " bytes\n  created: ".toList ++ created
    ++ "\n  modified: ".toList ++ modified ++ "\n  accessed: ".toList ++ accessed)

def info (box : Sandbox) (raw : Text) : Action Outcome :=
  resolving box raw fun place =>
  ifPresent place fun there =>
  if there then
    attempting .inspect place (.status place.text) fun status =>
    match infoReport? raw status with
    | some report => success report
    | none => .crash .timeOutOfRange
  else skipped (raw ++ " does not exist".toList)

end Execution

namespace Operation

/-- What an operation asks of a disk, and what comes of it. -/
def execute (box : Sandbox) : Operation → Action Outcome
  | create path => Execution.create box path
  | delete path => Execution.delete box path
  | rename old new => Execution.rename box old new
  | append path content => Execution.append box path content
  | read path => Execution.read box path
  | copy source target => Execution.copy box source target
  | list path => Execution.list box path
  | info path => Execution.info box path

end Operation

end FileClerk
