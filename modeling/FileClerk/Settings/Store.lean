import FileClerk.Action
import FileClerk.Path.Location
import FileClerk.Path.Parent
import FileClerk.Settings.Layers
import FileClerk.Settings.Writing
import FileClerk.Text.Utf8
import FileClerk.Toml.Document

/-!
# Settings on disk

The settings file lies in a directory of its own, which is looked for from the working directory
upwards. A file that is not there says nothing; one that cannot be read as a document is a mistake.
-/

namespace FileClerk

namespace Action

/-- Whether a place is of some kind, links followed; what cannot be reached is of none. -/
def isOfKind (kind : EntryKind) (path : Text) : Action Bool := do
  match ← call (.status path) with
  | .ok status => return status.kind == kind
  | .error _ => return false

/-- The first path of a list that leads to a place of some kind. -/
def firstOfKind (kind : EntryKind) : List Text → Action (Option Text)
  | [] => return none
  | path :: rest => do
    if ← isOfKind kind path then return some path
    firstOfKind kind rest

/-- Writes a file and makes the directories above it first. -/
def writeWithParents (path : Text) (content : Bytes) : Action (Except IoError Unit) := do
  match (Path.parent? path).filter (· ≠ []) with
  | none => call (.write path content)
  | some parent =>
    match ← call (.createDirectories parent) with
    | .error error => return .error error
    | .ok () => call (.write path content)

end Action

namespace Settings

/-- The directory of the settings file. -/
def directoryName : Text := ".cmdwatch".toList

def fileName : Text := "settings.toml".toList

/-- Where new settings are written. -/
def newFile : Text := Path.join directoryName fileName

/-- The places where a file may be meant: a relative path is tried from the working directory and
from every directory above it. -/
def candidates (workingDirectory : Location) (path : Text) : List Text :=
  if Path.isAbsolute path then [path]
  else (Path.ancestors workingDirectory.text).map fun directory => Path.join directory path

/-- Reads a file as a document of settings. -/
def readDocument (file : Text) : Action (Option Datum) := do
  match ← Action.call (.read file) with
  | .error _ => return none
  | .ok content => return ((Utf8.decode? content).bind Toml.document?).bind ofDocument?

/-- Reads the settings of a file and an environment. -/
def loadFrom (workingDirectory : Location) (environment : List (Text × Text)) (path : Text) :
    Action (Except Mistake Settings) := do
  let document : Except Mistake (Option Datum) ←
    match ← Action.firstOfKind .file (candidates workingDirectory path) with
    | none => pure (.ok none)
    | some file =>
      match ← readDocument file with
      | none => pure (.error .malformed)
      | some document => pure (.ok (some document))
  match ofEnvironment environment with
  | .error why => .crash why
  | .ok said => return document.bind fun document => ofLayers document said

/-- Reads the settings of the nearest settings directory and an environment. -/
def load (workingDirectory : Location) (environment : List (Text × Text)) :
    Action (Except Mistake Settings) := do
  let directories := candidates workingDirectory directoryName
  match ← Action.firstOfKind .directory directories with
  | some directory => loadFrom workingDirectory environment (Path.join directory fileName)
  | none => loadFrom workingDirectory environment newFile

/-- Writes settings to a file. -/
def save (settings : Settings) (path : Text) : Action (Except IoError Unit) :=
  Action.writeWithParents path (Utf8.encode settings.document)

/-- The root of the sandbox that settings ask for. -/
def root (settings : Settings) (workingDirectory : Location) : Text :=
  settings.sandboxRoot.getD workingDirectory.text

end Settings

end FileClerk
