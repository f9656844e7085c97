import FileClerk.Text.Basic
import FileClerk.Time.Instant

/-!
# Calls on a disk

All that may be asked of a disk: eleven calls, each naming the paths it is about. A disk answers a
call with the reply that belongs to it or with an error. Commands make do with the first ten;
`write` is for the program's own files.
-/

namespace FileClerk

inductive EntryKind where
  | file
  | directory
  deriving DecidableEq, Repr

/-- An immediate child of a directory. -/
structure DirectoryEntry where
  name : Text
  kind : EntryKind
  deriving DecidableEq, Repr

/-- What a disk tells about a place; a time may be unknown to it. -/
structure FileStatus where
  kind : EntryKind
  size : Nat
  created : Option Instant
  modified : Option Instant
  accessed : Option Instant
  deriving DecidableEq, Repr

namespace IoError

inductive Kind where
  | notFound
  | permissionDenied
  | alreadyExists
  | isADirectory
  | notADirectory
  | storageFull
  | interrupted
  | invalidInput
  | invalidFilename
  | filesystemLoop
  | directoryNotEmpty
  | resourceBusy
  | crossesDevices
  | other
  deriving DecidableEq, Repr

/-- What an error says, and what the errors behind it say, nearest first. -/
structure Wording where
  text : Text
  behind : List Text
  deriving DecidableEq, Repr

/-- A text alone has nothing behind it. -/
instance : Coe Text Wording := ⟨fun text => ⟨text, []⟩⟩

end IoError

/-- A failed call: its kind, by which some failures are expected, and its wording. -/
structure IoError where
  kind : IoError.Kind
  wording : IoError.Wording
  deriving DecidableEq, Repr

namespace IoError

def text (error : IoError) : Text := error.wording.text

/-- The texts of an error and of the errors behind it, nearest first. -/
def texts (error : IoError) : List Text := error.wording.text :: error.wording.behind

end IoError

inductive Call where
  | isPresent (path : Text)
  | createDirectories (path : Text)
  | createEmpty (path : Text)
  | removeFile (path : Text)
  | rename (source target : Text)
  | append (path : Text) (content : Bytes)
  | read (path : Text)
  | copy (source target : Text)
  | list (path : Text)
  | status (path : Text)
  /-- Makes a file hold nothing but some octets. -/
  | write (path : Text) (content : Bytes)
  deriving DecidableEq, Repr

namespace Call

/-- What a call that succeeds is answered with. -/
abbrev Reply : Call → Type
  | isPresent _ => Bool
  | read _ => Bytes
  | copy _ _ => Nat
  | list _ => List DirectoryEntry
  | status _ => FileStatus
  | createDirectories _ | createEmpty _ | removeFile _ | rename _ _ | append _ _ | write _ _ => Unit

abbrev Answer (call : Call) : Type := Except IoError call.Reply

/-- The paths a call names. -/
def paths : Call → List Text
  | isPresent p | createDirectories p | createEmpty p | removeFile p | append p _ | read p
  | list p | status p | write p _ => [p]
  | rename p q | copy p q => [p, q]

end Call

end FileClerk
