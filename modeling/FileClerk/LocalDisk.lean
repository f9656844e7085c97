import FileClerk.Action
import FileClerk.Disk.Errno

/-!
# The disk of this machine

Carries actions out on the real disk: each call becomes one or two requests to the system, and its
errors are told by their numbers.
-/

namespace FileClerk

namespace LocalDisk

def pathOf (path : Text) : String := String.ofList path

/-- The number of an error; some requests give it with a minus sign. -/
def errorNumber (code : UInt32) : Nat := (code.toInt32).toInt.natAbs

/-- The number and the words of an error of the system. -/
def ioError : IO.Error → IoError
  | .noFileOrDirectory _ code details | .interrupted _ code details
  | .alreadyExists _ code details | .invalidArgument _ code details
  | .permissionDenied _ code details | .resourceExhausted _ code details
  | .inappropriateType _ code details | .noSuchThing _ code details
  | .otherError code details | .resourceBusy code details | .resourceVanished code details
  | .unsupportedOperation code details | .hardwareFault code details
  | .unsatisfiedConstraints code details | .illegalOperation code details
  | .protocolError code details | .timeExpired code details =>
    .ofNumber (errorNumber code) details.toList
  | .unexpectedEof => ⟨.other, "unexpected end of file".toList⟩
  | .userError reason => ⟨.other, reason.toList⟩

/-- What came of a request, with a failure as a value. -/
def attempt {α : Type} (request : IO α) : IO (Except IoError α) := do
  try return .ok (← request)
  catch error => return .error (ioError error)

def instant (t : IO.FS.SystemTime) : Instant := ⟨t.sec, t.nsec.toNat⟩

/-- What the system tells about a place. -/
def status (path : Text) : IO FileStatus := do
  let data ← ((← IO.currentDir) / pathOf path).metadata
  let kind := if data.type == .dir then EntryKind.directory else .file
  return ⟨kind, data.byteSize.toNat, none, some (instant data.modified),
    some (instant data.accessed)⟩

/-- The children of a directory in the order of their names. -/
def list (path : Text) : IO (List DirectoryEntry) := do
  let entries ← ((← IO.currentDir) / pathOf path).readDir
  let named ← entries.toList.mapM fun entry => do
    let data ← entry.path.symlinkMetadata
    let kind := if data.type == .dir then EntryKind.directory else .file
    return (⟨entry.fileName.toList, kind⟩ : DirectoryEntry)
  return named.mergeSort fun a b => !decide (b.name < a.name)

def isPresent (path : Text) : IO (Except IoError Bool) := do
  match ← attempt (status path) with
  | .ok _ => return .ok true
  | .error error => return if error.kind = .notFound then .ok false else .error error

def read (path : Text) : IO Bytes := do
  return (← IO.FS.readBinFile (pathOf path)).toList

def write (path : Text) (content : Bytes) : IO Unit :=
  IO.FS.writeBinFile (pathOf path) ⟨content.toArray⟩

def append (path : Text) (content : Bytes) : IO Unit := do
  let handle ← IO.FS.Handle.mk (pathOf path) .append
  handle.write ⟨content.toArray⟩

def createEmpty (path : Text) : IO Unit := do
  let _ ← IO.FS.Handle.mk (pathOf path) .writeNew

/-- Copies a file; anything else is refused. -/
def copy (source target : Text) : IO (Except IoError Nat) := do
  match ← attempt (status source) with
  | .error error => return .error error
  | .ok found =>
    if found.kind = .directory then return .error .notAFile
    attempt do
      let content ← read source
      write target content
      return content.length

/-- Carries out one call. -/
def answer : (call : Call) → IO call.Answer
  | .isPresent path => isPresent path
  | .createDirectories path => attempt (IO.FS.createDirAll (pathOf path))
  | .createEmpty path => attempt (createEmpty path)
  | .removeFile path => attempt (IO.FS.removeFile (pathOf path))
  | .rename source target => attempt (IO.FS.rename (pathOf source) (pathOf target))
  | .append path content => attempt (append path content)
  | .read path => attempt (read path)
  | .copy source target => copy source target
  | .list path => attempt (list path)
  | .status path => attempt (status path)
  | .write path content => attempt (write path content)

/-- Carries out an action, and hands on each note as it comes. -/
def perform {α : Type} (onNote : Note → IO Unit) : Action α → IO (Except Crash α)
  | .done a => return .ok a
  | .crash why => return .error why
  | .ask call next => do perform onNote (next (← answer call))
  | .note n next => do
    onNote n
    perform onNote next

end LocalDisk

end FileClerk
