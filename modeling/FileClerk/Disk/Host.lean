import FileClerk.Action
import FileClerk.Disk.Walk
import FileClerk.Path.Parent

/-!
# A disk that answers

A host is a disk together with the working directory from which relative paths are read. It answers
every call, and a call that fails leaves the disk as it was, except that directories made on the way
to one that cannot be made stay.
-/

namespace FileClerk

structure Host where
  disk : Disk
  workingDirectory : Location
  deriving DecidableEq, Repr

namespace Host

def lookUp (host : Host) (purpose : Disk.Purpose) (path : Text) : Except IoError Disk.Spot :=
  host.disk.lookUp host.workingDirectory purpose path

def find (host : Host) (path : Text) : Except IoError (Location × Disk.Entry) :=
  host.disk.find host.workingDirectory path

def setDisk (host : Host) (disk : Disk) : Host := { host with disk := disk }

def put (host : Host) (place : Location) (entry : Disk.Entry) : Host :=
  host.setDisk (host.disk.put place entry)

/-- Whether something is at a path. A path below a file or in a loop of links is an error. -/
def isPresent (host : Host) (path : Text) : Except IoError Bool :=
  match host.find path with
  | .ok _ => .ok true
  | .error error => if error.kind = .notFound then .ok false else .error error

def isDirectory (host : Host) (path : Text) : Bool :=
  match host.find path with
  | .ok (_, .directory) => true
  | _ => false

def makeDirectory (host : Host) (path : Text) : Except IoError Host := do
  let spot ← host.lookUp .entry path
  match spot.entry with
  | some _ => .error Errno.exists_.error
  | none => .ok (host.put spot.place .directory)

/-- Makes a directory, and tells whether the directory above it is what is missing. -/
def tryDirectory (host : Host) (path : Text) : Except IoError Host :=
  match host.makeDirectory path with
  | .ok host => .ok host
  | .error error => if host.isDirectory path then .ok host else .error error

/-- Makes the directories of a list of paths, each above the one before it: the first that can be
made or is there, and then those that were missing below it. -/
def makeChain (host : Host) : List Text → Except IoError Unit × Host
  | [] => (.ok (), host)
  | path :: outer =>
    if path = [] then (.ok (), host)
    else
      match host.makeDirectory path with
      | .ok host => (.ok (), host)
      | .error error =>
        if error.kind = .notFound then
          match makeChain host outer with
          | (.error error, host) => (.error error, host)
          | (.ok (), host) =>
            match host.tryDirectory path with
            | .ok host => (.ok (), host)
            | .error error => (.error error, host)
        else if host.isDirectory path then (.ok (), host)
        else (.error error, host)

/-- Makes a directory and all that are missing above it. -/
def createDirectories (host : Host) (path : Text) : Except IoError Unit × Host :=
  host.makeChain (Path.ancestors path)

def createEmpty (host : Host) (path : Text) : Except IoError Host := do
  let spot ← host.lookUp .newFile path
  match spot.entry with
  | some _ => .error Errno.exists_.error
  | none => .ok (host.put spot.place (.file []))

/-- The file to write to at a path, and what it holds; a free spot holds nothing yet. -/
def openForWriting (host : Host) (path : Text) : Except IoError (Location × Bytes) := do
  let spot ← host.lookUp .fileToWrite path
  match spot.entry with
  | none => .ok (spot.place, [])
  | some (.file content) => .ok (spot.place, content)
  | some _ => .error Errno.isDirectory.error

def append (host : Host) (path : Text) (content : Bytes) : Except IoError Host := do
  let (place, before) ← host.openForWriting path
  .ok (host.put place (.file (before ++ content)))

def write (host : Host) (path : Text) (content : Bytes) : Except IoError Host := do
  let (place, _) ← host.openForWriting path
  .ok (host.put place (.file content))

def read (host : Host) (path : Text) : Except IoError Bytes := do
  match ← host.find path with
  | (_, .file content) => .ok content
  | _ => .error Errno.isDirectory.error

def removeFile (host : Host) (path : Text) : Except IoError Host := do
  let spot ← host.lookUp .entry path
  if spot.named then
    match spot.entry with
    | none => .error Errno.noEntry.error
    | some .directory => .error Errno.isDirectory.error
    | some _ =>
      if spot.slash then .error Errno.notDirectory.error
      else .ok (host.setDisk (host.disk.erase spot.place))
  else .error Errno.isDirectory.error

/-- Whether an entry may take the place of what is at a target. -/
def mayReplace (host : Host) (entry : Disk.Entry) (target : Disk.Spot) : Except Errno Unit :=
  match entry, target.entry with
  | _, none => .ok ()
  | .directory, some .directory =>
    if host.disk.children target.place = [] then .ok () else .error .notEmpty
  | .directory, some _ => .error .notDirectory
  | _, some .directory => .error .isDirectory
  | _, some _ => .ok ()

/-- The disk after an entry was moved, or why it cannot be. -/
def moving (host : Host) (source target : Disk.Spot) : Except Errno Disk :=
  if source.named && target.named then
    if source.isTooLong then .error .nameTooLong
    else match source.entry with
    | none => .error .noEntry
    | some entry =>
      if target.isTooLong then .error .nameTooLong
      else if entry ≠ .directory ∧ (source.slash || target.slash) then .error .notDirectory
      else if source.place = target.place then .ok host.disk
      else if target.place.isWithin source.place then .error .invalid
      else if source.place.isWithin target.place then .error .notEmpty
      else
        match host.mayReplace entry target with
        | .ok () => .ok (host.disk.move source.place target.place)
        | .error e => .error e
  else .error .busy

def rename (host : Host) (source target : Text) : Except IoError Host := do
  let source ← host.lookUp .moveEnd source
  let target ← host.lookUp .moveEnd target
  match host.moving source target with
  | .ok disk => .ok (host.setDisk disk)
  | .error e => .error e.error

/-- Copies a file. The target is emptied before anything is read, so a file copied onto itself,
through a link, is lost. -/
def copy (host : Host) (source target : Text) : Except IoError (Nat × Host) := do
  match ← host.find source with
  | (place, .file _) =>
    let (into, _) ← host.openForWriting target
    let emptied := host.put into (.file [])
    let content := match emptied.disk.entry? place with
      | some (.file content) => content
      | _ => []
    .ok (content.length, emptied.put into (.file content))
  | _ => .error .notAFile

def kindOf : Disk.Entry → EntryKind
  | .directory => .directory
  | .file _ | .link _ => .file

def list (host : Host) (path : Text) : Except IoError (List DirectoryEntry) := do
  match ← host.find path with
  | (place, .directory) =>
    let entries := (host.disk.children place).map fun e => (⟨e.1, kindOf e.2⟩ : DirectoryEntry)
    .ok (entries.mergeSort fun a b => !decide (b.name < a.name))
  | _ => .error Errno.notDirectory.error

/-- What a directory takes up itself. -/
def directorySize : Nat := 4096

/-- A host keeps no times. -/
def status (host : Host) (path : Text) : Except IoError FileStatus := do
  match ← host.find path with
  | (_, .file content) => .ok ⟨.file, content.length, none, none, none⟩
  | _ => .ok ⟨.directory, directorySize, none, none, none⟩

/-- The answer of a call that changes the disk only if it succeeds. -/
def settle (host : Host) (result : Except IoError Host) : Except IoError Unit × Host :=
  match result with
  | .ok host => (.ok (), host)
  | .error error => (.error error, host)

def answer : Answering Host
  | .isPresent path, host => (host.isPresent path, host)
  | .createDirectories path, host => host.createDirectories path
  | .createEmpty path, host => host.settle (host.createEmpty path)
  | .removeFile path, host => host.settle (host.removeFile path)
  | .rename source target, host => host.settle (host.rename source target)
  | .append path content, host => host.settle (host.append path content)
  | .read path, host => (host.read path, host)
  | .copy source target, host =>
    match host.copy source target with
    | .ok (count, host) => (.ok count, host)
    | .error error => (.error error, host)
  | .list path, host => (host.list path, host)
  | .status path, host => (host.status path, host)
  | .write path content, host => host.settle (host.write path content)

end Host

end FileClerk
