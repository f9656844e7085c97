import FileClerk.Disk.Change

/-!
# Listening to a directory

A watch listens to the directory above its command file. It listens to the directory itself and not
to its path: a directory that is moved is listened to where it is then, and once it has been taken
away nothing more is heard, whatever comes in its place.
-/

namespace FileClerk

namespace Watch

structure Listener where
  /-- Where the directory is, as long as it exists. -/
  directory : Option Location
  /-- The last name of the path by which the directory was found. -/
  ownName : Option Text
  /-- The name that is listened for. -/
  file : Text
  deriving DecidableEq, Repr

namespace Listener

/-- Listens to nothing. -/
def deaf : Listener := ⟨none, none, []⟩

/-- A listener for a file, in the directory that the path above it leads to. -/
def on (host : Host) (file : Location) : Listener :=
  { directory := (host.find file.above.text).toOption.map (·.1)
    ownName := file.above.segments.getLast?
    file := file.segments.getLast?.getD [] }

/-- Whether the directory itself is moved, and not with one above it. -/
def isMoved (listener : Listener) (host : Host) : Change → Bool
  | .move source target =>
    match listener.directory with
    | none => false
    | some directory =>
      host.placeOf .entry source = [directory] &&
        host.afterMove source target directory != some directory
  | _ => false

/-- Whether a change is heard of. A move of the directory is told by the directory's own name. -/
def hears (listener : Listener) (host : Host) (change : Change) : Bool :=
  match listener.directory with
  | none => false
  | some directory =>
    (host.touched change).contains (directory.child listener.file) ||
      (listener.isMoved host change && listener.ownName == some listener.file)

def afterChange (listener : Listener) (host : Host) (change : Change) : Listener :=
  { listener with directory := listener.directory.bind fun place => host.afterChange place change }

/-- A host answers a call, and the listener goes where its directory is moved. -/
def answer : Answering (Host × Listener)
  | call, (host, listener) =>
    let (a, after) := Host.answer call host
    let directory := match call with
      | .rename source target => listener.directory.bind (host.afterMove source target)
      | _ => listener.directory
    (a, after, { listener with directory := directory })

end Listener

end Watch

end FileClerk
