import FileClerk.Disk.Host
import FileClerk.Text.Quoted
import FileClerk.Watch.Session

/-!
# Setting up a watch

A watch is told what it needs in any order, and of two choices of one kind the later one counts.
Then it is built: the path of the command file is made absolute and read without looking at the
disk, a channel is opened, and the system is asked to listen. The directory above the command file
is what is watched, and it has to exist when watching starts.
-/

namespace FileClerk

namespace Watch

/-- What a watch is set up from. -/
structure Setup where
  commandFile : Option Text
  root : Option Text
  settle : Nat
  capacity : Nat
  deriving DecidableEq, Repr

/-- One thing that is chosen for a watch. -/
inductive Choice where
  | commandFile (path : Text)
  | root (path : Text)
  /-- The quiet time in milliseconds. -/
  | settle (time : UInt64)
  | capacity (places : UInt64)
  deriving DecidableEq, Repr

namespace Setup

/-- Nothing given: a tenth of a second to settle, 64 places in the mailbox. -/
def new : Setup := ⟨none, none, 100, 64⟩

/-- A watch always has a place for one notification. -/
def setCapacity (setup : Setup) (capacity : Nat) : Setup :=
  { setup with capacity := max capacity 1 }

def choose (setup : Setup) : Choice → Setup
  | .commandFile path => { setup with commandFile := some path }
  | .root path => { setup with root := some path }
  | .settle time => { setup with settle := time.toNat }
  | .capacity places => setup.setCapacity places.toNat

/-- What is set up by one choice after the other. -/
def ofChoices (choices : List Choice) : Setup := choices.foldl choose new

end Setup

/-- The most places a channel may have. -/
def channelLimit : Nat := 0xFFFFFFFFFFFFFFFF / 8

/-- Opens a channel, and tells how many places it has. -/
def openChannel (places : Nat) : Except Crash Nat :=
  if places = 0 then .error .channelEmpty
  else if channelLimit < places then .error .channelTooLarge
  else .ok places

/-- What the system has to say when a watch is built. -/
structure Surroundings where
  workingDirectory : Except IoError Location
  /-- Whether it listens to changes, or why not. -/
  listening : Except Text Unit

namespace Surroundings

/-- Where a path leads; only a relative one needs the working directory. -/
def locate (around : Surroundings) (path : Text) : Except IoError Location :=
  if Path.isAbsolute path then .ok (.ofText path)
  else around.workingDirectory.map fun directory => .ofText (Path.join directory.text path)

/-- The sandbox at a root, which is the working directory if none is given. -/
def sandbox (around : Surroundings) : Option Text → Except IoError Sandbox
  | some root => (around.locate root).map Sandbox.mk
  | none => around.workingDirectory.map fun directory => ⟨.ofText directory.text⟩

end Surroundings

/-- A watch that is ready to start. -/
structure Watcher where
  commandFile : Location
  box : Sandbox
  settle : Nat
  capacity : Nat
  deriving DecidableEq, Repr

namespace Setup

/-- The command file and the sandbox that are meant. -/
def target (setup : Setup) (around : Surroundings) : Except WatchError (Location × Sandbox) :=
  match setup.commandFile with
  | none => .error (.initFailed "Command file is required".toList)
  | some path =>
    match around.sandbox setup.root with
    | .error error =>
      .error (.initFailed ("Cannot resolve sandbox root: ".toList ++ error.text))
    | .ok box =>
      if path = [] then
        .error (.pathWatchFailed path "cannot make an empty path absolute".toList)
      else
        match around.locate path with
        | .error error => .error (.pathWatchFailed path error.text)
        | .ok commandFile =>
          if commandFile = .top then
            .error (.initFailed (commandFile.text ++ " is not a file path".toList))
          else .ok (commandFile, box)

/-- Builds a watch in whatever surroundings. -/
def buildIn (setup : Setup) (around : Surroundings) : Except Crash (Except WatchError Watcher) :=
  match setup.target around with
  | .error error => .ok (.error error)
  | .ok (commandFile, box) =>
    match openChannel setup.capacity with
    | .error why => .error why
    | .ok capacity =>
      match around.listening with
      | .error reason => .ok (.error (.initFailed reason))
      | .ok () => .ok (.ok ⟨commandFile, box, setup.settle, capacity⟩)

/-- Builds a watch on a system that listens, from a working directory. -/
def build (setup : Setup) (workingDirectory : Location) :
    Except Crash (Except WatchError Watcher) :=
  setup.buildIn ⟨.ok workingDirectory, .ok ()⟩

end Setup

namespace Watcher

/-- The directory that is watched. -/
def directory (watcher : Watcher) : Location := watcher.commandFile.above

def loop (watcher : Watcher) : ChangeLoop := .new watcher.commandFile.text watcher.box

/-- Looks whether watching can start, and tells why if it cannot. -/
def obstacle? (watcher : Watcher) : Action (Option WatchError) := do
  let directory := watcher.directory.text
  match ← Action.call (.status directory) with
  | .ok _ => return none
  | .error error =>
    let reason :=
      if directory.contains '\x00' then "data provided contains a nul byte".toList
      else if error.kind = .notFound then "No path was found.".toList
      else error.text
    return some (.pathWatchFailed directory
      (reason ++ " about [".toList ++ directory.quoted ++ [']']))

/-- The session of a watch that has started. -/
def start (watcher : Watcher) (host : Host) : Session :=
  .start host (.on host watcher.commandFile) watcher.loop watcher.settle watcher.capacity

end Watcher

end Watch

end FileClerk
