import FileClerk.CommandLine.Program
import FileClerk.LocalDisk
import Std.Time.DateTime.Timestamp

/-!
# The program at work

Reads arguments, environment and working directory, carries the program out on the disk of this
machine, and lets a watch run until it is ended from outside. A watch looks at its command file
every few milliseconds and notifies its loop when the file has changed.
-/

namespace FileClerk

namespace Running

open CommandLine Watch

/-- The variables of this process. -/
def environment : IO (List (Text × Text)) := do
  let content ← IO.FS.readBinFile "/proc/self/environ"
  let entries := Text.pieces '\x00' (Utf8.decodeLossy content.toList)
  return entries.filterMap fun entry => Text.splitOnce? entry ['=']

def say (text : Text) : IO Unit := do
  let output ← IO.getStdout
  output.putStr (String.ofList text)
  output.flush

def complain (text : Text) : IO Unit := do
  (← IO.getStderr).putStr (String.ofList text)

/-- The time now. -/
def now : IO Instant := do
  let t ← Std.Time.Timestamp.now
  let nanos := t.toNanosecondsSinceUnixEpoch.val
  return ⟨nanos.fdiv 1000000000, (nanos.fmod 1000000000).toNat⟩

/-- Writes a note into the log, with the time of day, if the filter lets it through. -/
def log (filter : LogFilter) (note : Note) : IO Unit := do
  if filter.allows note.line then
    say ((← now).clockText ++ ' ' :: note.line.text ++ ['\n'])

/-- When the command file was written last, if it is there. -/
def written (path : Text) : IO (Option (Option Instant × Nat)) := do
  match ← LocalDisk.attempt (LocalDisk.status path) with
  | .ok status => return some (status.modified, status.size)
  | .error _ => return none

/-- How long a watch sleeps between two looks, in milliseconds. -/
def lookEvery : UInt32 := 5

/-- Lets a watch run on. -/
partial def watch (filter : LogFilter) (loop : ChangeLoop) (machine : Machine)
    (seen : Option (Option Instant × Nat)) : IO Unit := do
  IO.sleep lookEvery
  let clock ← IO.monoMsNow
  let found ← written loop.commandFile
  let heard := if found.isSome && found != seen then [Signal.arrival, .receipt clock] else []
  let machine := machine.after (heard ++ [.quiet clock])
  match machine.stage with
  | .cycling _ =>
    match ← LocalDisk.perform (log filter) loop.onChange with
    | .error _ => throw (IO.userError "a time lies outside the calendar")
    | .ok (_, loop) =>
      watch filter loop (machine.after (machine.conclusion (← IO.monoMsNow))) found
  | _ => watch filter loop machine found

/-- Does a job to its end. -/
def finish (job : Job) (place : Location) : IO Ending := do
  complain job.complaint
  match ← LocalDisk.perform (log job.filter) (job.action place) with
  | .error _ => return ⟨crashCode, [], []⟩
  | .ok (.ended ending) => return ending
  | .ok (.watching watcher) =>
    let machine := Machine.new watcher.settle watcher.capacity (← IO.monoMsNow)
    watch job.filter watcher.loop machine (← written watcher.commandFile.text)
    return .shown []

def program (args : List String) : IO UInt32 := do
  let place := Location.ofText (← IO.currentDir).toString.toList
  let prepared := prepare place (← environment) (args.map String.toList)
  let ending ← match ← LocalDisk.perform (fun _ => pure ()) prepared with
    | .error _ => pure ⟨crashCode, [], []⟩
    | .ok (.error ending) => pure ending
    | .ok (.ok job) => finish job place
  say ending.output
  complain ending.complaint
  return ending.code.toUInt32

end Running

end FileClerk

def main (args : List String) : IO UInt32 := FileClerk.Running.program args
