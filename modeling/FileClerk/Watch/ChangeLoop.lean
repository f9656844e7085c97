import FileClerk.Interpretation
import FileClerk.Watch.Memory
import FileClerk.Watch.WatchError

/-!
# One cycle of a watch

When the command file has changed, a cycle takes a snapshot of it. Nothing there is nothing to do,
and neither is a snapshot equal to the last one accepted; any other is accepted and interpreted. A
file that cannot be read is reported and leaves the memory as it was.
-/

namespace FileClerk

namespace Watch

inductive CycleResult where
  | busy
  | empty
  | duplicate
  | rejected
  | executed
  | unreadable
  deriving DecidableEq, Repr

structure ChangeLoop where
  commandFile : Text
  box : Sandbox
  memory : Memory
  deriving DecidableEq, Repr

namespace ChangeLoop

def new (commandFile : Text) (box : Sandbox) : ChangeLoop := ⟨commandFile, box, .new⟩

/-- Reads the command file and goes on with its octets, if there are any. A file that is missing,
or goes missing, counts as empty. -/
def readingSnapshot {α : Type} (path : Text) (next : Except IoError (Option Bytes) → Action α) :
    Action α :=
  .ask (.status path) fun
    | .error error => if error.kind = .notFound then next (.ok none) else next (.error error)
    | .ok status =>
      if status.size = 0 then next (.ok none)
      else
        .ask (.read path) fun
          | .error error => if error.kind = .notFound then next (.ok none) else next (.error error)
          | .ok content => next (.ok (if content = [] then none else some content))

def logged (what : String) (detail : Option Text) : Note :=
  .log (.event .debug .changeLoop "watcher" what detail)

/-- Reacts to a change of the command file. -/
def onChange (loop : ChangeLoop) : Action (CycleResult × ChangeLoop) :=
  match loop.memory.begin? with
  | none => .note (logged "busy, notification dropped" none) (.done (.busy, loop))
  | some memory =>
    let ended (result : CycleResult) (memory : Memory) : CycleResult × ChangeLoop :=
      (result, { loop with memory := memory.finish })
    readingSnapshot loop.commandFile fun
      | .error error =>
        let failure := WatchError.snapshotFailed loop.commandFile error
        .report [.failure "could not read command file".toList (failure.message :: failure.causes)]
          (.done (ended .unreadable memory))
      | .ok none => .note (logged "command file empty" none) (.done (ended .empty memory))
      | .ok (some snapshot) =>
        if memory.isDuplicate snapshot then
          .note (logged "duplicate" (some (Text.ofNat snapshot.length ++ " bytes".toList)))
            (.done (ended .duplicate memory))
        else
          (loop.box.interpret (Utf8.decodeLossy snapshot)).bind fun interpretation =>
          .done (ended (if interpretation.isRejected then .rejected else .executed)
            (memory.accept snapshot))

end ChangeLoop

end Watch

end FileClerk
