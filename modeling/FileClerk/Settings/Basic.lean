import FileClerk.Keyed

/-!
# Settings

What the program can be told beforehand: the command file, the root of the sandbox, how a watch
settles and how much it holds, and what goes to the log. Everything has a default. The levels of
single modules are kept in the order of their names, so equal settings are written alike.
-/

namespace FileClerk

namespace Settings

/-- Levels by the names of modules. -/
structure ModuleLevels where
  entries : Keyed Text
  ordered : entries.Pairwise fun a b => a.1 < b.1

structure Watching where
  /-- The quiet time before a change is acted on, in milliseconds. -/
  settle : UInt64
  /-- How many notifications may wait. -/
  capacity : UInt64

structure Logging where
  level : Text
  modules : ModuleLevels

end Settings

structure Settings where
  version : UInt32
  commandFile : Text
  /-- Nothing given means the working directory. -/
  sandboxRoot : Option Text
  watching : Settings.Watching
  logging : Settings.Logging

namespace Settings

namespace ModuleLevels

def empty : ModuleLevels := ⟨[], .nil⟩

def put (levels : ModuleLevels) (name level : Text) : ModuleLevels :=
  ⟨Keyed.put name level levels.entries, Keyed.pairwise_put _ _ levels.ordered⟩

/-- Levels from a list; of two for one name the later one counts. -/
def ofList (entries : List (Text × Text)) : ModuleLevels :=
  entries.foldl (fun levels e => levels.put e.1 e.2) empty

end ModuleLevels

end Settings

/-- The settings of somebody who gave none. -/
def Settings.default : Settings :=
  { version := 1
    commandFile := "command.txt".toList
    sandboxRoot := none
    watching := ⟨100, 64⟩
    logging := ⟨"info".toList, .empty⟩ }

end FileClerk
