import FileClerk.Disk.Call

/-!
# Errors of a watch
-/

namespace FileClerk

namespace Watch

inductive WatchError where
  | initFailed (reason : Text)
  | pathWatchFailed (path reason : Text)
  | snapshotFailed (path : Text) (cause : IoError)
  deriving DecidableEq, Repr

namespace WatchError

def message : WatchError → Text
  | initFailed reason => "Failed to initialize watcher: ".toList ++ reason
  | pathWatchFailed path reason =>
    "Cannot watch path ".toList ++ path ++ ": ".toList ++ reason
  | snapshotFailed path _ => "Cannot read command file ".toList ++ path

def causes : WatchError → List Text
  | snapshotFailed _ cause => cause.texts
  | initFailed _ | pathWatchFailed _ _ => []

end WatchError

end Watch

end FileClerk
