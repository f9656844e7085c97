import FileClerk.Disk.Call
import FileClerk.Path.Sandbox

/-!
# Outcomes

What came of an operation: it was done, there was nothing to do, or it failed. A failure says what
was attempted, and where; only a failed call has further causes.
-/

namespace FileClerk

/-- What a call was made for. -/
inductive Attempt where
  | check
  | createDirectories
  | create
  | delete
  | rename
  | append
  | read
  | copy
  | inspect
  | list
  deriving DecidableEq, Repr

def Attempt.words : Attempt → Text
  | check => "check".toList
  | createDirectories => "create directories for".toList
  | create => "create".toList
  | delete => "delete".toList
  | rename => "rename".toList
  | append => "append to".toList
  | read => "read".toList
  | copy => "copy".toList
  | inspect => "inspect".toList
  | list => "list".toList

inductive Failure where
  | path (error : PathError)
  | notFound (place : Location)
  | notADirectory (place : Location)
  | call (attempt : Attempt) (place : Location) (error : IoError)
  deriving DecidableEq, Repr

namespace Failure

def message : Failure → Text
  | path error => error.message
  | notFound place => place.text ++ " does not exist".toList
  | notADirectory place => place.text ++ " is not a directory".toList
  | call attempt place _ => "could not ".toList ++ attempt.words ++ [' '] ++ place.text

/-- The texts of the errors behind a failure, nearest first. -/
def causes : Failure → List Text
  | call _ _ error => error.texts
  | path _ | notFound _ | notADirectory _ => []

end Failure

inductive Outcome where
  | success (message : Text)
  | skipped (message : Text)
  | failed (failure : Failure)
  deriving DecidableEq, Repr

namespace Outcome

def isSuccess : Outcome → Bool
  | success _ => true
  | _ => false

def isFailure : Outcome → Bool
  | failed _ => true
  | _ => false

end Outcome

end FileClerk
