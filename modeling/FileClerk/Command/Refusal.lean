import FileClerk.Text.Quoted

/-!
# Refused commands

Why a text is no command, together with the text.
-/

namespace FileClerk

namespace Refusal

inductive Reason where
  | empty
  | unknown
  | malformedRename
  | malformedCopy
  | malformedAppend
  deriving DecidableEq, Repr

namespace Reason

def message : Reason → Text
  | empty => "command is empty".toList
  | unknown => "unknown command".toList
  | malformedRename =>
    "malformed rename, expected `rename the file <old> to <new>`".toList
  | malformedCopy => "malformed copy, expected `copy the file <src> to <dest>`".toList
  | malformedAppend =>
    "malformed append, expected `add to the file <path> this content: <text>`".toList

/-- The verb was known but what followed it was not. -/
def isMalformed : Reason → Bool
  | empty | unknown => false
  | malformedRename | malformedCopy | malformedAppend => true

end Reason

end Refusal

structure Refusal where
  input : Text
  reason : Refusal.Reason
  deriving DecidableEq, Repr

namespace Refusal

def message (r : Refusal) : Text := r.reason.message ++ ": ".toList ++ r.input.quoted

end Refusal

end FileClerk
