import FileClerk.Text.Basic

/-!
# Operations

What a command asks for: one of eight actions on files, with its paths as they were written.
`Operation.text` writes an operation as a command.
-/

namespace FileClerk

inductive Operation where
  | create (path : Text)
  | delete (path : Text)
  | rename (old new : Text)
  | append (path content : Text)
  | read (path : Text)
  | copy (source target : Text)
  | list (path : Text)
  | info (path : Text)
  deriving DecidableEq, Repr

namespace Operation

/-- The one word that log lines use. -/
def name : Operation → Text
  | create _ => "create".toList
  | delete _ => "delete".toList
  | rename _ _ => "rename".toList
  | append _ _ => "append".toList
  | read _ => "read".toList
  | copy _ _ => "copy".toList
  | list _ => "list".toList
  | info _ => "info".toList

def text : Operation → Text
  | create path => "create a file ".toList ++ path
  | delete path => "delete the file ".toList ++ path
  | rename old new => "rename the file ".toList ++ old ++ " to ".toList ++ new
  | append path content =>
    "add to the file ".toList ++ path ++ " this content: ".toList ++ content
  | read path => "read the file ".toList ++ path
  | copy source target => "copy the file ".toList ++ source ++ " to ".toList ++ target
  | list path => "list the directory ".toList ++ path
  | info path => "file info ".toList ++ path

end Operation

end FileClerk
