import FileClerk.Path.Location
import FileClerk.Text.Blank

/-!
# The sandbox

Commands may name only places at or below one directory, the root. `Sandbox.resolve` reads a path
as a user writes it, padded and relative to the root, and refuses one that leads elsewhere. It looks
at names alone: a path that leaves the root and comes back is fine, and a directory whose name
merely begins like the root's is not.
-/

namespace FileClerk

structure Sandbox where
  root : Location
  deriving DecidableEq, Repr

/-- Why a path was refused. -/
inductive PathError where
  | empty
  | escapes (place root : Location)
  deriving DecidableEq, Repr

namespace PathError

def message : PathError → Text
  | empty => "path is empty".toList
  | escapes place root =>
    "path ".toList ++ place.text ++ " escapes the sandbox root ".toList ++ root.text

end PathError

namespace Sandbox

/-- The sandbox at a root, which may be written relative to the working directory. -/
def ofRoot (workingDirectory root : Text) : Sandbox :=
  ⟨Location.ofText (Path.join workingDirectory root)⟩

def resolve (box : Sandbox) (raw : Text) : Except PathError Location :=
  let path := Text.trim raw
  if path = [] then .error .empty
  else
    let place := Location.ofText (Path.join box.root.text path)
    if place.isWithin box.root then .ok place else .error (.escapes place box.root)

end Sandbox

end FileClerk
