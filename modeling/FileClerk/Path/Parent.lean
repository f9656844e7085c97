import FileClerk.Path.Lexical

/-!
# The parent and the name of a path as written

Taking the last segment off a path keeps the spelling of the rest. Slashes and `.` at the end of a
path are no segments, except for a `.` that the path begins with.
-/

namespace FileClerk

namespace Path

def isSlash (c : Char) : Bool := c == '/'

/-- The path without slashes and `.` segments at its end. A slash at the front stays, and so does
a `.` that is the whole path. The text is given and returned last character first. -/
def dropTrailing : Text → Text
  | [] => []
  | '/' :: before => if before = [] then ['/'] else dropTrailing before
  | ['.', '/'] => ['/']
  | '.' :: '/' :: before => dropTrailing before
  | reversed => reversed

/-- The last segment of a path, and what is written before it. -/
def splitLast? (path : Text) : Option (Text × Text) :=
  let reversed := dropTrailing path.reverse
  if reversed = [] ∨ reversed = ['/'] then none
  else
    let last := reversed.takeWhile fun c => !isSlash c
    some ((dropTrailing (reversed.drop last.length)).reverse, last.reverse)

/-- The path without its last segment; an absolute path that has none, and the empty path, have no
parent. -/
def parent? (path : Text) : Option Text := (splitLast? path).map (·.1)

/-- The path itself, its parent, and so on. -/
def ancestors (path : Text) : List Text := go path.length path
where
  go : Nat → Text → List Text
    | 0, path => [path]
    | n + 1, path =>
      match parent? path with
      | none => [path]
      | some before => path :: go n before

end Path

end FileClerk
