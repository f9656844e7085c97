import FileClerk.Text.Basic

/-!
# Paths as written

A path is a text whose segments stand between slashes. Reading one never looks at a disk: empty
segments and `.` say nothing, and `..` takes back the segment before it. At the top of an absolute
path there is nothing to take back; at the front of a relative one `..` stays.

`normalize` writes the segments that are left, so two spellings of one place have one form.
-/

namespace FileClerk

namespace Path

def isAbsolute (path : Text) : Bool := path.head? == some '/'

def here : Text := ['.']

def above : Text := ['.', '.']

/-- Reads one piece of a path after the segments read so far, the last of them first. -/
def descend (absolute : Bool) (read : List Text) (piece : Text) : List Text :=
  if piece = [] ∨ piece = here then read
  else if piece = above then
    match read with
    | [] => if absolute then [] else [above]
    | last :: before => if last = above then above :: read else before
  else piece :: read

/-- The segments that name the place a path leads to. -/
def segments (path : Text) : List Text :=
  ((Text.pieces '/' path).foldl (descend (isAbsolute path)) []).reverse

def render (absolute : Bool) (segments : List Text) : Text :=
  (if absolute then ['/'] else []) ++ Text.joinWith ['/'] segments

/-- The path without empty segments, without `.`, and with each `..` carried out as far as the
text alone allows. -/
def normalize (path : Text) : Text := render (isAbsolute path) (segments path)

/-- A path read from a base: an absolute path stands for itself. -/
def join (base path : Text) : Text :=
  if isAbsolute path ∨ base = [] then path
  else if base.getLast? = some '/' then base ++ path
  else base ++ '/' :: path

end Path

end FileClerk
