import FileClerk.Text.Basic

/-!
# Blank stretches of a document

Between its parts a document has spaces and tabs, line ends, and comments from a hash to the end of
the line. A line ends with a line feed, which a carriage return may precede; a carriage return alone
is an error, and so is a control character in a comment.
-/

namespace FileClerk

namespace Toml

def isSpace (c : Char) : Bool := c == ' ' || c == '\t'

def skipSpaces (s : Text) : Text := s.dropWhile isSpace

def isCommentChar (c : Char) : Bool := c == '\t' || (0x20 ≤ c.toNat && c != '\x7f')

/-- The text after a line end. -/
def lineEnd? : Text → Option Text
  | '\n' :: s => some s
  | '\r' :: '\n' :: s => some s
  | _ => none

/-- The text without the comment it begins with, if it begins with one. -/
def skipComment (s : Text) : Text :=
  match s with
  | '#' :: s => s.dropWhile isCommentChar
  | s => s

/-- The text after the rest of a line, on which nothing more may stand. -/
def finishLine? (s : Text) : Option Text :=
  match skipComment (skipSpaces s) with
  | [] => some []
  | s => lineEnd? s

/-- Skips blank lines, and comments with their line ends. -/
def skipLines? (inComment : Bool) : Text → Option Text
  | [] => if inComment then none else some []
  | '\n' :: s => skipLines? false s
  | '\r' :: s =>
    match s with
    | '\n' :: s => skipLines? false s
    | _ => none
  | c :: s =>
    if inComment then if isCommentChar c then skipLines? true s else none
    else if isSpace c then skipLines? false s
    else if c = '#' then skipLines? true s
    else some (c :: s)

end Toml

end FileClerk
