import FileClerk.Text.Escaped
import FileClerk.Toml.Blank

/-!
# Quoted strings of a document

A string is written in one of four forms: between double quotes with escapes, between single quotes
without, and either of them between tripled quotes, where it may run over several lines. A line end
right after tripled quotes does not belong to the string, each other one counts as a line feed, and
a backslash at the end of a line swallows the white space up to the next thing written. One or two
quotes more may stand right before the tripled quotes at the end.
-/

namespace FileClerk

namespace Toml

/-- The characters that may stand between single quotes. -/
def isLiteral (c : Char) : Bool := Escaped.isPlain c && c != '\''

/-- Reads up to a closing single quote. -/
def literal? (s : Text) : Option (Text × Text) :=
  match s.dropWhile isLiteral with
  | '\'' :: rest => some (s.takeWhile isLiteral, rest)
  | _ => none

/-- The text after the tripled quotes that end a string, with the quotes that still belong to it. -/
def closing? (quote : Char) (s : Text) : Option (Text × Text) :=
  let quotes := (s.take 5).takeWhile (· == quote)
  if 3 ≤ quotes.length then some (quotes.drop 3, s.drop quotes.length) else none

/-- The text after a line end right behind tripled quotes. -/
def skipFirstLineEnd (s : Text) : Text := (lineEnd? s).getD s

/-- The text without the spaces and line ends it begins with. -/
def skipWhite : Text → Text
  | [] => []
  | c :: s =>
    if isSpace c ∨ c = '\n' ∨ c = '\r' ∧ s.head? = some '\n' then skipWhite s else c :: s

/-- The text after a line end hidden by a backslash and the blank lines below it. -/
def skipHidden? (s : Text) : Option Text := (lineEnd? (skipSpaces s)).map skipWhite

/-- Reads up to tripled single quotes, in at most so many steps. -/
def longLiteralUpTo : Nat → Text → Option (Text × Text)
  | 0, _ => none
  | n + 1, s =>
    match closing? '\'' s with
    | some done => some done
    | none =>
      match lineEnd? s, s with
      | some s, _ => (longLiteralUpTo n s).map fun r => ('\n' :: r.1, r.2)
      | none, [] => none
      | none, c :: s =>
        if Escaped.isPlain c then (longLiteralUpTo n s).map fun r => (c :: r.1, r.2) else none

/-- Reads up to tripled double quotes, in at most so many steps. -/
def longBasicUpTo : Nat → Text → Option (Text × Text)
  | 0, _ => none
  | n + 1, s =>
    match closing? '"' s with
    | some done => some done
    | none =>
      match lineEnd? s, s with
      | some s, _ => (longBasicUpTo n s).map fun r => ('\n' :: r.1, r.2)
      | none, [] => none
      | none, c :: s =>
        if c = '\\' then
          match skipHidden? s with
          | some s => longBasicUpTo n s
          | none => do
            let (d, s) ← Escaped.escape? s
            let (text, s) ← longBasicUpTo n s
            some (d :: text, s)
        else if Escaped.isPlain c then (longBasicUpTo n s).map fun r => (c :: r.1, r.2)
        else none

/-- Reads a string in any of its forms, from its opening quotes on. -/
def string? : Text → Option (Text × Text)
  | '"' :: '"' :: '"' :: s => longBasicUpTo (s.length + 1) (skipFirstLineEnd s)
  | '"' :: s => Escaped.read? s
  | '\'' :: '\'' :: '\'' :: s => longLiteralUpTo (s.length + 1) (skipFirstLineEnd s)
  | '\'' :: s => literal? s
  | _ => none

end Toml

end FileClerk
