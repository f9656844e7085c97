import FileClerk.Toml.Quote
import FileClerk.Toml.Scalar
import FileClerk.Toml.Table

/-!
# Values of a document

A value is a string, a number, a time, a truth value, an array or a table written on one line.
Arrays may run over several lines and have comments in them. Values may stand inside others only so
deep, and a key may have only so many parts.
-/

namespace FileClerk

namespace Toml

/-- How deep arrays and tables may stand inside each other, and how many parts a key may have. -/
def depthLimit : Nat := 79

def isBareKey (c : Char) : Bool := c.isAlphanum || c == '-' || c == '_'

/-- Reads one part of a key. -/
def keyPart? (s : Text) : Option (Text × Text) :=
  match s with
  | '"' :: rest => Escaped.read? rest
  | '\'' :: rest => literal? rest
  | s =>
    let key := s.takeWhile isBareKey
    if key = [] then none else some (key, s.drop key.length)

/-- Reads a key of at most so many parts, with dots between them and spaces around each. -/
def keyUpTo : Nat → Text → Option (List Text × Text)
  | 0, _ => none
  | n + 1, s => do
    let (part, s) ← keyPart? (skipSpaces s)
    match skipSpaces s with
    | '.' :: s => do
      let (parts, s) ← keyUpTo n s
      some (part :: parts, s)
    | s => some ([part], s)

def key? : Text → Option (List Text × Text) := keyUpTo depthLimit

section Inner

variable (value? : Text → Option (Datum × Text))

/-- Reads the items of an array up to its end, at most so many. -/
def itemsUpTo : Nat → Text → Option (List Datum × Text)
  | 0, _ => none
  | n + 1, s => do
    match ← skipLines? false s with
    | ']' :: s => some ([], s)
    | s => do
      let (item, s) ← value? s
      match ← skipLines? false s with
      | ',' :: s => do
        let (items, s) ← itemsUpTo n s
        some (item :: items, s)
      | ']' :: s => some ([item], s)
      | _ => none

/-- Reads a key and its value. -/
def assignment? (s : Text) : Option ((List Text × Datum) × Text) := do
  let (key, s) ← key? s
  let (value, s) ← value? (skipSpaces (← mark? '=' s))
  some ((key, value), s)

/-- Reads the entries of a table up to its end, at least one and at most so many. -/
def entriesUpTo : Nat → Text → Option (List (List Text × Datum) × Text)
  | 0, _ => none
  | n + 1, s => do
    let (entry, s) ← assignment? value? s
    match skipSpaces s with
    | ',' :: s => do
      let (entries, s) ← entriesUpTo n s
      some (entry :: entries, s)
    | '\x7d' :: s => some ([entry], s)
    | _ => none

/-- Reads a table on one line after its opening brace. -/
def inlineTable? (s : Text) : Option (Datum × Text) :=
  match skipSpaces s with
  | '\x7d' :: s => some (Table.datum (.empty .spelled), s)
  | _ => do
    let (entries, s) ← entriesUpTo value? s.length s
    let t ← entries.foldlM (fun (t : Table) e => t.assign e.1 e.2) (.empty .spelled)
    some (t.datum, s)

end Inner

/-- Reads a value in which arrays and tables stand at most so deep. -/
def valueUpTo : Nat → Text → Option (Datum × Text)
  | depth, s =>
    match s with
    | [] => none
    | c :: rest =>
      if c = '"' ∨ c = '\'' then (string? s).map fun r => (.text r.1, r.2)
      else if c = '[' then
        match depth with
        | 0 => none
        | depth + 1 =>
          (itemsUpTo (valueUpTo depth) (rest.length + 1) rest).map fun r => (.sequence r.1, r.2)
      else if c = '\x7b' then
        match depth with
        | 0 => none
        | depth + 1 => inlineTable? (valueUpTo depth) rest
      else
        match s with
        | 't' :: 'r' :: 'u' :: 'e' :: s => some (.bool true, s)
        | 'f' :: 'a' :: 'l' :: 's' :: 'e' :: s => some (.bool false, s)
        | s => scalar? s

def value? : Text → Option (Datum × Text) := valueUpTo depthLimit

end Toml

end FileClerk
