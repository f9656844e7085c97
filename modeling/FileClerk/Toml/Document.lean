import FileClerk.Text.Blank
import FileClerk.Toml.Value

/-!
# Documents

A document has an entry or a header on each line. Entries before the first header belong to the
table at the top; the others belong to the table, or the new element of an array of tables, that the
header above them names. `document?` reads a whole text to the map it stands for.
-/

namespace FileClerk

namespace Toml

/-- A line that says something. -/
inductive Line where
  | entry (key : List Text) (value : Datum)
  | table (path : List Text)
  | element (path : List Text)

/-- Reads a key between brackets. -/
def header? (build : List Text → Line) (closing : Text) (s : Text) : Option (Line × Text) := do
  let (path, s) ← key? s
  some (build path, ← closing.isPrefixOf? s)

/-- Reads what a line says. -/
def line? : Text → Option (Line × Text)
  | '[' :: '[' :: s => header? .element [']', ']'] s
  | '[' :: s => header? .table [']'] s
  | s => (assignment? value? s).map fun r => (.entry r.1.1 r.1.2, r.2)

/-- Reads the lines of a document, at most so many. -/
def linesUpTo : Nat → Text → Option (List Line)
  | 0, _ => none
  | n + 1, s =>
    match skipSpaces s with
    | [] => some []
    | s =>
      match finishLine? s with
      | some rest => linesUpTo n rest
      | none => do
        let (line, s) ← line? s
        let lines ← linesUpTo n (← finishLine? s)
        some (line :: lines)

/-- The entries up to the next header, and the lines from it on. -/
def leadingEntries : List Line → List (List Text × Datum) × List Line
  | .entry key value :: lines =>
    let (entries, rest) := leadingEntries lines
    ((key, value) :: entries, rest)
  | lines => ([], lines)

/-- Puts entries into a table. -/
def fill (lines : List Line) (t : Table) : Option Table :=
  (leadingEntries lines).1.foldlM (fun (t : Table) e => t.assign e.1 e.2) t

/-- Puts all that stands below headers into the table at the top. -/
def addSections : List Line → Table → Option Table
  | [], top => some top
  | .entry _ _ :: lines, top => addSections lines top
  | .table path :: lines, top => do
    let name ← path.getLast?
    addSections lines (← top.within path.dropLast fun t => t.openTable name (fill lines))
  | .element path :: lines, top => do
    let name ← path.getLast?
    addSections lines (← top.within path.dropLast fun t => t.openElement name (fill lines))

/-- Reads a document to the map it stands for. -/
def document? (s : Text) : Option Datum := do
  let s := s.dropMark
  let lines ← linesUpTo (s.length + 1) s
  let top ← fill lines (.empty .spelled)
  some (← addSections lines top).datum

end Toml

end FileClerk
