import FileClerk.Datum

/-!
# Tables under construction

A document names the same table in several places, and not every way of naming it again is allowed.
So while a document is put together each table remembers how it came to be: it was spelled out, it
was passed through on the way to one that was, or dotted keys made it. `Table.assign` puts a value
where a dotted key says; `Table.within` goes down a path of headers.
-/

namespace FileClerk

namespace Toml

/-- How a table came to be. -/
inductive Origin where
  | spelled
  /-- Passed through on the way to another table. -/
  | passed
  /-- Made by dotted keys. -/
  | dotted
  deriving DecidableEq, Repr

/-- What stands under a key. Of an array of tables the last one is still open. -/
inductive Node where
  | value (d : Datum)
  | table (origin : Origin) (entries : List (Text × Node))
  | tables (earlier : List Datum) (last : List (Text × Node))

structure Table where
  origin : Origin
  entries : Keyed Node

namespace Node

mutual

/-- The datum a node has become when the document ends. -/
def datum : Node → Datum
  | value d => d
  | table _ entries => .map (entriesData entries)
  | tables earlier last => .sequence (earlier ++ [.map (entriesData last)])

def entriesData : List (Text × Node) → List (Text × Datum)
  | [] => []
  | (key, node) :: rest => (key, datum node) :: entriesData rest

end

end Node

namespace Table

def empty (origin : Origin) : Table := ⟨origin, []⟩

def datum (t : Table) : Datum := .map (Node.entriesData t.entries)

def put (t : Table) (key : Text) (node : Node) : Table :=
  { t with entries := t.entries.put key node }

/-- Changes the table under a key, or the last one of an array; where nothing is, a new table with
the origin given is changed. Only `mayEnter` origins may be entered. -/
def onChild (t : Table) (fresh : Origin) (mayEnter : Origin → Bool) (key : Text)
    (change : Table → Option Table) : Option Table :=
  match t.entries.get? key with
  | none => do
    let child ← change (.empty fresh)
    some (t.put key (.table child.origin child.entries))
  | some (.value _) => none
  | some (.table origin entries) => do
    if mayEnter origin then
      let child ← change ⟨origin, entries⟩
      some (t.put key (.table child.origin child.entries))
    else none
  | some (.tables earlier last) => do
    let child ← change ⟨.spelled, last⟩
    some (t.put key (.tables earlier child.entries))

/-- Puts a value under a key that is not taken. -/
def add (t : Table) (key : Text) (value : Datum) : Option Table :=
  match t.entries.get? key with
  | none => some (t.put key (.value value))
  | some _ => none

/-- Puts a value where a dotted key leads. The dots make tables of their own, and may not reach into
one that is spelled out elsewhere. -/
def assign (t : Table) : List Text → Datum → Option Table
  | [], _ => none
  | [key], value => t.add key value
  | key :: second :: path, value =>
    t.onChild .dotted (· != .spelled) key fun child =>
      if path = [] ∧ child.origin ≠ .dotted then none else child.assign (second :: path) value

/-- Goes down the tables of a path and changes the last. -/
def within (t : Table) : List Text → (Table → Option Table) → Option Table
  | [], change => change t
  | key :: path, change =>
    t.onChild .passed (fun _ => true) key fun child => child.within path change

/-- Spells out the table under a key. It may have been passed through before, and then keeps what it
has. -/
def openTable (t : Table) (key : Text) (fill : Table → Option Table) : Option Table := do
  let start ← match t.entries.get? key with
    | none => some []
    | some (.table .passed entries) => some entries
    | some _ => none
  let filled ← fill ⟨.spelled, start⟩
  some (t.put key (.table .spelled filled.entries))

/-- Adds a table to the array under a key. -/
def openElement (t : Table) (key : Text) (fill : Table → Option Table) : Option Table := do
  let earlier ← match t.entries.get? key with
    | none => some []
    | some (.tables earlier last) => some (earlier ++ [.map (Node.entriesData last)])
    | some _ => none
  let filled ← fill (.empty .spelled)
  some (t.put key (.tables earlier filled.entries))

end Table

end Toml

end FileClerk
