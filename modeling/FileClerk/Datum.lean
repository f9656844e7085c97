import FileClerk.Keyed
import FileClerk.Number.Binary64
import FileClerk.Text.Quoted

/-!
# Data as they are read

A datum is what a settings file or a variable holds before anything is known of its meaning. Whole
numbers keep the sort they were read as. Laying one datum over another keeps whatever the upper one
does not mention: maps are joined name by name, and all else is replaced.
-/

namespace FileClerk

inductive Datum where
  | bool (b : Bool)
  | signed (n : Int)
  | unsigned (n : Nat)
  | float (x : Binary64)
  | text (s : Text)
  | sequence (items : List Datum)
  | map (entries : List (Text × Datum))
  deriving Repr

namespace Datum

mutual

/-- The lower datum with the upper one laid over it. -/
def overlay (lower : Datum) : Datum → Datum
  | map entries =>
    match lower with
    | map below => map (overlayEntries below entries)
    | _ => map entries
  | upper => upper

/-- Lays entries over others, one after the other. -/
def overlayEntries (below : List (Text × Datum)) : List (Text × Datum) → List (Text × Datum)
  | [] => below
  | (key, value) :: rest =>
    let value := match Keyed.get? key below with
      | some lower => overlay lower value
      | none => value
    overlayEntries (Keyed.put key value below) rest

end

/-- A datum inside maps, one for each name of a path. -/
def nest : List Text → Datum → Datum
  | [], value => value
  | key :: path, value => map [(key, nest path value)]

/-- How a datum is named in a message. -/
def description : Datum → Text
  | bool b => "bool ".toList ++ (if b then "true" else "false").toList
  | signed n => "signed int ".toList ++ ticked (Text.ofInt n)
  | unsigned n => "unsigned int ".toList ++ ticked (Text.ofNat n)
  | float x => "float ".toList ++ ticked x.text
  | text s => "string ".toList ++ s.quoted
  | sequence _ => "sequence".toList
  | map _ => "map".toList
where
  ticked (s : Text) : Text := '\x60' :: s ++ ['\x60']

end Datum

end FileClerk
