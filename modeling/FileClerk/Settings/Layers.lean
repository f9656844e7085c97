import FileClerk.Settings.Reading
import FileClerk.Settings.Variable

/-!
# Layers of settings

What the environment says lies over what the file says, and both over the defaults. In the document
of a file a table inside another may carry a value instead of being one: it then stands for that
value. No such table may have an identity of its own.
-/

namespace FileClerk

namespace Settings

/-- The name under which a table carries the value it stands for. -/
def carriedKey : Text := "___figment_value_value".toList

/-- The name under which a table would have an identity. -/
def identityKey : Text := "___figment_value_id".toList

mutual

/-- A datum with the values that tables carry in place of the tables. -/
def carried? : Datum → Option Datum
  | .map entries =>
    match carriedEntries? entries with
    | none => none
    | some entries =>
      if (Keyed.get? identityKey entries).isSome then none
      else some ((Keyed.get? carriedKey entries).getD (.map entries))
  | .sequence items => (carriedItems? items).map .sequence
  | d => some d

def carriedEntries? : List (Text × Datum) → Option (List (Text × Datum))
  | [] => some []
  | (key, value) :: rest => do
    let value ← carried? value
    let rest ← carriedEntries? rest
    some ((key, value) :: rest)

def carriedItems? : List Datum → Option (List Datum)
  | [] => some []
  | item :: rest => do
    let item ← carried? item
    let rest ← carriedItems? rest
    some (item :: rest)

end

/-- What a document says of the settings. -/
def ofDocument? : Datum → Option Datum
  | .map entries => (carriedEntries? entries).map .map
  | d => some d

/-- The settings that a document and the environment make together. -/
def ofLayers (document : Option Datum) (said : Datum) : Except Mistake Settings :=
  match (document.getD (.map [])).overlay said with
  | .map entries => ofEntries entries
  | _ => ofEntries []

end Settings

end FileClerk
