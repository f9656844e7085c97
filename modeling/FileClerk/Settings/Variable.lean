import FileClerk.Action
import FileClerk.Datum
import FileClerk.Number.Numeral
import FileClerk.Text.Blank
import FileClerk.Text.Escaped
import FileClerk.Text.Lower

/-!
# Settings from the environment

A variable whose name begins with `CMDWATCH_` speaks of a setting: what follows is its name, in
small letters, with two underscores for each dot. Its value is read as a truth value, a number, a
quoted text, an array or a map if all of it has that form, and is a text otherwise.

Of a quoted text with escapes in it, the part before the first escape is measured in characters and
then cut to as many octets. A cut that goes through a character crashes the program.
-/

namespace FileClerk

namespace Settings

/-- Why a value could not be read. -/
inductive Unread where
  /-- It does not have the form of a value. -/
  | malformed
  | crash (why : Crash)
  deriving DecidableEq, Repr

/-- White space that may stand around a value. -/
def isGap (c : Char) : Bool := c == ' ' || c == '\t' || c == '\n' || c == '\x0c' || c == '\r'

def skipGap (s : Text) : Text := s.dropWhile isGap

/-- The characters that end a word. -/
def endsWord (c : Char) : Bool :=
  c == ',' || c == '\x7b' || c == '\x7d' || c == '[' || c == ']'

def isNameChar (c : Char) : Bool := c.isAlphanum || c == '-' || c == '_'

/-- A word is a number if it reads as one; a fraction needs its point. -/
def ofWord (word : Text) : Datum :=
  let plain := match Numeral.unsigned64? word, Numeral.signed64? word with
    | some n, _ => .unsigned n
    | none, some n => .signed n
    | none, none => .text word
  if word.contains '.' then
    match Numeral.binary64? word with
    | some x => .float x
    | none => plain
  else plain

/-- Whether a quote closes a text, one that no backslash stands before. -/
def isClosed : Text → Bool
  | [] => false
  | '"' :: _ => true
  | '\\' :: _ :: s => isClosed s
  | _ :: s => isClosed s

/-- Reads a quoted text after its opening quote. -/
def quotation (s : Text) : Except Unread (Text × Text) :=
  let plain := s.takeWhile fun c => c != '"' && c != '\\'
  let rest := s.drop plain.length
  if isClosed s && plain.all Escaped.isPlain then
    match rest with
    | '"' :: rest => .ok (plain, rest)
    | rest =>
      match Text.splitAtOctet? plain plain.length, Escaped.read? rest with
      | none, _ => .error (.crash .cutCharacter)
      | some _, none => .error .malformed
      | some (kept, _), some (text, rest) => .ok (kept ++ text, rest)
  else .error .malformed

section Inner

variable (value : Text → Except Unread (Datum × Text))

/-- Reads the items of an array up to its end, at most so many. -/
def itemsUpTo : Nat → Text → Except Unread (List Datum × Text)
  | 0, _ => .error .malformed
  | _ + 1, ']' :: s => .ok ([], s)
  | n + 1, s => do
    let (item, s) ← value s
    match s with
    | ',' :: s => do
      let (items, s) ← itemsUpTo n s
      .ok (item :: items, s)
    | ']' :: s => .ok ([item], s)
    | _ => .error .malformed

/-- Reads the name of an entry. -/
def entryName (s : Text) : Except Unread (Text × Text) :=
  match s with
  | '"' :: s => quotation s
  | s =>
    let name := s.takeWhile isNameChar
    if name = [] then .error .malformed else .ok (name, s.drop name.length)

/-- Reads an entry of a map. -/
def entry (s : Text) : Except Unread ((Text × Datum) × Text) := do
  let (name, s) ← entryName (skipGap s)
  match skipGap s with
  | '=' :: s => do
    let (value, s) ← value s
    .ok ((name, value), s)
  | _ => .error .malformed

/-- Reads the entries of a map up to its end, at most so many. -/
def entriesUpTo : Nat → Text → Except Unread (List (Text × Datum) × Text)
  | 0, _ => .error .malformed
  | _ + 1, '\x7d' :: s => .ok ([], s)
  | n + 1, s => do
    let (first, s) ← entry value s
    match s with
    | ',' :: s => do
      let (entries, s) ← entriesUpTo n s
      .ok (first :: entries, s)
    | '\x7d' :: s => .ok ([first], s)
    | _ => .error .malformed

end Inner

/-- Entries in order; of two for one name the later one counts. -/
def mapOf (entries : List (Text × Datum)) : Datum :=
  .map (entries.foldl (fun (m : Keyed Datum) e => m.put e.1 e.2) [])

/-- Reads a value and the white space around it. -/
def valueUpTo : Nat → Text → Except Unread (Datum × Text)
  | 0, _ => .error .malformed
  | depth + 1, s => do
    let (value, s) ← match skipGap s with
      | 't' :: 'r' :: 'u' :: 'e' :: s => .ok (.bool true, s)
      | 'f' :: 'a' :: 'l' :: 's' :: 'e' :: s => .ok (.bool false, s)
      | '\x7b' :: s =>
        (entriesUpTo (valueUpTo depth) (s.length + 1) s).map fun r => (mapOf r.1, r.2)
      | '[' :: s =>
        (itemsUpTo (valueUpTo depth) (s.length + 1) s).map fun r => (.sequence r.1, r.2)
      | '"' :: s => (quotation s).map fun r => (.text r.1, r.2)
      | '\'' :: s =>
        match s with
        | c :: '\'' :: s => .ok (.text [c], s)
        | _ => .error .malformed
      | s =>
        let word := s.takeWhile fun c => !endsWord c
        .ok (ofWord (Text.trim word), s.drop word.length)
    .ok (value, skipGap s)

/-- What the value of a variable stands for. -/
def ofVariable (s : Text) : Except Crash Datum :=
  match valueUpTo (s.length + 1) s with
  | .ok (value, []) => .ok value
  | .error (.crash why) => .error why
  | _ => .ok (.text s)

/-- Replaces each two underscores by a dot. -/
def dotted : Text → Text
  | '_' :: '_' :: s => '.' :: dotted s
  | c :: s => c :: dotted s
  | [] => []

def variablePrefix : Text := "cmdwatch_".toList

/-- The path of names a variable speaks of; no name on it may be empty. -/
def pathOf? (name : Text) : Option (List Text) :=
  let name := name.trim
  if (name.take variablePrefix.length).map Char.toLower = variablePrefix then
    let setting := dotted (Text.lower (name.drop variablePrefix.length))
    let path := Text.pieces '.' setting.trim
    if path.contains [] then none else some path
  else none

/-- What the variables of an environment say, later ones laid over earlier ones. -/
def ofEnvironment (environment : List (Text × Text)) : Except Crash Datum :=
  environment.foldlM (fun (said : Datum) v =>
    match pathOf? v.1 with
    | some path => (ofVariable v.2).map fun d => said.overlay (.nest path d)
    | none => .ok said) (.map [])

end Settings

end FileClerk
