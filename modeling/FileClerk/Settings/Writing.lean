import FileClerk.Settings.Basic
import FileClerk.Text.Escaped

/-!
# Writing settings

Settings are written as a document that can be read again. A text is written in the form that needs
the fewest escapes: between double quotes if nothing has to be escaped, between single quotes or
tripled quotes if that helps, and with escapes if nothing else does. A name is bare if it can be.
-/

namespace FileClerk

namespace Settings

/-- The characters that no form of a text but the escaped one can hold. -/
def mustEscape (c : Char) : Bool := !Escaped.isPlain c && c != '\n'

/-- How many of a character stand in a row at most. -/
def longestRun (c : Char) (s : Text) : Nat := (s.foldl count (0, 0)).2
where
  count (run : Nat × Nat) (d : Char) : Nat × Nat :=
    if d = c then (run.1 + 1, max run.2 (run.1 + 1)) else (0, run.2)

/-- Four hexadecimal digits in capitals. -/
def hex4 (n : Nat) : Text :=
  let digits := (Nat.toDigits 16 n).map Char.toUpper
  List.replicate (4 - digits.length) '0' ++ digits

/-- How a character is written where escapes are read. -/
def escapedChar (c : Char) : Text :=
  if c = '\x08' then ['\\', 'b']
  else if c = '\t' then ['\\', 't']
  else if c = '\n' then ['\\', 'n']
  else if c = '\x0c' then ['\\', 'f']
  else if c = '\r' then ['\\', 'r']
  else if c = '"' then ['\\', '"']
  else if c = '\\' then ['\\', '\\']
  else if Escaped.isPlain c then [c]
  else '\\' :: 'u' :: hex4 c.toNat

/-- Escaped text over several lines: line feeds stand for themselves, and of quotes in a row each
third is escaped. -/
def escapedLines : Nat → Text → Text
  | _, [] => []
  | quotes, c :: s =>
    if c = '\n' then '\n' :: escapedLines 0 s
    else if c = '"' then
      if quotes = 2 then '\\' :: '"' :: escapedLines 0 s else '"' :: escapedLines (quotes + 1) s
    else escapedChar c ++ escapedLines 0 s

def basic (s : Text) : Text := '"' :: s.flatMap escapedChar ++ ['"']

def literal (s : Text) : Text := '\'' :: s ++ ['\'']

/-- Text between tripled quotes; one with several lines begins on a line of its own. -/
def tripled (quote : Char) (several : Bool) (content : Text) : Text :=
  let quotes := [quote, quote, quote]
  quotes ++ (if several then ['\n'] else []) ++ content ++ quotes

/-- A text as a value. -/
def quotedValue (s : Text) : Text :=
  let plain := !s.any mustEscape
  let several := s.contains '\n'
  let backslash := s.contains '\\'
  if plain && !several && !backslash && !s.contains '"' then basic s
  else if plain && !several && !s.contains '\'' then literal s
  else if plain && !backslash && longestRun '"' s ≤ 2 then tripled '"' several (escapedLines 0 s)
  else if plain && longestRun '\'' s ≤ 2 then tripled '\'' several s
  else if several then tripled '"' several (escapedLines 0 s)
  else basic s

def isBare (c : Char) : Bool := c.isAlphanum || c == '-' || c == '_'

/-- A text as a name. -/
def quotedName (s : Text) : Text :=
  let plain := !s.any mustEscape && !s.contains '\n'
  if s ≠ [] ∧ s.all isBare then s
  else if plain && !s.contains '\\' && !s.contains '"' then basic s
  else if plain && !s.contains '\'' then literal s
  else basic s

/-- A line that gives a setting. -/
def entryLine (name value : Text) : Text := name ++ " = ".toList ++ value ++ ['\n']

def numberLine (name : String) (n : Nat) : Text := entryLine name.toList (Text.ofNat n)

def textLine (name : String) (s : Text) : Text := entryLine name.toList (quotedValue s)

def headerLine (name : String) : Text := '\n' :: '[' :: name.toList ++ [']', '\n']

/-- The document that settings are written as. -/
def document (settings : Settings) : Text :=
  numberLine "version" settings.version.toNat ++
  textLine "command_file" settings.commandFile ++
  (settings.sandboxRoot.map (textLine "sandbox_root")).getD [] ++
  headerLine "watch" ++
  numberLine "settle_ms" settings.watching.settle.toNat ++
  numberLine "channel_capacity" settings.watching.capacity.toNat ++
  headerLine "logging" ++
  textLine "default" settings.logging.level ++
  headerLine "logging.modules" ++
  settings.logging.modules.entries.flatMap fun e => entryLine (quotedName e.1) (quotedValue e.2)

end Settings

end FileClerk
