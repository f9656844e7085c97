import FileClerk.Text.Hidden
import FileClerk.Text.Basic

/-!
# Quoted text

A text between double quotes, on one line, with every character visible: quote and backslash are
escaped, a few controls have short names, and any other hidden character is written by its code
point in hexadecimal.
-/

namespace FileClerk

namespace Text

/-- How a character stands inside quotes. -/
def quotedChar (c : Char) : Text :=
  if c = '\x00' then ['\\', '0']
  else if c = '\t' then ['\\', 't']
  else if c = '\r' then ['\\', 'r']
  else if c = '\n' then ['\\', 'n']
  else if c = '"' then ['\\', '"']
  else if c = '\\' then ['\\', '\\']
  else if isHidden c then "\\u\x7b".toList ++ Nat.toDigits 16 c.toNat ++ ['\x7d']
  else [c]

def quoted (s : Text) : Text := '"' :: s.flatMap quotedChar ++ ['"']

end Text

end FileClerk
