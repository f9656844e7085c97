import FileClerk.Number.Numeral

/-!
# Escaped text

A text between double quotes in which a backslash begins an escape: a letter for a few controls,
`u` or `U` with the code point in four or eight hexadecimal digits, the backslash or the quote
itself. No other control character but the tab may stand in it.
-/

namespace FileClerk

namespace Escaped

/-- The characters that may stand for themselves in quoted text: no controls but the tab. -/
def isPlain (c : Char) : Bool := c == '\t' || (0x20 ≤ c.toNat && c != '\x7f')

/-- The character that a letter stands for after a backslash. -/
def letter? : Char → Option Char
  | 'b' => some '\x08'
  | 't' => some '\t'
  | 'n' => some '\n'
  | 'f' => some '\x0c'
  | 'r' => some '\r'
  | '"' => some '"'
  | '\\' => some '\\'
  | _ => none

/-- The character with a code point written in hexadecimal digits. -/
def codePoint? (digits : Text) : Option Char :=
  let n := Numeral.valueIn 16 digits
  if digits.all (Numeral.isDigitIn 16) ∧ n.isValidChar then some (Char.ofNat n) else none

/-- Reads a code point of exactly so many digits. -/
def numbered? (count : Nat) (s : Text) : Option (Char × Text) :=
  let digits := s.take count
  if digits.length = count then (codePoint? digits).map fun c => (c, s.drop count) else none

/-- Reads what follows a backslash: the character meant, and the rest. -/
def escape? : Text → Option (Char × Text)
  | 'u' :: s => numbered? 4 s
  | 'U' :: s => numbered? 8 s
  | c :: s => (letter? c).map fun d => (d, s)
  | [] => none

/-- Reads escaped text up to its closing quote, in at most so many steps. -/
def readUpTo : Nat → Text → Option (Text × Text)
  | 0, _ => none
  | _ + 1, [] => none
  | n + 1, c :: s =>
    if c = '"' then some ([], s)
    else if c = '\\' then do
      let (d, s) ← escape? s
      let (text, s) ← readUpTo n s
      some (d :: text, s)
    else if isPlain c then do
      let (text, s) ← readUpTo n s
      some (c :: text, s)
    else none

/-- Reads escaped text after its opening quote: the text, and what follows the closing one. -/
def read? (s : Text) : Option (Text × Text) := readUpTo s.length s

end Escaped

end FileClerk
