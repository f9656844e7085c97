import FileClerk.Text.Basic

/-!
# Blank, control and noise characters

Three classes of characters around a command. A blank is any Unicode white space and is what
separates words and pads paths. A control character is U+0000 to U+001F or U+007F to U+009F.
Noise is either of them or a byte order mark, and is what an editor may leave around a command.
-/

namespace FileClerk

/-- The characters with the Unicode property White_Space. -/
def isBlank (c : Char) : Bool :=
  let n := c.toNat
  (0x9 ≤ n && n ≤ 0xD) || n == 0x20 || n == 0x85 || n == 0xA0 || n == 0x1680
    || (0x2000 ≤ n && n ≤ 0x200A) || n == 0x2028 || n == 0x2029 || n == 0x202F || n == 0x205F
    || n == 0x3000

/-- The characters of the general category Cc. -/
def isControl (c : Char) : Bool :=
  let n := c.toNat
  n ≤ 0x1F || (0x7F ≤ n && n ≤ 0x9F)

def byteOrderMark : Char := '\ufeff'

def isNoise (c : Char) : Bool := isBlank c || isControl c || c == byteOrderMark

theorem isNoise_of_isBlank {c : Char} (h : isBlank c = true) : isNoise c = true := by
  simp [isNoise, h]

namespace Text

/-- A text without the white space around it. -/
def trim (s : Text) : Text := trimBoth isBlank s

/-- A text without the byte order mark in front. -/
def dropMark : Text → Text
  | [] => []
  | c :: s => if c = byteOrderMark then s else c :: s

/-- Writes each carriage return followed by a line feed as a line feed alone. -/
def foldNewlines : Text → Text
  | [] => []
  | c :: s => if c = '\r' ∧ s.head? = some '\n' then foldNewlines s else c :: foldNewlines s

theorem foldNewlines_crlf (s : Text) :
    foldNewlines ('\r' :: '\n' :: s) = '\n' :: foldNewlines s := by
  simp [foldNewlines]

end Text

end FileClerk
