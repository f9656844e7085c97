import FileClerk.Text.Blank
import FileClerk.Text.Escaped

/-!
# Reading patterns piece by piece

A pattern describes texts: most characters stand for themselves, and the others say which characters
may stand somewhere, how often, and in which order. No pattern is ever matched here. What is asked
is only whether it could be, so a reader keeps no more than that depends on: the modes in which it
reads, the names of the groups, and whether the pattern asks for an edge of words.

This module holds the reader and the smallest pieces of a pattern, single characters and escapes.
-/

namespace FileClerk

namespace Pattern

/-- How a pattern is to be understood; flags in it change that. -/
structure Modes where
  /-- Capitals and small letters are alike. -/
  caseless : Bool
  /-- A character is one of Unicode, and not an octet. -/
  unicode : Bool
  /-- White space and comments between the pieces mean nothing. -/
  spaced : Bool
  deriving DecidableEq, Repr

/-- The modes at the start of a pattern. -/
def Modes.initial : Modes := ⟨false, true, false⟩

/-- Where a reader is, and what it has seen so far. -/
structure State where
  rest : Text
  modes : Modes
  /-- The names of groups. -/
  names : List Text
  /-- An edge of words of Unicode has been asked for. -/
  wordEdge : Bool

abbrev Reader := StateT State Option

def require (condition : Bool) : Reader Unit := if condition then pure () else failure

/-- The next character, if there is one. -/
def peek? : Reader (Option Char) := do return (← get).rest.head?

/-- Reads the next character. -/
def take : Reader Char := do
  match (← get).rest with
  | [] => failure
  | c :: rest =>
    modify fun s => { s with rest := rest }
    return c

/-- Passes over a text, if it comes next, and tells whether it did. -/
def passIf (text : String) : Reader Bool := do
  match text.toList.isPrefixOf? (← get).rest with
  | none => return false
  | some rest =>
    modify fun s => { s with rest := rest }
    return true

/-- A text from the first character that is neither white space nor part of a comment. -/
def afterSpace (inComment : Bool) : Text → Text
  | [] => []
  | c :: s =>
    if inComment then afterSpace (c != '\n') s
    else if isBlank c then afterSpace false s
    else if c = '#' then afterSpace true s
    else c :: s

/-- Passes over white space and comments, if they mean nothing. -/
def skipSpace : Reader Unit :=
  modify fun s => if s.modes.spaced then { s with rest := afterSpace false s.rest } else s

/-- What stands for one character or for a place between two. -/
inductive Piece where
  /-- One character, perhaps written as an octet. -/
  | character (c : Char) (octet : Bool)
  /-- The digits, the white space or the characters of words, or all others. -/
  | sort (negated : Bool)
  /-- The start or the end of a line or of the text. -/
  | edge
  | wordEdge
  deriving DecidableEq, Repr

/-- The control character that a letter stands for after a backslash. -/
def control? : Char → Option Char
  | 'a' => some '\x07'
  | 'f' => some '\x0c'
  | 't' => some '\t'
  | 'n' => some '\n'
  | 'r' => some '\r'
  | 'v' => some '\x0b'
  | _ => none

/-- Reads so many digits, with space before each. -/
def digits : Nat → Reader Text
  | 0 => pure []
  | n + 1 => do
    skipSpace
    let c ← take
    return c :: (← digits n)

/-- Reads a character by its code point in exactly so many hexadecimal digits. -/
def numbered (count : Nat) : Reader Piece := do
  let code ← digits count
  skipSpace
  match Escaped.codePoint? code with
  | some c => return .character c (count == 2)
  | none => failure

/-- Reads what follows a backslash. Classes by a property of Unicode are not provided. -/
def escape : Reader Piece := do
  let c ← take
  if c = 'x' then numbered 2
  else if c = 'u' then numbered 4
  else if c = 'U' then numbered 8
  else if "dsw".toList.contains c then return .sort false
  else if "DSW".toList.contains c then return .sort true
  else if "Az".toList.contains c then return .edge
  else if "bB<>".toList.contains c then return .wordEdge
  else
    match control? c with
    | some d => return .character d false
    | none =>
      require (c.toNat < 0x80 && !c.isAlphanum)
      return .character c false

/-- Reads a character that may be written as an escape. -/
def escapable : Reader Piece := do
  let c ← take
  if c = '\\' then escape else return .character c false

end Pattern

end FileClerk
