import FileClerk.Text.Basic

/-!
# UTF-8

Writing a text as octets, and reading octets back. The reader goes octet by octet and gives, for
each character and for each malformed stretch, one entry: the character, or nothing. A malformed
stretch is as long as it could still have become a character, so one bad octet never hides the
good one after it.

`decode?` wants every entry to be a character; `decodeLossy` shows a malformed stretch as U+FFFD.
-/

namespace FileClerk

namespace Utf8

def encodeChar (c : Char) : Bytes :=
  let n := c.toNat
  if n < 0x80 then [n.toUInt8]
  else if n < 0x800 then [(0xC0 + n / 0x40).toUInt8, (0x80 + n % 0x40).toUInt8]
  else if n < 0x10000 then
    [(0xE0 + n / 0x1000).toUInt8, (0x80 + n / 0x40 % 0x40).toUInt8, (0x80 + n % 0x40).toUInt8]
  else
    [(0xF0 + n / 0x40000).toUInt8, (0x80 + n / 0x1000 % 0x40).toUInt8,
      (0x80 + n / 0x40 % 0x40).toUInt8, (0x80 + n % 0x40).toUInt8]

def encode (s : Text) : Bytes := s.flatMap encodeChar

/-- A character begun but not finished: its bits so far, the octets still owed, and the range the
next octet has to lie in. -/
structure Unfinished where
  bits : Nat
  owed : Nat
  low : Nat
  high : Nat

/-- What an octet means where a character may start. -/
inductive Lead where
  | single (c : Char)
  | opens (u : Unfinished)
  | stray

def lead (b : UInt8) : Lead :=
  let n := b.toNat
  if n < 0x80 then .single (Char.ofNat n)
  else if n < 0xC2 then .stray
  else if n < 0xE0 then .opens ⟨n - 0xC0, 1, 0x80, 0xBF⟩
  else if n = 0xE0 then .opens ⟨0, 2, 0xA0, 0xBF⟩
  else if n = 0xED then .opens ⟨0xD, 2, 0x80, 0x9F⟩
  else if n < 0xF0 then .opens ⟨n - 0xE0, 2, 0x80, 0xBF⟩
  else if n = 0xF0 then .opens ⟨0, 3, 0x90, 0xBF⟩
  else if n < 0xF4 then .opens ⟨n - 0xF0, 3, 0x80, 0xBF⟩
  else if n = 0xF4 then .opens ⟨4, 3, 0x80, 0x8F⟩
  else .stray

/-- One octet where a character may start: the entries it settles and the character it opens. -/
def start (b : UInt8) : List (Option Char) × Option Unfinished :=
  match lead b with
  | .single c => ([some c], none)
  | .opens u => ([], some u)
  | .stray => ([none], none)

/-- One octet in any state. An octet that does not continue the unfinished character ends it as
malformed and is read again as a start. -/
def step : Option Unfinished → UInt8 → List (Option Char) × Option Unfinished
  | none, b => start b
  | some u, b =>
    if u.low ≤ b.toNat ∧ b.toNat ≤ u.high then
      let bits := u.bits * 0x40 + (b.toNat - 0x80)
      if u.owed ≤ 1 then ([some (Char.ofNat bits)], none)
      else ([], some ⟨bits, u.owed - 1, 0x80, 0xBF⟩)
    else (none :: (start b).1, (start b).2)

/-- Reads octets from a state; a character left unfinished at the end is malformed. -/
def scan : Option Unfinished → Bytes → List (Option Char)
  | none, [] => []
  | some _, [] => [none]
  | state, b :: rest => (step state b).1 ++ scan (step state b).2 rest

/-- Shown in place of a malformed stretch. -/
def replacement : Char := '\ufffd'

def decodeLossy (bytes : Bytes) : Text := (scan none bytes).map (·.getD replacement)

/-- The text the octets spell, if they are well formed throughout. -/
def decode? (bytes : Bytes) : Option Text :=
  if (scan none bytes).all Option.isSome then some (decodeLossy bytes) else none

theorem encode_append (s t : Text) : encode (s ++ t) = encode s ++ encode t := by
  simp [encode]

end Utf8

end FileClerk
