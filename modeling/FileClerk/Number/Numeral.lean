import FileClerk.Number.Binary64

/-!
# Numerals

Reading whole numbers and decimal fractions written in digits.
-/

namespace FileClerk

namespace Numeral

/-- The value of a digit, up to base 36. -/
def digitValue (c : Char) : Nat :=
  let n := c.toNat
  if 0x30 ≤ n ∧ n ≤ 0x39 then n - 0x30
  else if 0x61 ≤ n ∧ n ≤ 0x7A then n - 0x57
  else if 0x41 ≤ n ∧ n ≤ 0x5A then n - 0x37
  else 36

def isDigitIn (base : Nat) (c : Char) : Bool := digitValue c < base

def valueIn (base : Nat) (digits : Text) : Nat :=
  digits.foldl (fun n c => n * base + digitValue c) 0

/-- A whole number of at least one digit. -/
def nat? (s : Text) : Option Nat :=
  if s ≠ [] ∧ s.all (isDigitIn 10) then some (valueIn 10 s) else none

/-- A sign in front of a numeral, and the rest. -/
def sign : Text → Option Bool × Text
  | '+' :: s => (some false, s)
  | '-' :: s => (some true, s)
  | s => (none, s)

/-- The greatest number of 64 bits, without and with a sign. -/
def greatest64 : Nat := 0xFFFFFFFFFFFFFFFF

def greatestSigned64 : Nat := 0x7FFFFFFFFFFFFFFF

/-- A number of 64 bits without a sign, which may have a plus sign written in front. -/
def unsigned64? (s : Text) : Option Nat :=
  match sign s with
  | (some true, _) => none
  | (_, digits) => (nat? digits).filter (· ≤ greatest64)

/-- A number of 64 bits with a sign. -/
def signed64? (s : Text) : Option Int :=
  match sign s with
  | (some true, digits) => ((nat? digits).filter (· ≤ greatestSigned64 + 1)).map fun n => -(n : Int)
  | (_, digits) => ((nat? digits).filter (· ≤ greatestSigned64)).map fun n => (n : Int)

/-- An exponent after the letter that announces it; nothing at all stands for zero. -/
def exponent? : Text → Option Int
  | [] => some 0
  | c :: s =>
    if c = 'e' ∨ c = 'E' then
      match sign s with
      | (some true, digits) => (nat? digits).map fun n => -(n : Int)
      | (_, digits) => (nat? digits).map fun n => (n : Int)
    else none

/-- A number that has a name, in letters of either size. -/
def named? (negative : Bool) (s : Text) : Option Binary64 :=
  let name := s.map Char.toLower
  if name = "inf".toList ∨ name = "infinity".toList then some (.infinite negative)
  else if name = "nan".toList then some .notANumber
  else none

/-- Digits with a point among or beside them, and an exponent. -/
def decimal? (negative : Bool) (s : Text) : Option Binary64 := do
  let whole := s.takeWhile (isDigitIn 10)
  let s := s.drop whole.length
  let (fraction, s) := match s with
    | '.' :: t => (t.takeWhile (isDigitIn 10), t.dropWhile (isDigitIn 10))
    | t => ([], t)
  let power ← exponent? s
  if whole ++ fraction = [] then none
  else
    some (Binary64.ofDecimal negative (valueIn 10 (whole ++ fraction)) (power - fraction.length))

/-- A number that may have a fraction or no end: a sign, and a name or a decimal numeral. -/
def binary64? (s : Text) : Option Binary64 :=
  let (minus, s) := sign s
  (named? (minus.getD false) s).or (decimal? (minus.getD false) s)

end Numeral

end FileClerk
