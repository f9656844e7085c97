import FileClerk.Datum
import FileClerk.Number.Numeral
import FileClerk.Toml.Blank

/-!
# Numbers and times of a document

Whole numbers have a sign and 64 bits, and may be written with base 16, 8 or 2; underscores may
stand between digits. A number with a fraction or an exponent is a float. A time of a calendar is
kept as its text, with at most nine digits of a second and no zeros at their end.
-/

namespace FileClerk

namespace Toml

def isDigit (c : Char) : Bool := Numeral.isDigitIn 10 c

/-- Reads digits of a base after the first, with single underscores between digits. -/
def moreDigits? (base : Nat) : Text → Option (Text × Text)
  | [] => some ([], [])
  | c :: s =>
    if c = '_' then
      match s with
      | [] => none
      | d :: s =>
        if Numeral.isDigitIn base d then (moreDigits? base s).map fun r => (d :: r.1, r.2) else none
    else if Numeral.isDigitIn base c then (moreDigits? base s).map fun r => (c :: r.1, r.2)
    else some ([], c :: s)

/-- Reads at least one digit of a base. -/
def digits? (base : Nat) : Text → Option (Text × Text)
  | [] => none
  | c :: s =>
    if Numeral.isDigitIn base c then (moreDigits? base s).map fun r => (c :: r.1, r.2) else none

/-- Reads digits of base ten; a zero in front stands alone. -/
def whole? : Text → Option (Text × Text)
  | '0' :: s => some (['0'], s)
  | s => digits? 10 s

/-- Reads an exponent, if one is there. -/
def exponent? : Text → Option (Option Int × Text)
  | [] => some (none, [])
  | c :: s =>
    if c = 'e' ∨ c = 'E' then do
      let (minus, s) := Numeral.sign s
      let (digits, s) ← digits? 10 s
      let n : Int := Numeral.valueIn 10 digits
      some (some (if minus = some true then -n else n), s)
    else some (none, c :: s)

/-- Reads a fraction, if one is there. -/
def fraction? : Text → Option (Option Text × Text)
  | '.' :: s => (digits? 10 s).map fun r => (some r.1, r.2)
  | s => some (none, s)

/-- A whole number that fits in 64 bits. -/
def integer? (negative : Bool) (n : Nat) : Option Datum :=
  if n ≤ Numeral.greatestSigned64 + (if negative then 1 else 0) then
    some (.signed (if negative then -n else n))
  else none

/-- The number of decimal digits with a fraction and an exponent; one too great is refused. -/
def float? (negative : Bool) (whole fraction : Text) (exponent : Int) : Option Datum :=
  let x := Binary64.ofDecimal negative (Numeral.valueIn 10 (whole ++ fraction))
    (exponent - fraction.length)
  if x = .infinite false then none else some (.float x)

/-- Reads a number in base ten after its sign. -/
def decimal? (negative : Bool) (s : Text) : Option (Datum × Text) := do
  let (whole, s) ← whole? s
  let (fraction, s) ← fraction? s
  let (exponent, s) ← exponent? s
  let value ←
    if fraction.isNone ∧ exponent.isNone then integer? negative (Numeral.valueIn 10 whole)
    else float? negative whole (fraction.getD []) (exponent.getD 0)
  some (value, s)

def based? (base : Nat) (s : Text) : Option (Datum × Text) := do
  let (digits, s) ← digits? base s
  some (← integer? false (Numeral.valueIn base digits), s)

/-- Reads a number. -/
def number? : Text → Option (Datum × Text)
  | '0' :: 'x' :: s => based? 16 s
  | '0' :: 'o' :: s => based? 8 s
  | '0' :: 'b' :: s => based? 2 s
  | s =>
    let (minus, s) := Numeral.sign s
    match s with
    | 'i' :: 'n' :: 'f' :: s => some (.float (.infinite (minus.getD false)), s)
    | 'n' :: 'a' :: 'n' :: s => some (.float .notANumber, s)
    | s => decimal? (minus.getD false) s

/-- Reads exactly so many digits, whose number lies in a range. -/
def field? (count low high : Nat) (s : Text) : Option (Nat × Text) :=
  let digits := s.take count
  let n := Numeral.valueIn 10 digits
  if digits.length = count ∧ digits.all isDigit ∧ low ≤ n ∧ n ≤ high then some (n, s.drop count)
  else none

/-- Reads one character. -/
def mark? (c : Char) : Text → Option Text
  | d :: s => if c = d then some s else none
  | [] => none

def isLeap (year : Nat) : Bool := year % 4 = 0 && (year % 100 != 0 || year % 400 = 0)

def daysIn (year month : Nat) : Nat :=
  if month = 2 then if isLeap year then 29 else 28
  else if month = 4 ∨ month = 6 ∨ month = 9 ∨ month = 11 then 30
  else 31

/-- Reads a date and gives its text. -/
def date? (s : Text) : Option (Text × Text) := do
  let (year, s) ← field? 4 0 9999 s
  let (month, s) ← field? 2 1 12 (← mark? '-' s)
  let (day, s) ← field? 2 1 (daysIn year month) (← mark? '-' s)
  some (Text.ofNatPadded 4 year ++ '-' :: Text.ofNatPadded 2 month ++ '-' :: Text.ofNatPadded 2 day,
    s)

/-- Reads the digits after the seconds, if any, and gives their text. -/
def secondFraction? : Text → Option (Text × Text)
  | '.' :: s =>
    let digits := s.takeWhile isDigit
    let kept := Text.trimEnd (· == '0') (digits.take 9)
    if digits = [] then none
    else some (if kept = [] then [] else '.' :: kept, s.drop digits.length)
  | s => some ([], s)

/-- Reads a time of a day and gives its text. -/
def time? (s : Text) : Option (Text × Text) := do
  let (hour, s) ← field? 2 0 23 s
  let (minute, s) ← field? 2 0 59 (← mark? ':' s)
  let (second, s) ← field? 2 0 60 (← mark? ':' s)
  let (fraction, s) ← secondFraction? s
  some (Text.ofNatPadded 2 hour ++ ':' :: Text.ofNatPadded 2 minute ++ ':' ::
    Text.ofNatPadded 2 second ++ fraction, s)

/-- Reads the distance from universal time, if any, and gives its text. -/
def offset? : Text → Option (Text × Text)
  | [] => some ([], [])
  | c :: s =>
    if c = 'Z' ∨ c = 'z' then some (['Z'], s)
    else if c = '+' ∨ c = '-' then do
      let (hours, s) ← field? 2 0 23 s
      let (minutes, s) ← field? 2 0 59 (← mark? ':' s)
      let sign := if hours = 0 ∧ minutes = 0 then '+' else c
      some (sign :: Text.ofNatPadded 2 hours ++ ':' :: Text.ofNatPadded 2 minutes, s)
    else some ([], c :: s)

/-- Reads a time after a date, if one is there, and gives its text. -/
def timeAfterDate? : Text → Option (Text × Text)
  | [] => some ([], [])
  | c :: s =>
    if (c = 'T' ∨ c = 't' ∨ c = ' ') ∧ (field? 2 0 99 s).isSome then do
      let (time, s) ← time? s
      let (offset, s) ← offset? s
      some ('T' :: time ++ offset, s)
    else some ([], c :: s)

/-- The name under which the text of a time stands in a datum. -/
def momentKey : Text := "$__toml_private_datetime".toList

/-- A time is a map of a single entry. -/
def moment (s : Text) : Datum := .map [(momentKey, .text s)]

/-- Reads a date, a time of a day, or both. -/
def moment? (s : Text) : Option (Datum × Text) :=
  match date? s with
  | some (date, s) => (timeAfterDate? s).map fun r => (moment (date ++ r.1), r.2)
  | none => (time? s).map fun r => (moment r.1, r.2)

/-- Reads a number or a time. -/
def scalar? (s : Text) : Option (Datum × Text) :=
  match moment? s with
  | some r => some r
  | none => number? s

end Toml

end FileClerk
