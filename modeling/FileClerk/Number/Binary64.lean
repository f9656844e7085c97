import FileClerk.Text.Basic

/-!
# Binary floating point numbers

A finite number is a significand below 2^53 times a power of two from 2^-1074 to 2^971. A decimal
numeral is read as the nearest such number, and as the even one of two that are equally near. A
number is written positionally, with the fewest digits that are read back as the same number, and
the nearest of those. All is done with whole numbers.
-/

namespace FileClerk

inductive Binary64 where
  | finite (negative : Bool) (significand : Nat) (exponent : Int)
  | infinite (negative : Bool)
  | notANumber
  deriving DecidableEq, Repr

namespace Binary64

/-- The nearest whole number to a quotient, the even one if two are equally near. -/
def roundDiv (num den : Nat) : Nat :=
  let q := num / den
  let r := num % den
  if 2 * r < den then q
  else if den < 2 * r then q + 1
  else if q % 2 = 0 then q
  else q + 1

/-- A quotient divided by a power of two. -/
def scaleDown (num den : Nat) (exponent : Int) : Nat × Nat :=
  match exponent with
  | .ofNat e => (num, den * Nat.pow 2 e)
  | .negSucc e => (num * Nat.pow 2 (e + 1), den)

def leastExponent : Int := -1074

def greatestExponent : Int := 971

/-- Raises the exponent until the rounded significand fits. -/
def fit (num den : Nat) (exponent : Int) : Nat → Nat × Int
  | 0 => (0, exponent)
  | tries + 1 =>
    let (n, d) := scaleDown num den exponent
    let significand := roundDiv n d
    if significand < Nat.pow 2 53 then (significand, exponent)
    else fit num den (exponent + 1) tries

/-- The number nearest to `digits` times a power of ten. -/
def ofDecimal (negative : Bool) (digits : Nat) (exponent : Int) : Binary64 :=
  let size := (Nat.toDigits 10 digits).length + exponent
  if digits = 0 ∨ size < -330 then .finite negative 0 0
  else if 310 < size then .infinite negative
  else
    let (num, den) := match exponent with
      | .ofNat e => (digits * Nat.pow 10 e, 1)
      | .negSucc e => (digits, Nat.pow 10 (e + 1))
    let start : Int := max ((Nat.log2 num : Int) - Nat.log2 den - 53) leastExponent
    let (significand, power) := fit num den start 4
    if greatestExponent < power then .infinite negative
    else .finite negative significand power

/-- A magnitude between two others that are read back as it: the interval's ends and its middle as
multiples of `num / den`, and whether the ends belong to it. -/
structure Neighbourhood where
  low : Nat
  middle : Nat
  high : Nat
  num : Nat
  den : Nat
  closed : Bool

/-- The magnitudes that are rounded to a number, in quarters of its last place. -/
def neighbourhood (significand : Nat) (exponent : Int) : Neighbourhood :=
  let unit := match exponent - 2 with
    | .ofNat e => (Nat.pow 2 e, 1)
    | .negSucc e => (1, Nat.pow 2 (e + 1))
  let below := if significand = Nat.pow 2 52 ∧ leastExponent < exponent then 1 else 2
  ⟨4 * significand - below, 4 * significand, 4 * significand + 2, unit.1, unit.2,
    significand % 2 == 0⟩

/-- Whether `count` steps of a decimal grid lie in a neighbourhood; a step is `ten` tenths of
`one`. -/
def Neighbourhood.holds (near : Neighbourhood) (ten one count : Nat) : Bool :=
  let here := count * ten * near.den
  let low := near.low * near.num * one
  let high := near.high * near.num * one
  if near.closed then low ≤ here && here ≤ high else low < here && here < high

/-- The point of a decimal grid nearest to the middle of a neighbourhood and in it, the upper one of
two that are equally near. -/
def Neighbourhood.nearest? (near : Neighbourhood) (power : Int) : Option Nat :=
  let (ten, one) := match power with
    | .ofNat e => (Nat.pow 10 e, 1)
    | .negSucc e => (1, Nat.pow 10 (e + 1))
  let middle := near.middle * near.num * one
  let step := ten * near.den
  let down := middle / step
  let downNear := near.holds ten one down
  let upNear := near.holds ten one (down + 1)
  if downNear && upNear then
    if 2 * (middle % step) < step then some down else some (down + 1)
  else if downNear then some down
  else if upNear then some (down + 1)
  else none

/-- The fewest digits, tried from one upwards, and the power of ten of the last of them. -/
def Neighbourhood.shortest (near : Neighbourhood) (leading : Int) : Nat → Nat → Nat × Int
  | _, 0 => (near.middle, 0)
  | digits, tries + 1 =>
    let power := leading - digits + 1
    match near.nearest? power with
    | some count => (count, power)
    | none => near.shortest leading (digits + 1) tries

/-- The power of ten of the leading digit of a magnitude. -/
def Neighbourhood.leading (near : Neighbourhood) : Int :=
  let shifted := near.middle * near.num * Nat.pow 10 400 / near.den
  ((Nat.toDigits 10 shifted).length : Int) - 401

/-- The digits after a point, without zeros at the end; none at all need no point. -/
def fraction (digits : Text) : Text :=
  match digits.trimEnd (· == '0') with
  | [] => []
  | kept => '.' :: kept

/-- A count of a power of ten, written out. -/
def positional (count : Nat) (power : Int) : Text :=
  match power with
  | .ofNat e => Text.ofNat (count * Nat.pow 10 e)
  | .negSucc e =>
    let digits := Text.ofNatPadded (e + 2) count
    let whole := digits.length - (e + 1)
    digits.take whole ++ fraction (digits.drop whole)

def magnitude (significand : Nat) (exponent : Int) : Text :=
  if significand = 0 then ['0']
  else
    let near := neighbourhood significand exponent
    let (count, power) := near.shortest near.leading 1 17
    positional count power

def text : Binary64 → Text
  | finite negative significand exponent =>
    (if negative then ['-'] else []) ++ magnitude significand exponent
  | infinite negative => (if negative then ['-'] else []) ++ "inf".toList
  | notANumber => "NaN".toList

end Binary64

end FileClerk
