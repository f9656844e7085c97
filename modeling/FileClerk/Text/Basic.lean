/-!
# Text

A text is a list of characters. This module holds the few operations every reader and printer of
the library shares: cutting a text at a separator or after a number of octets, trimming a class of
characters from its ends, its size in octets, and decimal numerals.

`splitAtOctet?_eq_some` says that a cut after octets loses nothing and is as long as asked for.
-/

namespace FileClerk

abbrev Text := List Char

/-- Octets, as a file or a channel holds them. -/
abbrev Bytes := List UInt8

namespace Text

/-- The text before and after the first place where `sep` occurs. -/
def splitOnce? : (s sep : Text) → Option (Text × Text)
  | [], sep => if sep = [] then some ([], []) else none
  | c :: s, sep =>
    match sep.isPrefixOf? (c :: s) with
    | some after => some ([], after)
    | none => (splitOnce? s sep).map fun cut => (c :: cut.1, cut.2)

def trimStart (p : Char → Bool) (s : Text) : Text := s.dropWhile p

def trimEnd (p : Char → Bool) (s : Text) : Text := (s.reverse.dropWhile p).reverse

/-- Drops the characters of a class from both ends. -/
def trimBoth (p : Char → Bool) (s : Text) : Text := trimEnd p (trimStart p s)

/-- The pieces between the occurrences of a character; there is always at least one. -/
def pieces (sep : Char) : Text → List Text
  | [] => [[]]
  | c :: s =>
    if c = sep then [] :: pieces sep s
    else match pieces sep s with
      | [] => [[c]]
      | p :: ps => (c :: p) :: ps

/-- The parts one after another, with `sep` between neighbours. -/
def joinWith (sep : Text) : List Text → Text
  | [] => []
  | [p] => p
  | p :: q :: ps => p ++ sep ++ joinWith sep (q :: ps)

/-- The size in octets when written as UTF-8. -/
def octets (s : Text) : Nat := s.foldl (fun n c => n + c.utf8Size) 0

theorem foldl_octets (s : Text) (n : Nat) :
    s.foldl (fun n c => n + c.utf8Size) n = n + octets s := by
  induction s generalizing n with
  | nil => rfl
  | cons c s ih =>
    rw [octets, List.foldl_cons, List.foldl_cons, ih, ih (0 + c.utf8Size)]
    omega

theorem octets_cons (c : Char) (s : Text) : octets (c :: s) = c.utf8Size + octets s := by
  rw [octets, List.foldl_cons, foldl_octets, Nat.zero_add]

/-- The text up to so many octets and the text after them, unless a character lies across. -/
def splitAtOctet? : Text → Nat → Option (Text × Text)
  | s, 0 => some ([], s)
  | [], _ + 1 => none
  | c :: s, n + 1 =>
    if c.utf8Size ≤ n + 1 then
      (splitAtOctet? s (n + 1 - c.utf8Size)).map fun cut => (c :: cut.1, cut.2)
    else none

theorem splitAtOctet?_eq_some : ∀ {s before after : Text} {n : Nat},
    splitAtOctet? s n = some (before, after) → s = before ++ after ∧ octets before = n
  | s, before, after, 0, h => by
    rw [splitAtOctet?, Option.some.injEq, Prod.mk.injEq] at h
    obtain ⟨rfl, rfl⟩ := h
    exact ⟨rfl, rfl⟩
  | [], before, after, n + 1, h => by
    rw [splitAtOctet?] at h
    cases h
  | c :: s, before, after, n + 1, h => by
    rw [splitAtOctet?] at h
    split at h
    · rename_i hle
      obtain ⟨⟨first, rest⟩, hcut, hpair⟩ := Option.map_eq_some_iff.1 h
      rw [Prod.mk.injEq] at hpair
      obtain ⟨rfl, rfl⟩ := hpair
      obtain ⟨hs, hn⟩ := splitAtOctet?_eq_some hcut
      refine ⟨by rw [hs, List.cons_append], ?_⟩
      rw [octets_cons, hn]
      omega
    · cases h

/-- The decimal numeral of a natural number. -/
def ofNat (n : Nat) : Text := Nat.toDigits 10 n

/-- The decimal numeral of an integer, with a minus sign when it is negative. -/
def ofInt : Int → Text
  | .ofNat n => ofNat n
  | .negSucc n => '-' :: ofNat (n + 1)

/-- The numeral with zeros in front up to a width. -/
def ofNatPadded (width n : Nat) : Text :=
  let digits := ofNat n
  List.replicate (width - digits.length) '0' ++ digits

end Text

end FileClerk
