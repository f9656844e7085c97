import FileClerk.Pattern.Reader

/-!
# Classes of characters in patterns

A class in brackets has members: characters, ranges, sorts, classes by name and classes in brackets
again; a caret before them means all other characters, and between members may stand an operation
on sets. What is asked of a class depends on the modes. No table of the letters that are alike or of
the sorts of Unicode is provided, and octets may only be described up to 127.
-/

namespace FileClerk

namespace Pattern

/-- Whether a sort of characters, or all others, can be meant. -/
def Modes.allowSort (modes : Modes) (negated : Bool) : Bool := !modes.unicode && !negated

/-- Whether a character can be a member of a class. -/
def Modes.allowMember (modes : Modes) (c : Char) : Bool :=
  if modes.unicode then !modes.caseless else c.toNat < 0x80

/-- Whether all characters but some can be meant. -/
def Modes.allowOthers (modes : Modes) : Bool := modes.unicode

def classNames : List Text :=
  ["alnum", "alpha", "ascii", "blank", "cntrl", "digit", "graph", "lower", "print", "punct",
    "space", "upper", "word", "xdigit"].map String.toList

/-- Reads a class by name after its opening bracket: whether it is negated, and the rest. -/
def namedClass? (s : Text) : Option (Bool × Text) := do
  let s ← [':'].isPrefixOf? s
  let (negated, s) := match s with
    | '^' :: s => (true, s)
    | s => (false, s)
  let name := s.takeWhile (· != ':')
  let s ← [':', ']'].isPrefixOf? (s.drop name.length)
  if classNames.contains name then some (negated, s) else none

/-- The character that stands beyond the next one; in spaced modes white space does not count, and
neither does the mark of a comment. -/
def peekBeyond? : Reader (Option Char) := do
  let s ← get
  let beyond := s.rest.drop 1
  if s.modes.spaced then
    match beyond.dropWhile isBlank with
    | '#' :: beyond => return (beyond.dropWhile isBlank).head?
    | beyond => return beyond.head?
  else return beyond.head?

/-- Reads the end of a range, after the character it begins with. -/
def range (first : Char) : Reader Unit := do
  match ← escapable with
  | .character last _ =>
    let modes := (← get).modes
    require (first ≤ last && modes.allowMember first && modes.allowMember last)
  | _ => failure

/-- Reads a character, a sort or a range. -/
def member : Reader Unit := do
  let piece ← escapable
  skipSpace
  let beyond ← peekBeyond?
  if (← peek?) = some '-' ∧ beyond ≠ some ']' ∧ beyond ≠ some '-' then
    match piece with
    | .character first _ =>
      let _ ← take
      skipSpace
      range first
    | _ => failure
  else
    let modes := (← get).modes
    match piece with
    | .character c _ => require (modes.allowMember c)
    | .sort negated => require (modes.allowSort negated)
    | .edge | .wordEdge => failure

/-- How deep parts stand inside each other, one more than the deepest of several. -/
def depthOfAll : List Nat → Nat
  | [] => 0
  | [depth] => depth
  | depths => depths.foldl max 0 + 1

/-- Reads the dashes that stand for themselves at the start of a class, at most so many, and gives
how many there were. -/
def dashes : Nat → Reader Nat
  | 0 => failure
  | n + 1 => do
    skipSpace
    if ← passIf "-" then
      require ((← get).modes.allowMember '-')
      return (← dashes n) + 1
    else return 0

/-- Reads the start of a class after its bracket, and gives how many members there are already. A
closing bracket that comes first is a member. -/
def opening : Reader Nat := do
  skipSpace
  if ← passIf "^" then require (← get).modes.allowOthers
  let count ← dashes ((← get).rest.length + 1)
  if count = 0 then
    if ← passIf "]" then
      require ((← get).modes.allowMember ']')
      return 1
    else return 0
  else return count

/-- Whether an operation on sets comes next. -/
def passOperation : Reader Bool := do
  if ← passIf "&&" then return true
  else if ← passIf "--" then return true
  else passIf "~~"

/-- How deep an operation stands whose right side has these members. -/
def operated (left : Option Nat) (members : List Nat) : Nat :=
  match left with
  | none => depthOfAll members
  | some left => max left (depthOfAll members) + 1

/-- Reads the members of a class up to its closing bracket, at most so many, and gives how deep it
is. `left` is what stands to the left of the last operation. -/
def members : Nat → Option Nat → List Nat → Reader Nat
  | 0, _, _ => failure
  | n + 1, left, found => do
    skipSpace
    if ← passIf "]" then return operated left found
    else if ← passIf "[" then
      match namedClass? (← get).rest with
      | some (negated, rest) =>
        let modes := (← get).modes
        require (if modes.unicode then !modes.caseless else !negated)
        modify fun s => { s with rest := rest }
        members n left (0 :: found)
      | none =>
        let count ← opening
        let depth ← members n none (List.replicate count 0)
        members n left ((depth + 1) :: found)
    else if ← passOperation then members n (some (operated left found)) []
    else
      member
      members n left (0 :: found)

/-- Reads a class after its opening bracket, and gives how deep it is. -/
def characterClass : Reader Nat := do
  let count ← opening
  let s ← get
  let depth ← members (s.rest.length + 1) none (List.replicate count 0)
  return depth + 1

end Pattern

end FileClerk
