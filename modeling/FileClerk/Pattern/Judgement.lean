import FileClerk.Pattern.Class
import FileClerk.Text.Alphanumeric

/-!
# Patterns that can be used

A pattern is a choice between sequences of parts. A part is a piece, a class, or a group in
parentheses, which may have a name or change the modes, and it may be repeated. `error?` tells why a
pattern cannot be used: it may not be one, its parts may stand too deep inside each other, or it may
ask for what is not provided. Counted repetitions and looking ahead or back are not.
-/

namespace FileClerk

namespace Pattern

/-- Whether a character can stand for itself outside classes. -/
def Modes.allowCharacter (modes : Modes) (c : Char) (octet : Bool) : Bool :=
  if modes.unicode then !modes.caseless else !octet || c.toNat < 0x80

def flagLetters : Text := "imsUuRx".toList

/-- Flags are letters, each at most once, and a minus before those to be switched off. -/
def areFlags (flags : Text) : Bool :=
  flags.all (fun c => c == '-' || flagLetters.contains c) && decide flags.Nodup &&
    flags.getLast? != some '-'

/-- What a mode is after flags, one of which may speak of it. -/
def switched (flags : Text) (letter : Char) (mode : Bool) : Bool :=
  if flags.contains letter then (flags.takeWhile (· != '-')).contains letter else mode

def Modes.after (modes : Modes) (flags : Text) : Modes :=
  ⟨switched flags 'i' modes.caseless, switched flags 'u' modes.unicode,
    switched flags 'x' modes.spaced⟩

/-- A group has a name of letters, digits and a few marks; it does not begin with a digit. -/
def isGroupName : Text → Bool
  | [] => false
  | c :: s =>
    (c == '_' || isAlphabetic c) && s.all fun d => "_.[]".toList.contains d || isAlphanumeric d

/-- Reads the name of a group, which no other group may have. -/
def groupName : Reader Unit := do
  let s ← get
  let name := s.rest.takeWhile (· != '>')
  require (isGroupName name && !s.names.contains name)
  set { s with rest := s.rest.drop name.length, names := name :: s.names }
  require (← passIf ">")

/-- Reads the start of a group after its parenthesis. It gives nothing for flags that stand alone
and hold from there on. -/
def openGroup : Reader (Option Unit) := do
  skipSpace
  if ← passIf "?P<" then
    groupName
    return some ()
  else if ← passIf "?<" then
    groupName
    return some ()
  else if ← passIf "?" then
    let s ← get
    let flags := s.rest.takeWhile fun c => c != ':' && c != ')'
    require (areFlags flags)
    set { s with rest := s.rest.drop flags.length, modes := s.modes.after flags }
    if ← passIf ":" then return some ()
    else
      require (← passIf ")")
      require (flags != [])
      return none
  else return some ()

/-- Reads a dot, a mark of a line's start or end, an escape or a character. -/
def piece : Reader Unit := do
  let modes := (← get).modes
  if ← passIf "." then require modes.allowOthers
  else if ← passIf "^" then return ()
  else if ← passIf "$" then return ()
  else
    match ← escapable with
    | .character c octet => require (modes.allowCharacter c octet)
    | .sort negated => require (modes.allowSort negated)
    | .edge => return ()
    | .wordEdge => modify fun s => { s with wordEdge := s.wordEdge || modes.unicode }

/-- A part of a sequence: how deep it is, and whether it can be repeated. -/
structure Part where
  depth : Nat
  repeatable : Bool

def sequenceDepth (parts : List Part) : Nat := depthOfAll (parts.map Part.depth)

/-- Whether a mark of repetition comes next. -/
def passRepetition : Reader Bool := do
  if ← passIf "*" then return true
  else if ← passIf "+" then return true
  else passIf "?"

/-- Reads sequences up to the end of their group, in at most so many steps, and gives how deep they
are. `parts` are those of the sequence at hand, latest first, and `earlier` are the sequences before
it. -/
def choice : Nat → List Part → List Nat → Reader Nat
  | 0, _, _ => failure
  | n + 1, parts, earlier => do
    skipSpace
    match ← peek? with
    | none | some ')' => return depthOfAll (sequenceDepth parts :: earlier)
    | some '|' =>
      let _ ← take
      choice n [] (sequenceDepth parts :: earlier)
    | some '(' =>
      let _ ← take
      let outer := (← get).modes
      match ← openGroup with
      | none => choice n (⟨0, false⟩ :: parts) earlier
      | some () =>
        let depth ← choice n [] []
        require (← passIf ")")
        modify fun s => { s with modes := outer }
        choice n (⟨depth + 1, true⟩ :: parts) earlier
    | some '[' =>
      let _ ← take
      let depth ← characterClass
      choice n (⟨depth, true⟩ :: parts) earlier
    | some '\x7b' => failure
    | some _ =>
      if ← passRepetition then
        match parts with
        | ⟨depth, true⟩ :: parts =>
          let _ ← passIf "?"
          choice n (⟨depth + 1, true⟩ :: parts) earlier
        | _ => failure
      else
        piece
        choice n (⟨0, true⟩ :: parts) earlier

/-- How deep the parts of a pattern may stand inside each other. -/
def depthLimit : Nat := 250

/-- Why a pattern cannot be used. -/
inductive Error where
  | malformed
  /-- It asks for an edge of words of Unicode. -/
  | wordEdge
  deriving DecidableEq, Repr

def Error.message : Error → Text
  | malformed => "error building NFA".toList
  | wordEdge =>
    "unsupported regex feature for DFAs: cannot build DFAs for regexes with Unicode word ".toList ++
      "boundaries; switch to ASCII word boundaries, or heuristically enable Unicode word ".toList ++
      "boundaries or use a different regex engine".toList

/-- Why a text cannot be used as a pattern, if it cannot. -/
def error? (s : Text) : Option Error :=
  match (choice (s.length + 1) [] []).run ⟨s, .initial, [], false⟩ with
  | none => some .malformed
  | some (depth, state) =>
    if state.rest ≠ [] ∨ depthLimit < depth then some .malformed
    else if state.wordEdge then some .wordEdge
    else none

end Pattern

end FileClerk
