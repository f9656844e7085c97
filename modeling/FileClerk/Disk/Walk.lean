import FileClerk.Disk.Errno
import FileClerk.Disk.Tree

/-!
# Looking a path up

A path is walked name by name from the top or from the working directory. Links on the way are
followed, at most forty in one walk; whether the link a path ends at is followed depends on what it
is looked up for. The walk gives the spot it ends at, which may be free if all above it exists.
-/

namespace FileClerk

namespace Disk

/-- Where a walk ended. -/
structure Spot where
  place : Location
  entry : Option Entry
  /-- The path ends in a name, and not in a dot segment or at the top. -/
  named : Bool
  /-- A slash follows the name. -/
  slash : Bool

/-- What a path is looked up for. -/
inductive Purpose where
  /-- The entry it names, even if that is a link. -/
  | entry
  /-- What it leads to. -/
  | target
  /-- A place for a new file. -/
  | newFile
  /-- The file it leads to, or a place for it. -/
  | fileToWrite
  /-- The entry it names as one end of a move; whether its name is too long is asked later. -/
  | moveEnd
  deriving DecidableEq, Repr

namespace Purpose

def follows : Purpose → Bool
  | target | fileToWrite => true
  | entry | newFile | moveEnd => false

/-- A name with a slash after it never stands for a file that may be made. -/
def forbidsSlash : Purpose → Bool
  | newFile | fileToWrite => true
  | entry | target | moveEnd => false

end Purpose

/-- The longest name, and the least size of a path that is too long, in octets. -/
def longestName : Nat := 255

def pathLimit : Nat := 4096

def mostLinks : Nat := 40

/-- Whether a spot has a name that no entry can have. -/
def Spot.isTooLong (spot : Spot) : Bool :=
  spot.place.segments.getLast?.any fun name => longestName < name.octets

/-- The segments of a path as written, dot segments included. -/
def names (path : Text) : List Text := (Text.pieces '/' path).filter (· ≠ [])

def endsInSlash (path : Text) : Bool := path.getLast? == some '/'

/-- Walks on from a directory, with so many links still allowed. -/
def walk (disk : Disk) (purpose : Purpose) (links : Nat) (here : Location) (slash : Bool)
    (path : List Text) : Except Errno Spot :=
  match path with
  | [] => .ok ⟨here, some .directory, false, slash⟩
  | name :: rest =>
    if name = Path.here then walk disk purpose links here slash rest
    else if name = Path.above then walk disk purpose links here.above slash rest
    else if rest = [] ∧ slash ∧ purpose.forbidsSlash then .error .isDirectory
    else if longestName < name.octets ∧ ¬(rest = [] ∧ purpose = .moveEnd) then .error .nameTooLong
    else
      let place := here.child name
      match disk.entry? place with
      | none => if rest = [] then .ok ⟨place, none, true, slash⟩ else .error .noEntry
      | some .directory =>
        if rest = [] then .ok ⟨place, some .directory, true, slash⟩
        else walk disk purpose links place slash rest
      | some (.file content) =>
        if rest = [] then .ok ⟨place, some (.file content), true, slash⟩
        else .error .notDirectory
      | some (.link target) =>
        if rest = [] ∧ purpose.follows = false then .ok ⟨place, some (.link target), true, slash⟩
        else
          match links with
          | 0 => .error .loop
          | links + 1 =>
            walk disk purpose links (if Path.isAbsolute target then .top else here)
              (if rest = [] then slash || endsInSlash target else slash) (names target ++ rest)
termination_by (links, path.length)

/-- Looks up a path from a working directory. -/
def lookUp (disk : Disk) (workingDirectory : Location) (purpose : Purpose) (path : Text) :
    Except IoError Spot :=
  if path.contains '\x00' then .error .nulByte
  else if path = [] then .error Errno.noEntry.error
  else if pathLimit ≤ path.octets then .error Errno.nameTooLong.error
  else
    let start := if Path.isAbsolute path then .top else workingDirectory
    match disk.walk purpose mostLinks start (endsInSlash path) (names path) with
    | .ok spot => .ok spot
    | .error e => .error e.error

/-- What exists at a path, with links followed. Only a directory may be followed by a slash. -/
def find (disk : Disk) (workingDirectory : Location) (path : Text) :
    Except IoError (Location × Entry) := do
  let spot ← disk.lookUp workingDirectory .target path
  match spot.entry with
  | none => .error Errno.noEntry.error
  | some .directory => .ok (spot.place, .directory)
  | some entry => if spot.slash then .error Errno.notDirectory.error else .ok (spot.place, entry)

end Disk

end FileClerk
