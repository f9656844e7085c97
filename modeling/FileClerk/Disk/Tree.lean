import FileClerk.Path.Location

/-!
# The tree on a disk

A disk holds an entry at each of its locations: a file with its octets, a directory, or a link to
another path. The top is always a directory. The operations here change entries and nothing else;
whether they may is decided where paths are looked up.
-/

namespace FileClerk

namespace Disk

inductive Entry where
  | file (content : Bytes)
  | directory
  | link (target : Text)
  deriving DecidableEq, Repr

end Disk

structure Disk where
  entries : List (Location × Disk.Entry)
  deriving DecidableEq, Repr

namespace Location

def top : Location := ⟨[]⟩

def child (place : Location) (name : Text) : Location := ⟨place.segments ++ [name]⟩

/-- The directory above a location; the top is above itself. -/
def above (place : Location) : Location := ⟨place.segments.dropLast⟩

/-- Where a location below `old` is after `old` has been moved to `new`. -/
def moved (old new place : Location) : Location :=
  if place.isWithin old then ⟨new.segments ++ place.segments.drop old.segments.length⟩ else place

/-- Where that which lies at a location is after `old` has been moved to `new`, unless it lay in the
way and is gone. -/
def afterMove (old new place : Location) : Option Location :=
  if old = new then some place
  else if place.isWithin old then some (moved old new place)
  else if place.isWithin new then none
  else some place

end Location

namespace Disk

def empty : Disk := ⟨[]⟩

def entry? (disk : Disk) (place : Location) : Option Entry :=
  if place = .top then some .directory
  else (disk.entries.find? fun e => e.1 == place).map (·.2)

/-- Puts an entry at a location, in place of what was there. -/
def put (disk : Disk) (place : Location) (entry : Entry) : Disk :=
  ⟨(place, entry) :: disk.entries.filter fun e => e.1 != place⟩

/-- Takes a location and all below it away. -/
def erase (disk : Disk) (place : Location) : Disk :=
  ⟨disk.entries.filter fun e => !e.1.isWithin place⟩

/-- Moves a location and all below it. -/
def move (disk : Disk) (old new : Location) : Disk :=
  ⟨(disk.erase new).entries.map fun e => (Location.moved old new e.1, e.2)⟩

/-- The names in a directory with their entries. -/
def children (disk : Disk) (place : Location) : List (Text × Entry) :=
  disk.entries.filterMap fun e =>
    match e.1.segments.getLast? with
    | some name => if place.child name = e.1 then some (name, e.2) else none
    | none => none

/-- All below a location, each by its path from there, in the order of these paths. -/
def below (disk : Disk) (place : Location) : List (Text × Entry) :=
  let inside := disk.entries.filter fun e => e.1.isWithin place && e.1 != place
  let named := inside.map fun e =>
    (Text.joinWith ['/'] (e.1.segments.drop place.segments.length), e.2)
  named.mergeSort fun a b => !decide (b.1 < a.1)

end Disk

end FileClerk
