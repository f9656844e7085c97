import FileClerk.Disk.Host

/-!
# Changes from outside

What others do to a disk while the program watches it. A change touches the locations at which it
makes, writes or moves an entry; those are the ones a watch on a directory hears of. What lies at a
location may be moved by it or be gone afterwards.
-/

namespace FileClerk

inductive Change where
  /-- Writes a file anew, and makes the directories above it. -/
  | write (path : Text) (content : Bytes)
  | makeDirectories (path : Text)
  | link (path target : Text)
  /-- Takes away a file, a link or a whole directory. -/
  | remove (path : Text)
  | move (source target : Text)
  deriving DecidableEq, Repr

namespace Host

/-- The host with the directories above a path. -/
def withParents (host : Host) (path : Text) : Host :=
  match Path.parent? path with
  | some parent => if parent = [] then host else (host.createDirectories parent).2
  | none => host

def apply (host : Host) : Change → Host
  | .write path content =>
    let host := host.withParents path
    (host.write path content).toOption.getD host
  | .makeDirectories path => (host.createDirectories path).2
  | .link path target =>
    let host := host.withParents path
    match host.lookUp .entry path with
    | .ok spot => if spot.entry.isNone then host.put spot.place (.link target) else host
    | .error _ => host
  | .remove path =>
    match host.lookUp .entry path with
    | .ok spot => host.setDisk (host.disk.erase spot.place)
    | .error _ => host
  | .move source target => (host.rename source target).toOption.getD host

/-- The location a path leads to. -/
def placeOf (host : Host) (purpose : Disk.Purpose) (path : Text) : List Location :=
  match host.lookUp purpose path with
  | .ok spot => [spot.place]
  | .error _ => []

/-- The locations a change touches; one that fails touches none. -/
def touched (host : Host) (change : Change) : List Location :=
  let after := host.apply change
  let made := (after.disk.entries.map (·.1)).filter fun place => (host.disk.entry? place).isNone
  match change with
  | .write path _ => made ++ after.placeOf .target path
  | .makeDirectories _ | .link _ _ => made
  | .remove _ => []
  | .move source target =>
    if after = host then [] else host.placeOf .entry source ++ after.placeOf .entry target

/-- Where that which lies at a location is after a move, if it is still there. -/
def afterMove (host : Host) (source target : Text) (place : Location) : Option Location :=
  match host.lookUp .moveEnd source, host.lookUp .moveEnd target with
  | .ok source, .ok target =>
    match host.moving source target with
    | .ok _ => Location.afterMove source.place target.place place
    | .error _ => some place
  | _, _ => some place

/-- Where that which lies at a location is after a change, if it is still there. -/
def afterChange (host : Host) (place : Location) : Change → Option Location
  | .remove path => if (host.placeOf .entry path).any place.isWithin then none else some place
  | .move source target => host.afterMove source target place
  | .write _ _ | .makeDirectories _ | .link _ _ => some place

end Host

end FileClerk
