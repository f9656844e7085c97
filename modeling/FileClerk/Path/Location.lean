import FileClerk.Path.Lexical

/-!
# Locations

A location is a place in a directory tree, named by the segments that lead to it from the top. Its
text is absolute, and `Location.ofText` reads any absolute path to the location it leads to.
-/

namespace FileClerk

structure Location where
  segments : List Text
  deriving DecidableEq, Repr

namespace Location

/-- The location an absolute path leads to. -/
def ofText (path : Text) : Location := ⟨Path.segments path⟩

def text (place : Location) : Text := Path.render true place.segments

/-- The directory that holds a location; the top has none. -/
def parent? (place : Location) : Option Location :=
  if place.segments = [] then none else some ⟨place.segments.dropLast⟩

/-- Whether a location is `top` or lies below it, segment by segment. -/
def isWithin (place top : Location) : Bool := top.segments.isPrefixOf place.segments

end Location

end FileClerk
