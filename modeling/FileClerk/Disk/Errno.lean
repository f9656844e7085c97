import FileClerk.Disk.Call

/-!
# Error numbers of a disk
-/

namespace FileClerk

inductive Errno where
  | noEntry
  | busy
  | exists_
  | notDirectory
  | isDirectory
  | invalid
  | nameTooLong
  | notEmpty
  | loop
  deriving DecidableEq, Repr

namespace Errno

def all : List Errno :=
  [noEntry, busy, exists_, notDirectory, isDirectory, invalid, nameTooLong, notEmpty, loop]

def number : Errno → Nat
  | noEntry => 2
  | busy => 16
  | exists_ => 17
  | notDirectory => 20
  | isDirectory => 21
  | invalid => 22
  | nameTooLong => 36
  | notEmpty => 39
  | loop => 40

def kind : Errno → IoError.Kind
  | noEntry => .notFound
  | busy => .resourceBusy
  | exists_ => .alreadyExists
  | notDirectory => .notADirectory
  | isDirectory => .isADirectory
  | invalid => .invalidInput
  | nameTooLong => .invalidFilename
  | notEmpty => .directoryNotEmpty
  | loop => .filesystemLoop

def description : Errno → Text
  | noEntry => "No such file or directory".toList
  | busy => "Device or resource busy".toList
  | exists_ => "File exists".toList
  | notDirectory => "Not a directory".toList
  | isDirectory => "Is a directory".toList
  | invalid => "Invalid argument".toList
  | nameTooLong => "File name too long".toList
  | notEmpty => "Directory not empty".toList
  | loop => "Too many levels of symbolic links".toList

def error (e : Errno) : IoError :=
  ⟨e.kind, e.description ++ " (os error ".toList ++ Text.ofNat e.number ++ [')']⟩

end Errno

namespace IoError

/-- The error with a number, in the words given where the number says nothing. -/
def ofNumber (number : Nat) (description : Text) : IoError :=
  match Errno.all.find? fun e => e.number = number with
  | some e => e.error
  | none =>
    ⟨.other, description ++ " (os error ".toList ++ Text.ofNat number ++ [')']⟩

/-- A path that no disk can be asked about. -/
def nulByte : IoError := ⟨.invalidInput, "file name contained an unexpected NUL byte".toList⟩

/-- Copying is for files alone. -/
def notAFile : IoError :=
  ⟨.invalidInput,
    "the source path is neither a regular file nor a symlink to a regular file".toList⟩

end IoError

end FileClerk
