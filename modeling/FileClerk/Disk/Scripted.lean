import FileClerk.Action

/-!
# A disk that follows a script

Answers are laid out in advance, a list for each kind of call. Each call uses up the next answer of
its kind; when there is none left, the plainest answer is given. Writing always succeeds.
-/

namespace FileClerk

structure Script where
  isPresent : List (Except IoError Bool)
  createDirectories : List (Except IoError Unit)
  createEmpty : List (Except IoError Unit)
  removeFile : List (Except IoError Unit)
  rename : List (Except IoError Unit)
  append : List (Except IoError Unit)
  read : List (Except IoError Bytes)
  copy : List (Except IoError Nat)
  list : List (Except IoError (List DirectoryEntry))
  status : List (Except IoError FileStatus)

namespace Script

/-- The next answer and those after it. -/
def next {α : Type} (plain : α) : List (Except IoError α) →
    Except IoError α × List (Except IoError α)
  | [] => (.ok plain, [])
  | answer :: rest => (answer, rest)

/-- An empty file of which no time is known. -/
def plainStatus : FileStatus := ⟨.file, 0, none, none, none⟩

def answer : Answering Script
  | .isPresent _, s =>
    let (a, rest) := next false s.isPresent
    (a, { s with isPresent := rest })
  | .createDirectories _, s =>
    let (a, rest) := next () s.createDirectories
    (a, { s with createDirectories := rest })
  | .createEmpty _, s =>
    let (a, rest) := next () s.createEmpty
    (a, { s with createEmpty := rest })
  | .removeFile _, s =>
    let (a, rest) := next () s.removeFile
    (a, { s with removeFile := rest })
  | .rename _ _, s =>
    let (a, rest) := next () s.rename
    (a, { s with rename := rest })
  | .append _ _, s =>
    let (a, rest) := next () s.append
    (a, { s with append := rest })
  | .read _, s =>
    let (a, rest) := next [] s.read
    (a, { s with read := rest })
  | .copy _ _, s =>
    let (a, rest) := next 0 s.copy
    (a, { s with copy := rest })
  | .list _, s =>
    let (a, rest) := next [] s.list
    (a, { s with list := rest })
  | .status _, s =>
    let (a, rest) := next plainStatus s.status
    (a, { s with status := rest })
  | .write _ _, s => (.ok (), s)

end Script

end FileClerk
