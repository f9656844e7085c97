import FileClerk.Text.Basic

/-!
# The journal

What the program reports: one record for each outcome, in the order in which they came, and log
lines about its own doings. `Record.line` is how a record reads in the log.
-/

namespace FileClerk

inductive Severity where
  | info
  | success
  | warning
  | error
  deriving DecidableEq, Repr

structure Record where
  severity : Severity
  message : Text
  deriving DecidableEq, Repr

inductive LogLevel where
  | error
  | warn
  | info
  | debug
  | trace
  deriving DecidableEq, Repr

namespace LogLevel

/-- Levels by how much they let through. -/
def rank : LogLevel → Nat
  | error => 1
  | warn => 2
  | info => 3
  | debug => 4
  | trace => 5

/-- The name in capitals, in five columns. -/
def label : LogLevel → Text
  | error => "ERROR".toList
  | warn => " WARN".toList
  | info => " INFO".toList
  | debug => "DEBUG".toList
  | trace => "TRACE".toList

end LogLevel

/-- What writes to the log: the parts of the program, and two services it rests on. -/
inductive LogArea where
  | journal
  | interpreter
  | changeLoop
  | commandWatcher
  | watchCommand
  /-- The service that waits for events. -/
  | poller
  /-- The service that watches directories. -/
  | directoryWatch
  deriving DecidableEq, Repr

namespace LogArea

/-- The name that filters use. -/
def name : LogArea → Text
  | journal => "cmdwatch::logging".toList
  | interpreter => "cmdwatch::interpreter".toList
  | changeLoop => "cmdwatch::watcher::change_loop".toList
  | commandWatcher => "cmdwatch::watcher::command_watcher".toList
  | watchCommand => "cmdwatch::cli::commands::watch".toList
  | poller => "mio::poll".toList
  | directoryWatch => "notify::inotify".toList

/-- The fields of a line; a service also tells where in it the line was written. -/
def fields : LogArea → List Text
  | poller | directoryWatch =>
    ["message", "log.target", "log.module_path", "log.file", "log.line"].map String.toList
  | journal | interpreter | changeLoop | commandWatcher | watchCommand => ["message".toList]

end LogArea

structure LogLine where
  level : LogLevel
  area : LogArea
  message : Text
  deriving DecidableEq, Repr

namespace LogLine

/-- A line about an event in a component, with or without details. -/
def event (level : LogLevel) (area : LogArea) (component what : String) (detail : Option Text) :
    LogLine :=
  let heading := ['['] ++ component.toList ++ "] ".toList ++ what.toList
  ⟨level, area, match detail with
    | none => heading
    | some text => heading ++ ": ".toList ++ text⟩

/-- How a character of a message is shown; those that could steer a terminal are escaped. -/
def shownChar (c : Char) : Text :=
  if c = '\x1b' then "\\x1b".toList
  else if c = '\x07' then "\\x07".toList
  else if c = '\x08' then "\\x08".toList
  else if c = '\x0c' then "\\x0c".toList
  else if c = '\x7f' then "\\x7f".toList
  else if 0x80 ≤ c.toNat ∧ c.toNat ≤ 0x9F then
    "\\u\x7b".toList ++ Nat.toDigits 16 c.toNat ++ ['\x7d']
  else [c]

def text (line : LogLine) : Text := line.level.label ++ [' '] ++ line.message.flatMap shownChar

end LogLine

namespace Record

/-- A failure with each of its causes after a colon. -/
def failure (message : Text) (causes : List Text) : Record :=
  ⟨.error, message ++ causes.flatMap fun cause => ": ".toList ++ cause⟩

def line (record : Record) : LogLine :=
  match record.severity with
  | .info => ⟨.info, .journal, record.message⟩
  | .success => ⟨.info, .journal, "[ok] ".toList ++ record.message⟩
  | .warning => ⟨.warn, .journal, record.message⟩
  | .error => ⟨.error, .journal, record.message⟩

end Record

/-- Something the program reports while it runs. -/
inductive Note where
  | record (r : Record)
  | log (line : LogLine)
  deriving DecidableEq, Repr

namespace Note

def record? : Note → Option Record
  | record r => some r
  | log _ => none

/-- Everything reported can be read in the log. -/
def line : Note → LogLine
  | record r => r.line
  | log line => line

end Note

/-- The records so far, oldest first. -/
structure Journal where
  records : List Record
  deriving DecidableEq, Repr

namespace Journal

def empty : Journal := ⟨[]⟩

def add (journal : Journal) (record : Record) : Journal := ⟨journal.records ++ [record]⟩

def size (journal : Journal) : Nat := journal.records.length

def isEmpty (journal : Journal) : Bool := journal.records.isEmpty

def count (journal : Journal) (severity : Severity) : Nat :=
  journal.records.countP fun record => record.severity == severity

@[simp] theorem records_add (journal : Journal) (record : Record) :
    (journal.add record).records = journal.records ++ [record] := rfl

end Journal

end FileClerk
