import FileClerk.Datum
import FileClerk.Settings.Basic

/-!
# Settings from data

A setting that is mentioned has to be of its kind, and a number in its range; one that is not
mentioned has its default, and names that mean nothing are passed over. The parts of a compound
setting may be given by name or, in a sequence, by position. Of several mistakes the first counts:
names are looked at in their order, positions from the front.
-/

namespace FileClerk

namespace Settings

/-- What a setting has to be. -/
inductive Kind where
  | word32
  | word64
  | size
  | path
  | string
  | levels
  | watching
  | logging
  deriving DecidableEq, Repr

def Kind.words : Kind → Text
  | word32 => "u32".toList
  | word64 => "u64".toList
  | size => "usize".toList
  | path => "path string".toList
  | string => "a string".toList
  | levels => "a map".toList
  | watching => "struct WatchConfig".toList
  | logging => "struct LoggingConfig".toList

/-- Why settings could not be read. -/
inductive Mistake where
  /-- The file is not a document at all. -/
  | malformed
  /-- A datum of another kind than is wanted at a path of names. -/
  | wrongType (path : List Text) (found : Datum) (wanted : Kind)
  /-- A number that is too great or too small. -/
  | outOfRange (path : List Text) (found : Datum) (wanted : Kind)

namespace Mistake

/-- The mistake as seen from outside a name. -/
def under (key : Text) : Mistake → Mistake
  | malformed => malformed
  | wrongType path found wanted => wrongType (key :: path) found wanted
  | outOfRange path found wanted => outOfRange (key :: path) found wanted

/-- The name of the setting with the mistake. -/
def key : Mistake → Text
  | malformed => []
  | wrongType path _ _ | outOfRange path _ _ => Text.joinWith ['.'] path

/-- What is wrong; the ways in which a file is no document are not told apart. -/
def message? : Mistake → Option Text
  | malformed => none
  | wrongType _ found wanted =>
    some ("invalid type: found ".toList ++ found.description
      ++ ", expected ".toList ++ wanted.words)
  | outOfRange _ found wanted =>
    some ("invalid value ".toList ++ found.description
      ++ ", expected ".toList ++ wanted.words)

end Mistake

/-- A way to read a setting. -/
abbrev Read (α : Type) : Type := Datum → Except Mistake α

/-- Reads a whole number up to a limit. -/
def readNat (wanted : Kind) (limit : Nat) : Read Nat
  | .signed n =>
    if 0 ≤ n ∧ n ≤ limit then .ok n.toNat else .error (.outOfRange [] (.signed n) wanted)
  | .unsigned n => if n ≤ limit then .ok n else .error (.outOfRange [] (.unsigned n) wanted)
  | d => .error (.wrongType [] d wanted)

def readWord32 : Read UInt32 := fun d => (readNat .word32 0xFFFFFFFF d).map Nat.toUInt32

def readWord64 (wanted : Kind) : Read UInt64 := fun d =>
  (readNat wanted 0xFFFFFFFFFFFFFFFF d).map Nat.toUInt64

def readText (wanted : Kind) : Read Text
  | .text s => .ok s
  | d => .error (.wrongType [] d wanted)

/-- Reads a part that may be missing. -/
def part {α : Type} (key : Text) (found : Option Datum) (read : Read α) (default : α) :
    Except Mistake α :=
  match found with
  | none => .ok default
  | some d => (read d).mapError (·.under key)

def readWatching : Read Watching
  | .map entries => do
    let get (key : Text) := Keyed.get? key entries
    let capacityKey := "channel_capacity".toList
    let settleKey := "settle_ms".toList
    let capacity ← part capacityKey (get capacityKey) (readWord64 .size) default.watching.capacity
    let settle ← part settleKey (get settleKey) (readWord64 .word64) default.watching.settle
    return ⟨settle, capacity⟩
  | .sequence items => do
    let settle ← part ['0'] items[0]? (readWord64 .word64) default.watching.settle
    let capacity ← part ['1'] items[1]? (readWord64 .size) default.watching.capacity
    return ⟨settle, capacity⟩
  | d => .error (.wrongType [] d .watching)

def readLevels : Read ModuleLevels
  | .map entries => do
    let levels ← entries.mapM fun e => do
      return (e.1, ← (readText .string e.2).mapError (·.under e.1))
    return .ofList levels
  | d => .error (.wrongType [] d .levels)

def readLogging : Read Logging
  | .map entries => do
    let get (key : Text) := Keyed.get? key entries
    let levelKey := "default".toList
    let modulesKey := "modules".toList
    let level ← part levelKey (get levelKey) (readText .string) default.logging.level
    let modules ← part modulesKey (get modulesKey) readLevels default.logging.modules
    return ⟨level, modules⟩
  | .sequence items => do
    let level ← part ['0'] items[0]? (readText .string) default.logging.level
    let modules ← part ['1'] items[1]? readLevels default.logging.modules
    return ⟨level, modules⟩
  | d => .error (.wrongType [] d .logging)

/-- The settings that entries speak of. -/
def ofEntries (entries : Keyed Datum) : Except Mistake Settings := do
  let at_ {α : Type} (key : String) (read : Read α) (default : α) :=
    part key.toList (entries.get? key.toList) read default
  let commandFile ← at_ "command_file" (readText .path) default.commandFile
  let logging ← at_ "logging" readLogging default.logging
  let sandboxRoot ←
    at_ "sandbox_root" (fun d => (readText .path d).map some) default.sandboxRoot
  let version ← at_ "version" readWord32 default.version
  let watching ← at_ "watch" readWatching default.watching
  return { version, commandFile, sandboxRoot, watching, logging }

end Settings

end FileClerk
