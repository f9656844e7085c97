import FileClerk.Number.Numeral

/-!
# Arguments

The words of a command line name a task, its options and, for a command to run, its words. Options
may stand anywhere and be long or short; short ones may stand together, and a value may be attached.
A value that is still awaited takes the next word, unless that looks like an option. Of several
mistakes the first one noticed counts: a value is looked at when the next option begins, when a word
follows it, or at the end.
-/

namespace FileClerk

namespace CommandLine

/-- What the program can be asked to do. -/
inductive Task where
  | watch (file root : Option Text) (settle : Option UInt64)
  | run (words : List Text) (root : Option Text)
  | verbs
  | init (force : Bool)
  | config
  deriving DecidableEq, Repr

structure Request where
  /-- The settings file to use in place of the usual one. -/
  config : Option Text
  task : Task
  deriving DecidableEq, Repr

inductive TaskName where
  | watch
  | run
  | verbs
  | init
  | config
  deriving DecidableEq, Repr

def TaskName.ofText? (s : Text) : Option TaskName :=
  if s = "watch".toList then some watch
  else if s = "run".toList then some run
  else if s = "verbs".toList then some verbs
  else if s = "init".toList then some init
  else if s = "config".toList then some config
  else none

/-- What help can be about: the program, a task, or help itself. -/
inductive Topic where
  | program
  | task (name : TaskName)
  | help
  deriving DecidableEq, Repr

namespace Topic

def ofTask : Option TaskName → Topic
  | none => program
  | some name => task name

def ofText? (s : Text) : Option Topic :=
  if s = "help".toList then some help else (TaskName.ofText? s).map task

end Topic

/-- Why a command line asks for nothing that can be done. -/
inductive UsageError where
  /-- Help is asked for, in full or in short. -/
  | help (topic : Topic) (full : Bool)
  | version
  /-- Nothing was asked, so help is shown. -/
  | nothingAsked
  | missingTask
  | unknownTask
  | unknownArgument
  | missingWords
  | missingValue
  | invalidNumber
  | repeated
  | needlessValue
  deriving DecidableEq, Repr

/-- The exit code: help and version are answers, all else is wrong use. -/
def UsageError.exitCode : UsageError → Nat
  | help _ _ | version => 0
  | _ => 2

inductive Flag where
  | config
  | file
  | root
  | settle
  | force
  | help
  | version
  deriving DecidableEq, Repr

namespace Flag

def takesValue : Flag → Bool
  | config | file | root | settle => true
  | force | help | version => false

def long : Flag → Text
  | config => "config".toList
  | file => "file".toList
  | root => "root".toList
  | settle => "settle-ms".toList
  | force => "force".toList
  | help => "help".toList
  | version => "version".toList

def short? : Flag → Option Char
  | config => some 'c'
  | file => some 'f'
  | root => some 'r'
  | settle => none
  | force => some 'f'
  | help => some 'h'
  | version => some 'V'

/-- The options of a task, or of the program before any task. -/
def known : Option TaskName → List Flag
  | none => [config, help, version]
  | some .watch => [config, file, root, settle, help]
  | some .run => [config, root, help]
  | some .init => [config, force, help]
  | some .verbs | some .config => [config, help]

/-- Whether a value will do; a path may not be empty. -/
def check (flag : Flag) (value : Text) : Except UsageError Unit :=
  match flag with
  | settle => if (Numeral.unsigned64? value).isSome then .ok () else .error .invalidNumber
  | config | file | root => if value = [] then .error .missingValue else .ok ()
  | force | help | version => .ok ()

end Flag

/-- What has been read so far. -/
structure Collected where
  /-- An option that has not been looked at yet, with its value if that has come. -/
  pending : Option (Flag × Option Text)
  given : List (Flag × Text)
  words : List Text
  /-- After two dashes all that follows are words. -/
  onlyWords : Bool

namespace Collected

def empty : Collected := ⟨none, [], [], false⟩

def value? (c : Collected) (flag : Flag) : Option Text :=
  (c.given.find? fun g => g.1 = flag).map (·.2)

/-- Takes an option that is complete; none may be given twice. -/
def take (c : Collected) (flag : Flag) (value : Text) : Except UsageError Collected := do
  if (c.value? flag).isSome then throw .repeated
  flag.check value
  return { c with given := c.given ++ [(flag, value)] }

/-- Looks at the option that is pending. -/
def settled (c : Collected) : Except UsageError Collected :=
  match c.pending with
  | none => .ok c
  | some (_, none) => .error .missingValue
  | some (flag, some value) => { c with pending := none }.take flag value

/-- Takes an option that has an attached value, or none. Long help is full help. -/
def flagged (c : Collected) (task : Option TaskName) (isLong : Bool) (flag : Flag) (value : Text) :
    Except UsageError Collected := do
  let c ← c.settled
  match flag with
  | .help => throw (.help (.ofTask task) isLong)
  | .version => throw .version
  | flag => c.take flag value

/-- Begins an option whose value is the next word. -/
def await (c : Collected) (flag : Flag) : Except UsageError Collected := do
  return { ← c.settled with pending := some (flag, none) }

/-- Reads a long option after its two dashes. -/
def long (c : Collected) (task : Option TaskName) (s : Text) : Except UsageError Collected :=
  let (name, attached) := match Text.splitOnce? s ['='] with
    | some (name, value) => (name, some value)
    | none => (s, none)
  match (Flag.known task).find? fun flag => flag.long = name with
  | none => .error .unknownArgument
  | some flag =>
    match flag.takesValue, attached with
    | true, some value => c.flagged task true flag value
    | true, none => c.await flag
    | false, some _ => .error .needlessValue
    | false, none => c.flagged task true flag []

/-- Reads short options that stand together. -/
def short (c : Collected) (task : Option TaskName) : Text → Except UsageError Collected
  | [] => .ok c
  | letter :: rest =>
    match (Flag.known task).find? fun flag => flag.short? = some letter with
    | none => .error .unknownArgument
    | some flag =>
      if flag.takesValue then
        match rest with
        | [] => c.await flag
        | '=' :: value => c.flagged task false flag value
        | value => c.flagged task false flag value
      else
        match c.flagged task false flag [] with
        | .ok c => c.short task rest
        | .error e => .error e

/-- Reads a word that is no option: the value that is awaited, or one for the task. -/
def word (c : Collected) (task : Option TaskName) (s : Text) : Except UsageError Collected :=
  match c.pending, c.onlyWords with
  | some (flag, none), false => .ok { c with pending := some (flag, some s) }
  | _, _ =>
    match task with
    | some .run => do
      let c ← c.settled
      return { c with words := c.words ++ [s] }
    | some _ => .error .unknownArgument
    | none =>
      .error (if c.onlyWords ∧ (Topic.ofText? s).isSome then .unknownArgument else .unknownTask)

/-- Reads one argument. -/
def read (c : Collected) (task : Option TaskName) (s : Text) : Except UsageError Collected :=
  if c.onlyWords then c.word task s
  else
    match s with
    | ['-', '-'] => .ok { c with onlyWords := true }
    | '-' :: '-' :: s => c.long task s
    | '-' :: letter :: s => c.short task (letter :: s)
    | s => c.word task s

/-- Whether the next word would be the value of an option. -/
def awaits (c : Collected) : Bool :=
  match c.pending with
  | some (_, none) => true
  | _ => false

/-- What the options and words of a task ask for. -/
def task (c : Collected) : TaskName → Except UsageError Task
  | .watch =>
    let settle := (c.value? .settle).bind Numeral.unsigned64?
    .ok (.watch (c.value? .file) (c.value? .root) (settle.map Nat.toUInt64))
  | .run => if c.words = [] then .error .missingWords else .ok (.run c.words (c.value? .root))
  | .verbs => .ok .verbs
  | .init => .ok (.init (c.value? .force).isSome)
  | .config => .ok .config

end Collected

/-- Reads what follows the word `help`: nothing, or the name of a task. -/
def askedHelp : List Text → UsageError
  | [] => .help .program true
  | [s] =>
    match Topic.ofText? s with
    | some topic => .help topic true
    | none => .unknownTask
  | _ => .unknownTask

/-- Reads the arguments of a task. An option that every task has counts here before it counts in
front of the task. -/
def readTask (before : Collected) (name : TaskName) (args : List Text) :
    Except UsageError Request := do
  let c ← args.foldlM (fun (c : Collected) s => c.read (some name) s) .empty
  let c ← c.settled
  let task ← c.task name
  let before ← before.settled
  return ⟨(c.value? .config).or (before.value? .config), task⟩

/-- Reads arguments up to the name of a task. -/
def readArguments (c : Collected) : List Text → Except UsageError Request
  | [] => do
    let c ← c.settled
    throw (if c.given = [] then .nothingAsked else .missingTask)
  | s :: args =>
    if c.onlyWords ∨ c.awaits then
      match c.read none s with
      | .ok c => readArguments c args
      | .error e => .error e
    else if s = "help".toList then .error (askedHelp args)
    else
      match TaskName.ofText? s with
      | some name => readTask c name args
      | none =>
        match c.read none s with
        | .ok c => readArguments c args
        | .error e => .error e

/-- What the arguments of the program ask for. -/
def Request.ofArguments (args : List Text) : Except UsageError Request :=
  readArguments .empty args

end CommandLine

end FileClerk
