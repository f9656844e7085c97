import FileClerk.CommandLine.Help
import FileClerk.LogFilter
import FileClerk.Settings.Store
import FileClerk.Watch.Command

/-!
# The program

First the arguments are read and the settings loaded, which gives a job or ends the program. Then
the job is done: a command is interpreted, a watch is made ready, or something is shown. All of it
is an action, so it can be carried out on any disk; what it reports on the way is for the log.
-/

namespace FileClerk

namespace CommandLine

/-- How the program ends: its exit code, and what it writes besides the log. -/
structure Ending where
  code : Nat
  output : Text
  complaint : Text
  deriving DecidableEq, Repr

namespace Ending

/-- All went well. -/
def shown (output : Text) : Ending := ⟨0, output, []⟩

def failed (reason : Text) : Ending := ⟨1, [], "Error: ".toList ++ reason ++ ['\n']⟩

end Ending

/-- What is to be done, and with which settings. -/
structure Job where
  task : Task
  settings : Settings
  filter : LogFilter
  /-- What could not be read of the filter. -/
  complaint : Text

/-- What a job leads to. -/
inductive Result where
  | ended (ending : Ending)
  /-- The watch goes on until somebody ends it. -/
  | watching (watcher : Watch.Watcher)

/-- The variable that filters the log in place of the settings. -/
def filterVariable : Text := "RUST_LOG".toList

/-- The filter that settings ask for, as it is written. -/
def settingsFilter (logging : Settings.Logging) : Text :=
  logging.level ++ logging.modules.entries.flatMap fun e => ',' :: e.1 ++ '=' :: e.2

def filterText (environment : List (Text × Text)) (logging : Settings.Logging) : Text :=
  match environment.find? fun v => v.1 = filterVariable with
  | some v => v.2
  | none => settingsFilter logging

/-- The end of a program that was not asked for anything it can do. -/
def usageEnding (error : UsageError) : Ending :=
  if error.exitCode = 0 then .shown error.message else ⟨error.exitCode, [], error.message⟩

/-- The end of a program whose settings cannot be used. -/
def mistakeEnding (mistake : Settings.Mistake) : Ending :=
  ⟨2, [], "Configuration error: ".toList ++ mistake.message?.getD "malformed document".toList ++
    ['\n']⟩

/-- Reads arguments and settings. -/
def prepare (workingDirectory : Location) (environment : List (Text × Text)) (args : List Text) :
    Action (Except Ending Job) := do
  match Request.ofArguments args with
  | .error error => return .error (usageEnding error)
  | .ok request =>
    let loaded ← match request.config with
      | some path => Settings.loadFrom workingDirectory environment path
      | none => Settings.load workingDirectory environment
    match loaded with
    | .error mistake => return .error (mistakeEnding mistake)
    | .ok settings =>
      match LogFilter.ofText (filterText environment settings.logging) with
      | .error why => .crash why
      | .ok (filter, complaint) => return .ok ⟨request.task, settings, filter, complaint⟩

/-- Interprets words as one command, and tells whether nothing went wrong. -/
def runWords (workingDirectory : Location) (settings : Settings) (words : List Text)
    (root : Option Text) : Action Bool := do
  let root := root.getD (settings.root workingDirectory)
  let box := Sandbox.ofRoot workingDirectory.text root
  return (← box.interpret (Text.joinWith [' '] words)).isOk

/-- Reports a line in the log. -/
def logged (line : LogLine) : Action Unit := .note (.log line) (.done ())

/-- A text with the texts of the errors behind it. -/
def withCauses (text : Text) (causes : List Text) : Text :=
  Text.joinWith ": ".toList (text :: causes)

/-- Makes sure that there is a command file. -/
def ensureCommandFile (path : Text) : Action (Except Text Unit) := do
  if (← Action.call (.isPresent path)).toOption = some true then return .ok ()
  let parent := (Path.parent? path).filter (· ≠ [])
  let made : Except IoError Unit ← match parent with
    | none => pure (.ok ())
    | some parent => Action.call (.createDirectories parent)
  match made with
  | .error error =>
    return .error (withCauses ("cannot create directory ".toList ++ parent.getD []) error.texts)
  | .ok () =>
    match ← Action.call (.write path []) with
    | .error error =>
      return .error (withCauses ("cannot create command file ".toList ++ path) error.texts)
    | .ok () =>
      logged (.event .info .watchCommand "watcher" "created command file" (some path))
      return .ok ()

/-- The words for an error of a watch and what is behind it. -/
def failureText (doing : String) (error : Watch.WatchError) : Text :=
  withCauses doing.toList (error.message :: error.causes)

/-- What the poller says when a watch is set up. -/
def pollerLine : Text :=
  "registering event source with poller: token=Token(0), interests=READABLE".toList

/-- Makes a watch ready. -/
def startWatch (workingDirectory : Location) (settings : Settings) (file root : Option Text)
    (settle : Option UInt64) : Action (Except Text Watch.Watcher) := do
  let file := file.getD settings.commandFile
  match ← ensureCommandFile file with
  | .error reason => return .error reason
  | .ok () =>
    let setup := Watch.Setup.ofChoices
      [ .commandFile file,
        .root (root.getD (settings.root workingDirectory)),
        .settle (settle.getD settings.watching.settle),
        .capacity settings.watching.capacity ]
    match setup.build workingDirectory with
    | .error why => .crash why
    | .ok (.error error) => return .error (failureText "cannot start watcher" error)
    | .ok (.ok watcher) =>
      logged ⟨.trace, .poller, pollerLine⟩
      logged (.event .info .commandWatcher "watcher" "sandbox" (some watcher.box.root.text))
      logged ⟨.info, .watchCommand,
        "Write a command into ".toList ++ file ++ " (Ctrl-C to stop)".toList⟩
      logged ⟨.trace, .directoryWatch, "adding inotify watch: ".toList ++ watcher.directory.text⟩
      match ← watcher.obstacle? with
      | some error => return .error (failureText "watcher stopped" error)
      | none =>
        logged (.event .debug .commandWatcher "watcher" "watching" (some watcher.directory.text))
        logged (.event .info .changeLoop "watcher" "started" (some watcher.commandFile.text))
        return .ok watcher

/-- Writes a settings file with the defaults, in place of one that is there only by force. -/
def createSettings (force : Bool) : Action Ending := do
  let path := Settings.newFile
  let present := (← Action.call (.isPresent path)).toOption = some true
  if present ∧ ¬ force then
    return .failed ("Configuration file already exists at ".toList ++ path ++
      ". Use --force to overwrite".toList)
  match ← Settings.default.save path with
  | .error error => return .failed error.text
  | .ok () =>
    return .shown ("Created configuration file at: ".toList ++ path ++
      "\nEdit this file to customize your settings.\n".toList)

/-- What is shown of settings. -/
def settingsReport (settings : Settings) : Text :=
  "Current Configuration:\n".toList ++ List.replicate 50 '=' ++ '\n' :: settings.document ++ ['\n']

/-- Does a job. -/
def Job.action (job : Job) (workingDirectory : Location) : Action Result := do
  match job.task with
  | .verbs => return .ended (.shown Grammar.standard.help)
  | .config => return .ended (.shown (settingsReport job.settings))
  | .init force => return .ended (← createSettings force)
  | .run words root =>
    let ok ← runWords workingDirectory job.settings words root
    return .ended ⟨if ok then 0 else 1, [], []⟩
  | .watch file root settle =>
    match ← startWatch workingDirectory job.settings file root settle with
    | .ok watcher => return .watching watcher
    | .error reason => return .ended (.failed reason)

/-- The lines of the log that notes make, as far as a filter lets them through. -/
def logText (filter : LogFilter) (notes : List Note) : Text :=
  ((notes.map Note.line).filter filter.allows).flatMap fun line => line.text ++ ['\n']

/-- The exit code of a program that crashes. -/
def crashCode : Nat := 101

/-- Runs the program on a host. A watch that goes on counts as an end without anything to say. -/
def runOn (host : Host) (environment : List (Text × Text)) (args : List Text) : Ending × Host :=
  let place := host.workingDirectory
  let prepared := (prepare place environment args).run Host.answer host
  match prepared.result with
  | .error _ => (⟨crashCode, [], []⟩, prepared.state)
  | .ok (.error ending) => (ending, prepared.state)
  | .ok (.ok job) =>
    let done := (job.action place).run Host.answer prepared.state
    let log := logText job.filter done.notes
    let ending := match done.result with
      | .error _ => ⟨crashCode, log, job.complaint⟩
      | .ok (.ended e) => ⟨e.code, log ++ e.output, job.complaint ++ e.complaint⟩
      | .ok (.watching _) => ⟨0, log, job.complaint⟩
    (ending, done.state)

end CommandLine

end FileClerk
