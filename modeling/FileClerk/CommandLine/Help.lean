import FileClerk.CommandLine.Arguments

/-!
# Help

What the program tells about its use. A help text says what its topic is for and how it is called,
lists tasks, words and options, each explained on a line of its own, and may end with examples. Full
help differs from short help only for the program as a whole.
-/

namespace FileClerk

namespace CommandLine

/-- An item of a list, explained on the line below it. -/
def explained (item about : Text) : Text :=
  "  ".toList ++ item ++ '\n' :: List.replicate 10 ' ' ++ about

/-- A list under a heading; `gap` stands between its items. -/
def listed (heading : String) (gap : Text) (items : List Text) : List Text :=
  if items = [] then []
  else [heading.toList ++ ":\n".toList ++ Text.joinWith gap items]

namespace Flag

/-- What the value of an option is called. -/
def valueName? : Flag → Option Text
  | config => some "CONFIG".toList
  | file => some "PATH".toList
  | root => some "DIR".toList
  | settle => some "MS".toList
  | force | help | version => none

/-- An option as it is written, the short form first. -/
def usage (flag : Flag) : Text :=
  (match flag.short? with
    | some letter => ['-', letter, ',', ' ']
    | none => "    ".toList) ++
  "--".toList ++ flag.long ++
  (match flag.valueName? with
    | some name => " <".toList ++ name ++ ['>']
    | none => [])

def about : Flag → Text
  | config => "Path to custom settings.toml file".toList
  | file => "Command file to watch (overrides config)".toList
  | root =>
    "Sandbox root directory (overrides config, defaults to the current directory)".toList
  | settle => "Quiet period in milliseconds before acting on a change (overrides config)".toList
  | force => "Force overwrite existing configuration".toList
  | help => "Print help".toList
  | version => "Print version".toList

end Flag

namespace TaskName

def all : List TaskName := [watch, run, verbs, init, config]

def text : TaskName → Text
  | watch => "watch".toList
  | run => "run".toList
  | verbs => "verbs".toList
  | init => "init".toList
  | config => "config".toList

def about : TaskName → Text
  | watch => "Watch the command file and execute each command written to it".toList
  | run => "Parse and execute one command".toList
  | verbs => "List the command phrases the interpreter understands".toList
  | init => "Set up .cmdwatch directory with default configuration".toList
  | config => "Display active settings".toList

end TaskName

namespace Topic

def aboutHelp : Text := "Print this message or the help of the given subcommand(s)".toList

def about (full : Bool) : Topic → Text
  | program =>
    if full then
      "Watch a command file and execute each command written to it against a ".toList ++
        "sandboxed directory tree.".toList
    else "Execute file-system commands written to a watched text file".toList
  | task name => name.about
  | help => aboutHelp

/-- How a topic is called, after the name of the program. -/
def usage : Topic → Text
  | program => "[OPTIONS] <COMMAND>".toList
  | task .run => "run [OPTIONS] <COMMAND>...".toList
  | task name => name.text ++ " [OPTIONS]".toList
  | help => "help [COMMAND]...".toList

def words : Topic → List Text
  | program => []
  | task .run =>
    [explained "<COMMAND>...".toList "Command text; multiple words are joined with spaces".toList]
  | task _ => []
  | help => [explained "[COMMAND]...".toList "Print help for the subcommand(s)".toList]

def tasks : Topic → List Text
  | program =>
    (TaskName.all.map fun name => explained name.text name.about) ++
      [explained "help".toList aboutHelp]
  | _ => []

/-- What the option for help says of itself; the program has help in two lengths. -/
def aboutFlag (topic : Topic) (full : Bool) (flag : Flag) : Text :=
  if topic = program ∧ flag = .help then
    (if full then "Print help (see a summary with '-h')" else "Print help (see more with '--help')")
      |>.toList
  else flag.about

def options (full : Bool) (topic : Topic) : List Text :=
  let flags := match topic with
    | program => Flag.known none
    | task name => Flag.known (some name)
    | help => []
  flags.map fun flag => explained flag.usage (topic.aboutFlag full flag)

def examples : Topic → List Text
  | task .watch =>
    ["Examples:\n  cmdwatch watch\n".toList ++
      "  cmdwatch watch --file inbox/command.txt --root ./workspace\n\n".toList ++
      "Then write a command into the file, e.g.:\n".toList ++
      "  echo 'create a file notes/todo.txt' > command.txt".toList]
  | task .run =>
    ["Examples:\n  cmdwatch run create a file notes/todo.txt\n".toList ++
      "  cmdwatch run 'add to the file notes/todo.txt this content: buy milk'".toList]
  | _ => []

/-- The help text of a topic. -/
def text (topic : Topic) (full : Bool) : Text :=
  let optionGap := if topic = program ∧ full then ['\n', '\n'] else ['\n']
  Text.joinWith ['\n', '\n']
    ([topic.about full, "Usage: cmdwatch ".toList ++ topic.usage] ++
      listed "Commands" ['\n'] topic.tasks ++ listed "Arguments" ['\n'] topic.words ++
      listed "Options" optionGap (topic.options full) ++ topic.examples) ++ ['\n']

end Topic

/-- What is said of wrong use. -/
def UsageError.message : UsageError → Text
  | help topic full => topic.text full
  | version => "cmdwatch 0.1.0\n".toList
  | nothingAsked => Topic.program.text false
  | error => "error: ".toList ++ reason error ++ "\n\nFor more information, try '--help'.\n".toList
where
  reason : UsageError → Text
    | missingTask => "'cmdwatch' requires a subcommand but one was not provided".toList
    | unknownTask => "unrecognized subcommand".toList
    | unknownArgument => "unexpected argument found".toList
    | missingWords => "the following required arguments were not provided: <COMMAND>...".toList
    | missingValue => "a value is required for an option but none was supplied".toList
    | invalidNumber => "invalid value for '--settle-ms <MS>'".toList
    | repeated => "an argument cannot be used multiple times".toList
    | needlessValue => "unexpected value for an option found; no more were expected".toList
    | help _ _ | version | nothingAsked => []

end CommandLine

end FileClerk
