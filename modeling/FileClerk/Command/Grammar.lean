import FileClerk.Command.Operation
import FileClerk.Command.Refusal
import FileClerk.Text.Blank

/-!
# Grammars

A grammar lists verb phrases. Each phrase comes with a rule that reads the operation's arguments
from the text after it. Phrases are tried longest first, and in the order they were given among
equally long ones, so a phrase that begins another never hides it.
-/

namespace FileClerk

/-- How the text after a phrase becomes arguments. -/
inductive Rule where
  /-- The text, trimmed, is the path. -/
  | path (build : Text → Operation)
  /-- The text, trimmed, is the path; nothing means `default`. -/
  | optionalPath (default : Text) (build : Text → Operation)
  /-- Two paths, trimmed, on either side of the first `separator`. -/
  | twoPaths (separator : Text) (malformed : Refusal.Reason) (build : Text → Text → Operation)
  /-- A trimmed path, the first `separator`, and a payload kept as it is. -/
  | pathAndPayload (separator : Text) (malformed : Refusal.Reason)
      (build : Text → Text → Operation)

namespace Rule

/-- A payload may end in white space, so its rule reads the text before it is trimmed. -/
def keepsTail : Rule → Bool
  | pathAndPayload .. => true
  | _ => false

/-- Reads the arguments from `rest`; a refusal names `raw`, the whole command. -/
def apply (rule : Rule) (rest raw : Text) : Except Refusal Operation :=
  match rule with
  | path build => .ok (build rest.trim)
  | optionalPath default build =>
    let given := rest.trim
    .ok (build (if given = [] then default else given))
  | twoPaths separator malformed build =>
    match rest.splitOnce? separator with
    | some (left, right) => .ok (build left.trim right.trim)
    | none => .error ⟨raw, malformed⟩
  | pathAndPayload separator malformed build =>
    match rest.splitOnce? separator with
    | some (left, payload) => .ok (build left.trim payload)
    | none => .error ⟨raw, malformed⟩

end Rule

structure Phrase where
  words : Text
  usage : Text
  rule : Rule

namespace Phrase

/-- The text after the phrase, if the input starts with it and it ends there or before a blank. -/
def strip? (phrase : Phrase) (input : Text) : Option Text :=
  match phrase.words.isPrefixOf? input with
  | some [] => some []
  | some (c :: rest) => if isBlank c then some (c :: rest) else none
  | none => none

end Phrase

/-- Phrases in the order in which they are tried. -/
structure Grammar where
  phrases : List Phrase

namespace Grammar

/-- Orders phrases by length in octets, longest first. -/
def ofPhrases (phrases : List Phrase) : Grammar :=
  ⟨phrases.mergeSort fun a b => b.words.octets ≤ a.words.octets⟩

/-- The first phrase that the input starts with, and the text after it. -/
def find? (grammar : Grammar) (input : Text) : Option (Phrase × Text) :=
  grammar.phrases.findSome? fun phrase => (phrase.strip? input).map (phrase, ·)

/-- The usages one below the other, each after two spaces. -/
def usageLines (grammar : Grammar) : Text :=
  grammar.phrases.flatMap fun phrase => "\n  ".toList ++ phrase.usage

/-- The answer to an unknown command. -/
def availableCommands (grammar : Grammar) : Text :=
  "available commands:".toList ++ grammar.usageLines

/-- The help text on the recognized commands. -/
def help (grammar : Grammar) : Text :=
  "Recognized commands:".toList ++ grammar.usageLines ++ ['\n']

def pathSeparator : Text := " to ".toList

def contentSeparator : Text := " this content: ".toList

/-- The eight phrases of the command file. -/
def standardPhrases : List Phrase :=
  [ ⟨"create a file".toList, "create a file <path>".toList, .path .create⟩,
    ⟨"delete the file".toList, "delete the file <path>".toList, .path .delete⟩,
    ⟨"rename the file".toList, "rename the file <old> to <new>".toList,
      .twoPaths pathSeparator .malformedRename .rename⟩,
    ⟨"add to the file".toList, "add to the file <path> this content: <text>".toList,
      .pathAndPayload contentSeparator .malformedAppend .append⟩,
    ⟨"read the file".toList, "read the file <path>".toList, .path .read⟩,
    ⟨"copy the file".toList, "copy the file <src> to <dest>".toList,
      .twoPaths pathSeparator .malformedCopy .copy⟩,
    ⟨"list the directory".toList, "list the directory [path]".toList,
      .optionalPath ['.'] .list⟩,
    ⟨"file info".toList, "file info <path>".toList, .path .info⟩ ]

def standard : Grammar := ofPhrases standardPhrases

end Grammar

end FileClerk
