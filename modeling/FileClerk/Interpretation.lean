import FileClerk.Command.Parser
import FileClerk.Execution

/-!
# Interpreting a command

A command text is parsed, carried out and reported. Each outcome takes one record. A refused text
takes one record too, and the list of usages after it if its verb was not known.
-/

namespace FileClerk

/-- What became of a command text. -/
inductive Interpretation where
  | executed (operation : Operation) (outcome : Outcome)
  | rejected (refusal : Refusal)
  deriving DecidableEq, Repr

namespace Interpretation

/-- Nothing went wrong; a skipped operation is fine. -/
def isOk : Interpretation → Bool
  | executed _ outcome => !outcome.isFailure
  | rejected _ => false

def isRejected : Interpretation → Bool
  | executed _ _ => false
  | rejected _ => true

def outcomeRecord (operation : Operation) : Outcome → Record
  | .success message => ⟨.success, message⟩
  | .skipped message => ⟨.warning, message⟩
  | .failed failure =>
    .failure (operation.name ++ " failed".toList) (failure.message :: failure.causes)

/-- The records of a refused command. -/
def refusalRecords (grammar : Grammar) (refusal : Refusal) : List Record :=
  .failure "could not parse command".toList [refusal.message] ::
    if refusal.reason = .unknown then [⟨.info, grammar.availableCommands⟩] else []

end Interpretation

namespace Action

variable {α : Type}

/-- Reports records one after the other. -/
def report (records : List Record) (next : Action α) : Action α :=
  records.foldr (fun record rest => .note (.record record) rest) next

end Action

namespace Sandbox

open Interpretation

/-- The log line that names a command once it is understood. -/
def parsedLine (operation : Operation) : LogLine :=
  .event .debug .interpreter "command" "parsed" operation.text

def interpret (box : Sandbox) (raw : Text) : Action Interpretation :=
  match Grammar.standard.parse raw with
  | .error refusal => .report (refusalRecords .standard refusal) (.done (.rejected refusal))
  | .ok operation =>
    .note (.log (parsedLine operation)) <|
    (operation.execute box).bind fun outcome =>
    .report [outcomeRecord operation outcome] (.done (.executed operation outcome))

end Sandbox

end FileClerk
