import FileClerk.Disk.Call
import FileClerk.Journal

/-!
# Actions

An action is what the program does, step by step, without a disk to do it on: it asks a call and
goes on with whatever is answered, it reports a note, and at last it is done with a result, or the
program crashes. `Action.run` carries an action out on anything that answers calls and keeps the
steps it took; `Action.Runs` relates an action to every run it could have, whatever is answered.
-/

namespace FileClerk

/-- What ends the program on the spot. -/
inductive Crash where
  /-- A time of which the calendar has no date. -/
  | timeOutOfRange
  /-- A channel without a place. -/
  | channelEmpty
  /-- A channel with more places than a channel may have. -/
  | channelTooLarge
  /-- A text cut after an octet at which no character ends. -/
  | cutCharacter
  deriving DecidableEq, Repr

inductive Action (α : Type) where
  | done (result : α)
  | crash (why : Crash)
  | ask (call : Call) (next : call.Answer → Action α)
  | note (n : Note) (next : Action α)

/-- A step of a run. -/
inductive Event where
  | called (call : Call) (answer : call.Answer)
  | noted (n : Note)

namespace Event

def call? : Event → Option Call
  | called call _ => some call
  | noted _ => none

def note? : Event → Option Note
  | called _ _ => none
  | noted n => some n

end Event

/-- How a run ended and the steps that led there. -/
structure Run (σ α : Type) where
  events : List Event
  result : Except Crash α
  state : σ

namespace Run

variable {σ α : Type}

def calls (run : Run σ α) : List Call := run.events.filterMap Event.call?

def notes (run : Run σ α) : List Note := run.events.filterMap Event.note?

def records (run : Run σ α) : List Record := run.notes.filterMap Note.record?

end Run

/-- Anything that answers calls; a call may change the state it answers from. -/
abbrev Answering (σ : Type) : Type := (call : Call) → σ → call.Answer × σ

namespace Action

variable {α β : Type}

def bind (action : Action α) (next : α → Action β) : Action β :=
  match action with
  | done a => next a
  | crash why => crash why
  | ask call rest => ask call fun answer => (rest answer).bind next
  | note n rest => note n (rest.bind next)

instance : Monad Action where
  pure := done
  bind := bind

/-- Asks one call and gives its answer. -/
def call (c : Call) : Action c.Answer := .ask c .done

/-- Carries an action out. -/
def run {σ : Type} (answering : Answering σ) : Action α → σ → Run σ α
  | done a, s => ⟨[], .ok a, s⟩
  | crash why, s => ⟨[], .error why, s⟩
  | ask call next, s =>
    let (answer, s') := answering call s
    let rest := run answering (next answer) s'
    ⟨.called call answer :: rest.events, rest.result, rest.state⟩
  | note n next, s =>
    let rest := run answering next s
    ⟨.noted n :: rest.events, rest.result, rest.state⟩

/-- The runs an action could have when nothing is known about the answers. -/
inductive Runs : Action α → List Event → Except Crash α → Prop where
  | done (a : α) : Runs (done a) [] (.ok a)
  | crash (why : Crash) : Runs (crash why) [] (.error why)
  | ask {call : Call} {next : call.Answer → Action α} (answer : call.Answer) {events result} :
    Runs (next answer) events result → Runs (ask call next) (.called call answer :: events) result
  | note {n : Note} {next : Action α} {events result} :
    Runs next events result → Runs (note n next) (.noted n :: events) result

/-- Carrying an action out gives one of its runs. -/
theorem runs_run {σ : Type} (answering : Answering σ) :
    ∀ (action : Action α) (s : σ),
      Runs action (action.run answering s).events (action.run answering s).result
  | .done a, _ => .done a
  | .crash why, _ => .crash why
  | .ask call next, s => .ask _ (runs_run answering (next (answering call s).1) _)
  | .note _ next, s => .note (runs_run answering next s)

end Action

end FileClerk
