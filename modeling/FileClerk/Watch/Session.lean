import FileClerk.Watch.ChangeLoop
import FileClerk.Watch.Listener
import FileClerk.Watch.Machine

/-!
# A watch at work

A session lets the run loop of a watch work on a host while time passes, in milliseconds. Changes
from outside and notifications come at the present time; waiting lets the quiet timer run out as
often as it does in the time waited. Whatever the cycles report is kept.
-/

namespace FileClerk

namespace Watch

structure Session where
  host : Host
  listener : Listener
  loop : ChangeLoop
  machine : Machine
  clock : Nat
  notes : List Note
  crashed : Option Crash

namespace Session

def start (host : Host) (listener : Listener) (loop : ChangeLoop) (settle capacity : Nat) :
    Session :=
  ⟨host, listener, loop, .new settle capacity 0, 0, [], none⟩

def records (s : Session) : List Record := s.notes.filterMap Note.record?

/-- Sends some signals; one that cannot come is lost. -/
def signal (s : Session) (signals : List Signal) : Session :=
  { s with machine := s.machine.after signals }

/-- Carries out the cycle that has begun, if one has, ends it and empties the mailbox. -/
def cycle (s : Session) : Session :=
  match s.machine.stage with
  | .cycling _ =>
    let run := s.loop.onChange.run Listener.answer (s.host, s.listener)
    let s := { s with
      host := run.state.1
      listener := run.state.2
      notes := s.notes ++ run.notes }
    match run.result with
    | .ok (_, loop) => { s with loop := loop }.signal (s.machine.conclusion s.clock)
    | .error why => { s with crashed := some why }
  | _ => s

/-- A notification that is received at once. -/
def notify (s : Session) : Session := s.signal [.arrival, .receipt s.clock]

/-- Lets time pass up to a limit, or until so many records are there. Each turn lets the quiet
timer run out once. -/
def waitFor (s : Session) (limit : Nat) (enough : Option Nat) : Nat → Session
  | 0 => s
  | turns + 1 =>
    if enough.any fun n => n ≤ s.records.length then s
    else if s.machine.deadline ≤ limit then
      let now := max s.clock s.machine.deadline
      ({ s with clock := now }.signal [.quiet now]).cycle.waitFor limit enough turns
    else { s with clock := max s.clock limit }

/-- Waits so many milliseconds. -/
def wait (s : Session) (time : Nat) : Session := s.waitFor (s.clock + time) none (time + 1)

/-- Waits until the journal holds so many records, but no longer than a limit. -/
def waitForRecords (s : Session) (count limit : Nat) : Session :=
  s.waitFor (s.clock + limit) (some count) (limit + 1)

/-- Makes a change from outside, and notifies the loop if the listener hears of it. -/
def change (s : Session) (change : Change) : Session :=
  let heard := s.listener.hears s.host change
  let s := { s with
    host := s.host.apply change
    listener := s.listener.afterChange s.host change }
  if heard then s.notify else s

/-- Closes the mailbox and lets the loop come to its end. -/
def close (s : Session) : Session := (s.signal [.closing, .ending]).cycle

end Session

end Watch

end FileClerk
