import FileClerk.Watch.Debouncer

/-!
# The run loop of a watch

Notifications of changes wait in a mailbox of limited size; one that finds it full is dropped. The
loop receives them one by one, restarting its quiet timer each time. When the timer has run out and
the last change has settled, a cycle begins; after it the mailbox is emptied, one notification at a
time, before the loop listens again. Once the mailbox is closed and empty, a change still held back
gets one last cycle, and the loop stops.

`Machine.step?` says which signals may come next and what each of them does; what the cycles do
plays no part in it. Notifications may come between any two of the others, also while the mailbox is
being emptied.
-/

namespace FileClerk

namespace Watch

structure Mailbox where
  capacity : Nat
  queued : Nat
  isOpen : Bool
  deriving DecidableEq, Repr

namespace Mailbox

/-- A mailbox has at least one place. -/
def new (capacity : Nat) : Mailbox := ⟨max capacity 1, 0, true⟩

def isFull (mailbox : Mailbox) : Bool := mailbox.capacity ≤ mailbox.queued

/-- A notification that finds no place is dropped. -/
def offer (mailbox : Mailbox) : Mailbox :=
  if mailbox.isFull then mailbox else { mailbox with queued := mailbox.queued + 1 }

def take? (mailbox : Mailbox) : Option Mailbox :=
  match mailbox.queued with
  | 0 => none
  | n + 1 => some { mailbox with queued := n }

def close (mailbox : Mailbox) : Mailbox := { mailbox with isOpen := false }

end Mailbox

inductive Stage where
  | listening
  /-- A cycle runs; the last one is followed by the end of the loop. -/
  | cycling (last : Bool)
  /-- A cycle has ended, and the mailbox is being emptied. -/
  | draining
  | stopped
  deriving DecidableEq, Repr

/-- What may happen next, and when. -/
inductive Signal where
  | arrival
  | closing
  | receipt (now : Nat)
  | quiet (now : Nat)
  | finished
  /-- A notification is thrown away. -/
  | discard
  /-- Nothing is left to throw away. -/
  | drained (now : Nat)
  | ending
  deriving DecidableEq, Repr

structure Machine where
  mailbox : Mailbox
  debouncer : Debouncer
  stage : Stage
  /-- When the quiet timer was last started. -/
  armed : Nat
  deriving DecidableEq, Repr

namespace Machine

/-- The quiet timer never runs for less than this. -/
def minimumTick : Nat := 10

def new (settle capacity start : Nat) : Machine :=
  ⟨.new capacity, .new settle, .listening, start⟩

def tick (m : Machine) : Nat := max m.debouncer.settle minimumTick

/-- When the quiet timer runs out. -/
def deadline (m : Machine) : Nat := m.armed + m.tick

/-- The machine after a signal, if the signal can come now. -/
def step? (m : Machine) : Signal → Option Machine
  | .arrival => if m.mailbox.isOpen then some { m with mailbox := m.mailbox.offer } else none
  | .closing => if m.mailbox.isOpen then some { m with mailbox := m.mailbox.close } else none
  | .receipt now =>
    match m.stage, m.mailbox.take? with
    | .listening, some mailbox =>
      some { m with mailbox := mailbox, debouncer := m.debouncer.record now, armed := now }
    | _, _ => none
  | .quiet now =>
    if m.stage = .listening ∧ m.deadline ≤ now then
      let (ready, debouncer) := m.debouncer.takeReady now
      some { m with
        debouncer := debouncer
        stage := if ready then .cycling false else .listening
        armed := now }
    else none
  | .finished =>
    match m.stage with
    | .cycling last => some { m with stage := if last then .stopped else .draining }
    | _ => none
  | .discard =>
    match m.stage, m.mailbox.take? with
    | .draining, some mailbox => some { m with mailbox := mailbox }
    | _, _ => none
  | .drained now =>
    if m.stage = .draining ∧ m.mailbox.queued = 0 then
      some { m with stage := .listening, armed := now }
    else none
  | .ending =>
    if m.stage = .listening ∧ m.mailbox.queued = 0 ∧ m.mailbox.isOpen = false then
      let (pending, debouncer) := m.debouncer.flush
      some { m with
        debouncer := debouncer
        stage := if pending then .cycling true else .stopped }
    else none

/-- The machine after some signals; one that cannot come is lost. -/
def after (m : Machine) (signals : List Signal) : Machine :=
  signals.foldl (fun m s => (m.step? s).getD m) m

/-- The signals that follow a cycle's work if no notification comes any more. -/
def conclusion (m : Machine) (now : Nat) : List Signal :=
  .finished :: (List.replicate m.mailbox.queued .discard ++ [.drained now])

end Machine

end Watch

end FileClerk
