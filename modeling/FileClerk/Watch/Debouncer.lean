/-!
# Settling of changes

Saving a file once makes several changes in a row. The debouncer holds a change back until nothing
has happened for the settling time. It is told the time with every question, in milliseconds.
-/

namespace FileClerk

namespace Watch

structure Debouncer where
  settle : Nat
  /-- When the last change came that has not been reported. -/
  pending : Option Nat
  deriving DecidableEq, Repr

namespace Debouncer

def new (settle : Nat) : Debouncer := ⟨settle, none⟩

def record (d : Debouncer) (now : Nat) : Debouncer := { d with pending := some now }

/-- Reports a change, once, if it has settled. -/
def takeReady (d : Debouncer) (now : Nat) : Bool × Debouncer :=
  match d.pending with
  | some last => if d.settle ≤ now - last then (true, { d with pending := none }) else (false, d)
  | none => (false, d)

/-- Reports a change, once, settled or not. -/
def flush (d : Debouncer) : Bool × Debouncer := (d.pending.isSome, { d with pending := none })

def hasPending (d : Debouncer) : Bool := d.pending.isSome

end Debouncer

end Watch

end FileClerk
