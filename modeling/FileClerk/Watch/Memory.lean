import FileClerk.Text.Basic

/-!
# What a watch remembers

Between two cycles a watch remembers the octets of the last command it accepted, so that it does not
carry the same command out twice. While a cycle runs no other may begin.
-/

namespace FileClerk

namespace Watch

inductive Phase where
  | idle
  | processing
  deriving DecidableEq, Repr

structure Memory where
  phase : Phase
  lastSeen : Option Bytes
  deriving DecidableEq, Repr

namespace Memory

def new : Memory := ⟨.idle, none⟩

/-- Enters a cycle, unless one is running. -/
def begin? (memory : Memory) : Option Memory :=
  match memory.phase with
  | .idle => some { memory with phase := .processing }
  | .processing => none

def finish (memory : Memory) : Memory := { memory with phase := .idle }

/-- Octet for octet the command accepted last. -/
def isDuplicate (memory : Memory) (snapshot : Bytes) : Bool := memory.lastSeen == some snapshot

def accept (memory : Memory) (snapshot : Bytes) : Memory :=
  { memory with lastSeen := some snapshot }

end Memory

end Watch

end FileClerk
