import MiniKernel.Word

/-!
The queue of the slots that wait for the processor, first come first served. A slot waits at most
once; a flag for each slot tells whether it does.
-/

namespace MiniKernel

structure ReadyQueue where
  waiting : List Nat
  /-- For each slot of the table, whether it waits. -/
  queued : Array Bool
  deriving DecidableEq, Repr

namespace ReadyQueue

def empty (capacity : Nat) : ReadyQueue := ⟨[], Array.replicate capacity false⟩

def entryBytes : Nat := 16

def create (capacity : Nat) : Except Trap ReadyQueue :=
  if capacity = 0 then .error .emptyCapacity
  else (Word.buffer capacity entryBytes).map fun _ => empty capacity

def capacity (queue : ReadyQueue) : Nat := queue.queued.size

def contains (queue : ReadyQueue) (slot : Nat) : Bool := queue.queued[slot]?.getD false

def push (queue : ReadyQueue) (slot : Nat) : Bool × ReadyQueue :=
  if queue.queued[slot]? = some false then
    if queue.waiting.length < queue.capacity then
      (true, ⟨queue.waiting ++ [slot], queue.queued.setIfInBounds slot true⟩)
    else
      (false, queue)
  else
    (false, queue)

def pop (queue : ReadyQueue) : Option (Nat × ReadyQueue) :=
  match queue.waiting with
  | [] => none
  | slot :: rest => some (slot, ⟨rest, queue.queued.setIfInBounds slot false⟩)

def length (queue : ReadyQueue) : Nat := queue.waiting.length

def isEmpty (queue : ReadyQueue) : Bool := queue.waiting.isEmpty

end ReadyQueue

end MiniKernel
