import MiniKernel.Process.State
import MiniKernel.Text.Hex
import MiniKernel.Trap

/-!
Why an operation did not return. A refusal is an ordinary answer that callers handle; a violation
of a caller's contract or of the kernel's own structure goes to the fatal reporter; a trap is a
fault of the machine.
-/

namespace MiniKernel

inductive Refusal
  | tableFull
  | outOfMemory
  | notFound
  deriving DecidableEq, Repr

def Refusal.message : Refusal → String
  | .tableFull => "process table is full"
  | .outOfMemory => "out of memory for process stacks"
  | .notFound => "no such process"

inductive Violation
  | allocatorStartedTwice
  | memoryTooSmall (total reserved : Nat)
  | allocatorNotStarted
  | unalignedFree (addr : Nat)
  | freeOutsideMemory (addr : Nat)
  | runLeavesMemory (count addr : Nat)
  | doubleFree (addr : Nat)
  | idleIntoPopulatedTable
  | reapOfLive (pid : Pid) (state : ProcessState)
  | noTableCapacity
  | unevenQuantum
  | noKernelStack
  | enqueuedTwice (slot : Nat)
  | currentSlotEmpty (slot : Nat)
  | outgoingState (pid : Pid) (state : ProcessState)
  | nothingRunnable
  | headNotReady (slot : Nat)
  | nothingRunning
  | idleSleeps
  | idleExits
  | schedulerBeforeAllocator
  | schedulerStartedTwice
  | schedulerNotStarted
  /-- A condition that a caller states in its own words. -/
  | stated (message : String)
  deriving DecidableEq, Repr

def Violation.message : Violation → String
  | .allocatorStartedTwice => "pmm: initialized twice"
  | .memoryTooSmall total reserved =>
      s!"pmm: not enough memory to start ({total} pages, {reserved} reserved)"
  | .allocatorNotStarted => "pmm: used before initialization"
  | .unalignedFree addr => "pmm: free of unaligned address " ++ Text.hex addr
  | .freeOutsideMemory addr => "pmm: free of address " ++ Text.hex addr ++ " outside physical memory"
  | .runLeavesMemory count addr =>
      s!"pmm: run of {count} pages at " ++ Text.hex addr ++ " leaves physical memory"
  | .doubleFree addr => "pmm: double free of page " ++ Text.hex addr
  | .idleIntoPopulatedTable => "process table: idle process registered into a populated table"
  | .reapOfLive pid state =>
      s!"reap of pid {pid} which is not a zombie (Some(" ++ state.title ++ "))"
  | .noTableCapacity => "scheduler config: process table capacity is zero"
  | .unevenQuantum => "scheduler config: quantum must divide one second evenly"
  | .noKernelStack => "scheduler config: processes need at least one kernel stack page"
  | .enqueuedTwice slot => s!"scheduler: slot {slot} enqueued twice"
  | .currentSlotEmpty slot => s!"scheduler: current slot {slot} holds no process"
  | .outgoingState pid state => s!"scheduler: outgoing pid {pid} in state " ++ state.word
  | .nothingRunnable => "scheduler: no runnable process, not even idle"
  | .headNotReady slot => s!"scheduler: ready queue held slot {slot} which is not READY"
  | .nothingRunning => "scheduler: no running process to change state"
  | .idleSleeps => "scheduler: the idle process cannot sleep"
  | .idleExits => "scheduler: the idle process cannot exit"
  | .schedulerBeforeAllocator => "scheduler: initialized before the page allocator"
  | .schedulerStartedTwice => "scheduler: initialized twice"
  | .schedulerNotStarted => "scheduler: used before initialization"
  | .stated message => message

def require (condition : Bool) (violation : Violation) : Except Violation Unit :=
  if condition then .ok () else .error violation

inductive Failure
  | refused (refusal : Refusal)
  | fatal (violation : Violation)
  | trapped (trap : Trap)
  deriving DecidableEq, Repr

def Failure.message : Failure → String
  | .refused refusal => refusal.message
  | .fatal violation => violation.message
  | .trapped trap => trap.message

end MiniKernel
