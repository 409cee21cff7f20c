import MiniKernel.Page.Allocator
import MiniKernel.Process.Table

/-!
How processes enter and leave the table. A new process gets its stacks from the page allocator, and
a failed creation gives back what it took. A process that has exited is reaped: its files are
closed, its stacks freed and its slot emptied.
-/

namespace MiniKernel

namespace PageAllocator

def allocStack (memory : PageAllocator) (pages : Nat) : Outcome PageAllocator (Option PhysAddr) :=
  if pages = 1 then memory.alloc else memory.allocRun pages

def freeStack (memory : PageAllocator) (base : PhysAddr) (pages : Nat) :
    Outcome PageAllocator Unit :=
  if pages = 1 then memory.free base else memory.freeRun base pages

/-- Frees a stack whose address may have been overwritten. -/
def freeStackAt (memory : PageAllocator) (base pages : Nat) : Outcome PageAllocator Unit :=
  (Outcome.ofMachine memory (PhysAddr.ofNat base)).andThen fun base memory =>
    memory.freeStack base pages

end PageAllocator

/-- What a new process runs on. A kernel thread has no user stack; its address reads as zero. -/
structure Footing where
  kernelStack : Nat
  userStack : Nat
  context : Registers
  deriving DecidableEq, Repr

/-- The outcome of a reap. The handles were closed in this order, also if the reap failed later. -/
structure Reaping (σ : Type) where
  outcome : Outcome σ Snapshot
  closed : List Handle

def Reaping.within {σ τ : Type} (f : σ → τ) (reaping : Reaping σ) : Reaping τ :=
  { reaping with outcome := reaping.outcome.within f }

namespace ProcessTable

def allocKernelFooting (table : ProcessTable) (memory : PageAllocator) (entry : VirtAddr) :
    Outcome PageAllocator Footing :=
  (memory.allocStack table.kernelStackPages).andThen fun base memory =>
    match base with
    | none => .refuse memory .outOfMemory
    | some base =>
        (Outcome.ofMachine memory
          (Registers.kernelThread entry base.toNat table.kernelStackPages)).map fun context =>
            { kernelStack := base.toNat, userStack := 0, context }

def allocUserFooting (table : ProcessTable) (memory : PageAllocator) (entry : VirtAddr) :
    Outcome PageAllocator Footing :=
  (memory.allocStack table.kernelStackPages).andThen fun base memory =>
    match base with
    | none => .refuse memory .outOfMemory
    | some kernelBase =>
        (memory.allocStack table.userStackPages).andThen fun base memory =>
          match base with
          | none =>
              (memory.freeStack kernelBase table.kernelStackPages).andThen fun _ memory =>
                .refuse memory .outOfMemory
          | some userBase =>
              (Outcome.ofMachine memory
                (Registers.userProcess entry kernelBase.toNat table.kernelStackPages
                  userBase.toNat table.userStackPages)).map fun context =>
                    { kernelStack := kernelBase.toNat, userStack := userBase.toNat, context }

def allocFooting (table : ProcessTable) (memory : PageAllocator) (entry : VirtAddr) :
    ProcessKind → Outcome PageAllocator Footing
  | .kernelThread => table.allocKernelFooting memory entry
  | .user => table.allocUserFooting memory entry

/-- Creates a process that is ready to run, in the lowest empty slot, and returns its slot and pid.
A refused creation leaves the table as it was and no page allocated. -/
def create (table : ProcessTable) (memory : PageAllocator) (entry : VirtAddr) (kind : ProcessKind)
    (name : String) (parent : Option ParentLink) :
    Outcome (ProcessTable × PageAllocator) (Nat × Pid) :=
  match table.freeSlot? with
  | none => .after (.tableFull table.capacity) (.refuse (table, memory) .tableFull)
  | some slot =>
      ((table.allocFooting memory entry kind).within (table, ·)).andThen fun footing state =>
        (Outcome.ofMachine state (Word.add table.nextPid 1)).andThen fun nextPid (table, memory) =>
          let process : ControlBlock :=
            { ControlBlock.new table.nextPid name kind footing.context with
              kernelStack := footing.kernelStack
              userStack := footing.userStack
              parent }
          .done ({ table.put slot process with nextPid }, memory) (slot, process.pid)

def freeStacks (table : ProcessTable) (memory : PageAllocator) (process : ControlBlock) :
    Outcome PageAllocator Unit :=
  (memory.freeStackAt process.kernelStack table.kernelStackPages).andThen fun _ memory =>
    match process.kind with
    | .kernelThread => .done memory ()
    | .user => memory.freeStackAt process.userStack table.userStackPages

def reap (table : ProcessTable) (memory : PageAllocator) (pid : Pid) :
    Reaping (ProcessTable × PageAllocator) :=
  match (table.lookup pid).bind fun slot => (table.get? slot).map fun process => (slot, process) with
  | none => ⟨.refuse (table, memory) .notFound, []⟩
  | some (slot, process) =>
      if process.state = .zombie then
        let info := { table.snapshotOf process with state := .dead }
        { outcome := ((table.freeStacks memory process).map fun _ => info).within (table.clear slot, ·)
          closed := process.files.handles }
      else
        ⟨.fatal (table, memory) (.reapOfLive pid process.state), []⟩

end ProcessTable

end MiniKernel
