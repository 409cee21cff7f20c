import MiniKernel.Schedule.Operations

/-!
The core of the kernel: the page allocator and, once it has been started, the scheduler that draws
its stacks from it.
-/

namespace MiniKernel

structure Core where
  memory : PageAllocator
  scheduler : Option Scheduler
  deriving DecidableEq, Repr

namespace Core

def boot : Core := { memory := .unstarted, scheduler := none }

variable {α : Type}

def onMemory (core : Core) (operation : PageAllocator → Outcome PageAllocator α) : Outcome Core α :=
  (operation core.memory).within fun memory => { core with memory }

def readMemory (core : Core) (read : PageAllocator → α) : Outcome Core α :=
  if core.memory.started then .done core (read core.memory) else .fatal core .allocatorNotStarted

def requireScheduler (core : Core) : Outcome Core Scheduler :=
  match core.scheduler with
  | some scheduler => .done core scheduler
  | none => .fatal core .schedulerNotStarted

def onScheduler (core : Core) (operation : Scheduler → Outcome Scheduler α) : Outcome Core α :=
  core.requireScheduler.andThen fun scheduler core =>
    (operation scheduler).within fun scheduler => { core with scheduler := some scheduler }

def onBoth (core : Core)
    (operation : Scheduler → PageAllocator → Outcome (Scheduler × PageAllocator) α) :
    Outcome Core α :=
  core.requireScheduler.andThen fun scheduler core =>
    (operation scheduler core.memory).within fun (scheduler, memory) =>
      { memory, scheduler := some scheduler }

def readScheduler (core : Core) (read : Scheduler → α) : Outcome Core α :=
  core.requireScheduler.map read

/-- Starts the scheduler, once and only after the allocator. -/
def startScheduler (core : Core) (config : Config) : Outcome Core Unit :=
  if !core.memory.started then .fatal core .schedulerBeforeAllocator
  else if core.scheduler.isSome then .fatal core .schedulerStartedTwice
  else
    ((Scheduler.start config).within fun _ => core).andThen fun scheduler core =>
      .done { core with scheduler := some scheduler } ()

def reap (core : Core) (pid : Pid) : Reaping Core :=
  match core.scheduler with
  | some scheduler =>
      (scheduler.reap core.memory pid).within fun (scheduler, memory) =>
        { memory, scheduler := some scheduler }
  | none => ⟨.fatal core .schedulerNotStarted, []⟩

end Core

end MiniKernel
