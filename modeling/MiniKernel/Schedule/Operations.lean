import MiniKernel.Schedule.Dispatch

/-!
What processes ask of the scheduler: to create another one, to yield, to sleep, to exit, and to
reap one that has exited.
-/

namespace MiniKernel.Scheduler

def create (scheduler : Scheduler) (memory : PageAllocator) (entry : VirtAddr) (kind : ProcessKind)
    (name : String) : Outcome (Scheduler × PageAllocator) Pid :=
  let parent := scheduler.currentProcess?.map fun (slot, process) => ParentLink.mk slot process.pid
  let created := scheduler.table.create memory entry kind name parent
  (created.within fun (table, memory) => ({ scheduler with table }, memory)).andThen
    fun (slot, pid) (scheduler, memory) =>
      ((scheduler.enqueue slot).within (·, memory)).andThen fun _ state =>
        .after (.processCreated name pid) (.done state pid)

def spawn (scheduler : Scheduler) (memory : PageAllocator) (entry : VirtAddr) :
    Outcome (Scheduler × PageAllocator) Pid :=
  scheduler.create memory entry .kernelThread "kthread"

def yieldNow (scheduler : Scheduler) (saved : Registers) (now : Nat) : Outcome Scheduler Registers :=
  scheduler.dispatch saved now

/-- The process that runs, with its slot: the only one that may change its own state. -/
def running (scheduler : Scheduler) : Except Violation (Nat × ControlBlock) :=
  match scheduler.currentProcess? with
  | some (slot, process) =>
      if process.state = .running then .ok (slot, process) else .error .nothingRunning
  | none => .error .nothingRunning

def sleep (scheduler : Scheduler) (ms : Nat) (saved : Registers) (now : Nat) :
    Outcome Scheduler Registers :=
  (Outcome.ofMachine scheduler (scheduler.config.ticksOfMillis ms)).andThen fun delta _ =>
    (Outcome.ofContract scheduler scheduler.running).andThen fun (slot, process) _ =>
      if slot = scheduler.idleSlot then .fatal scheduler .idleSleeps
      else
        let wakeTick := Word.satAdd now delta
        let table := scheduler.table.put slot { process with wakeTick, state := .sleeping }
        .after (.processSleeping process.pid wakeTick)
          ({ scheduler with table }.dispatch saved now)

def reparent (scheduler : Scheduler) (parent : ParentLink) : Scheduler :=
  let idle := ParentLink.mk scheduler.idleSlot idlePid
  { scheduler with
    table := scheduler.table.modifyAll fun process =>
      if process.parent = some parent then { process with parent := some idle } else process }

/-- Ends the running process and dispatches. It stays in the table until it is reaped. -/
def exit (scheduler : Scheduler) (code : Int) (saved : Registers) (now : Nat) :
    Outcome Scheduler Registers :=
  (Outcome.ofContract scheduler scheduler.running).andThen fun (slot, process) _ =>
    if slot = scheduler.idleSlot then .fatal scheduler .idleExits
    else
      let exited := { process with state := .zombie, exitCode := some code }
      let marked := { scheduler with table := scheduler.table.put slot exited }
      .after (.processExited process.pid code)
        ((marked.reparent ⟨slot, process.pid⟩).dispatch saved now)

def reap (scheduler : Scheduler) (memory : PageAllocator) (pid : Pid) :
    Reaping (Scheduler × PageAllocator) :=
  let reaping := scheduler.table.reap memory pid
  { outcome :=
      (reaping.outcome.within fun (table, memory) => ({ scheduler with table }, memory)).andThen
        fun info state => .after (.processReaped pid info.exitCode) (.done state info)
    closed := reaping.closed }

end MiniKernel.Scheduler
