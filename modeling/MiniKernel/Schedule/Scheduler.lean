import MiniKernel.Process.Lifecycle
import MiniKernel.Schedule.ReadyQueue

/-!
The scheduler's state and what can be read from it. Exactly one process runs; the ready ones wait
in the queue.
-/

namespace MiniKernel

structure Scheduler where
  config : Config
  table : ProcessTable
  ready : ReadyQueue
  idleSlot : Nat
  /-- The slot of the process that runs; empty only while one process makes way for the next. -/
  current : Option Nat
  lastTick : Nat
  /-- How often a dispatch chose another process than the one before. -/
  switches : Nat
  deriving DecidableEq, Repr

structure Stats where
  current : Pid
  lastTick : Nat
  switches : Nat
  ready : Nat
  sleeping : Nat
  zombies : Nat
  live : Nat
  deriving DecidableEq, Repr

namespace Scheduler

def start (config : Config) : Outcome Unit Scheduler :=
  (Outcome.ofContract () config.validate).andThen fun _ _ =>
    (Outcome.ofMachine () (ProcessTable.ofConfig config)).andThen fun table _ =>
      let entered := table.registerIdle
      (entered.within fun _ => ()).andThen fun idleSlot _ =>
        (Outcome.ofMachine () config.tickRate).andThen fun rate _ =>
          .after (.schedulerStarted config.capacity config.quantum rate) <|
            (Outcome.ofMachine () (ReadyQueue.create config.capacity)).map fun ready =>
              { config, table := entered.state, ready, idleSlot, current := some idleSlot
                lastTick := 0, switches := 0 }

def currentProcess? (scheduler : Scheduler) : Option (Nat × ControlBlock) :=
  scheduler.current.bind fun slot => (scheduler.table.get? slot).map fun process => (slot, process)

def currentPid (scheduler : Scheduler) : Pid :=
  (scheduler.currentProcess?.map fun (_, process) => process.pid).getD idlePid

def lookup (scheduler : Scheduler) (pid : Pid) : Option Snapshot :=
  (scheduler.table.lookup pid).bind scheduler.table.snapshot?

def processes (scheduler : Scheduler) : List Snapshot :=
  scheduler.table.processes.map fun (_, process) => scheduler.table.snapshotOf process

def countIn (scheduler : Scheduler) (state : ProcessState) : Nat :=
  scheduler.table.processes.countP fun (_, process) => process.state == state

def stats (scheduler : Scheduler) : Stats :=
  { current := scheduler.currentPid
    lastTick := scheduler.lastTick
    switches := scheduler.switches
    ready := scheduler.ready.length
    sleeping := scheduler.countIn .sleeping
    zombies := scheduler.countIn .zombie
    live := scheduler.table.processes.length }

def withFiles {α : Type} (scheduler : Scheduler) (pid : Pid)
    (change : Descriptors → α × Descriptors) : Option α × Scheduler :=
  match (scheduler.table.lookup pid).bind fun slot =>
      (scheduler.table.get? slot).map fun process => (slot, process) with
  | none => (none, scheduler)
  | some (slot, process) =>
      let (value, files) := change process.files
      (some value, { scheduler with table := scheduler.table.put slot { process with files } })

end Scheduler

end MiniKernel
