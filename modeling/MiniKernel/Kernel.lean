import MiniKernel.Clock.Timer
import MiniKernel.Clock.Uptime
import MiniKernel.Core
import MiniKernel.Log.Logger

/-!
The services of the kernel: the entry points over one core, one tick counter and one logger. Every
entry point logs what its operation has to say, also when it fails.
-/

namespace MiniKernel

structure Kernel where
  core : Core
  clock : Timer
  logger : Option Logger
  deriving Repr

namespace Kernel

variable {α : Type}

def boot : Kernel := { core := .boot, clock := .zero, logger := none }

def record (kernel : Kernel) (events : List Event) : Kernel :=
  { kernel with logger := kernel.logger.map fun logger => logger.logAll (events.map Event.record) }

/-- Runs an operation on the core and logs its events. -/
def perform (kernel : Kernel) (operation : Core → Outcome Core α) : Outcome Kernel α :=
  let outcome := operation kernel.core
  { outcome with state := { kernel with core := outcome.state }.record outcome.log }

/-! Logging -/

/-- Puts a logger in charge, unless there is one already, and tells whether it did. -/
def installLogger (kernel : Kernel) (filter : Filter) : Bool × Kernel :=
  match kernel.logger with
  | some _ => (false, kernel)
  | none => (true, { kernel with logger := some (.new filter defaultLogCapacity false) })

def logLines (kernel : Kernel) : List String := (kernel.logger.map Logger.lines).getD []

def write (kernel : Kernel) (record : Record) : Outcome Kernel Unit :=
  kernel.perform fun core => .after (.written record) (.done core ())

/-! Time -/

def tick (kernel : Kernel) : Outcome Kernel Nat :=
  kernel.clock.tick.within fun clock => { kernel with clock }

def uptime (kernel : Kernel) : Outcome Kernel Uptime :=
  let config := (kernel.core.scheduler.map Scheduler.config).getD {}
  (Outcome.ofMachine kernel config.tickRate).map (Uptime.ofTicks kernel.clock.ticks)

/-! Memory -/

def startAllocator (kernel : Kernel) (bytes : Nat) (reservedEnd : PhysAddr) : Outcome Kernel Unit :=
  kernel.perform (·.onMemory (·.start bytes reservedEnd))

def allocPage (kernel : Kernel) : Outcome Kernel (Option PhysAddr) :=
  kernel.perform (·.onMemory (·.alloc))

def freePage (kernel : Kernel) (addr : PhysAddr) : Outcome Kernel Unit :=
  kernel.perform (·.onMemory (·.free addr))

def allocPages (kernel : Kernel) (count : Nat) : Outcome Kernel (Option PhysAddr) :=
  kernel.perform (·.onMemory (·.allocRun count))

def freePages (kernel : Kernel) (base : PhysAddr) (count : Nat) : Outcome Kernel Unit :=
  kernel.perform (·.onMemory (·.freeRun base count))

def isAllocated (kernel : Kernel) (addr : PhysAddr) : Outcome Kernel Bool :=
  kernel.perform (·.readMemory (·.isAllocated addr))

def usedBytes (kernel : Kernel) : Outcome Kernel Nat :=
  kernel.perform (·.readMemory PageAllocator.usedBytes)

def freeBytes (kernel : Kernel) : Outcome Kernel Nat :=
  kernel.perform (·.readMemory PageAllocator.freeBytes)

def totalBytes (kernel : Kernel) : Outcome Kernel Nat :=
  kernel.perform (·.readMemory PageAllocator.totalBytes)

/-! Processes -/

def startScheduler (kernel : Kernel) (config : Config) : Outcome Kernel Unit :=
  kernel.perform (·.startScheduler config)

def spawn (kernel : Kernel) (entry : VirtAddr) : Outcome Kernel Pid :=
  kernel.perform (·.onBoth fun scheduler memory => scheduler.spawn memory entry)

def createProcess (kernel : Kernel) (entry : VirtAddr) (kind : ProcessKind) (name : String) :
    Outcome Kernel Pid :=
  kernel.perform (·.onBoth fun scheduler memory => scheduler.create memory entry kind name)

def dispatch (kernel : Kernel) (saved : Registers) : Outcome Kernel Registers :=
  kernel.perform (·.onScheduler (·.dispatch saved kernel.clock.ticks))

def yieldNow (kernel : Kernel) (saved : Registers) : Outcome Kernel Registers :=
  kernel.dispatch saved

/-- A timer interrupt advances the clock, and only then dispatches. -/
def timerInterrupt (kernel : Kernel) (saved : Registers) : Outcome Kernel Registers :=
  kernel.tick.andThen fun _ kernel => kernel.dispatch saved

def sleep (kernel : Kernel) (ms : Nat) (saved : Registers) : Outcome Kernel Registers :=
  kernel.perform (·.onScheduler (·.sleep ms saved kernel.clock.ticks))

def exit (kernel : Kernel) (code : Int) (saved : Registers) : Outcome Kernel Registers :=
  kernel.perform (·.onScheduler (·.exit code saved kernel.clock.ticks))

def reap (kernel : Kernel) (pid : Pid) : Reaping Kernel :=
  let reaping := kernel.core.reap pid
  { closed := reaping.closed, outcome := kernel.perform fun _ => reaping.outcome }

def currentPid (kernel : Kernel) : Outcome Kernel Pid :=
  kernel.perform (·.readScheduler Scheduler.currentPid)

def processInfo (kernel : Kernel) (pid : Pid) : Outcome Kernel (Option Snapshot) :=
  kernel.perform (·.readScheduler (·.lookup pid))

def listProcesses (kernel : Kernel) : Outcome Kernel (List Snapshot) :=
  kernel.perform (·.readScheduler Scheduler.processes)

def stats (kernel : Kernel) : Outcome Kernel Stats :=
  kernel.perform (·.readScheduler Scheduler.stats)

def withFiles (kernel : Kernel) (pid : Pid) (change : Descriptors → α × Descriptors) :
    Outcome Kernel (Option α) :=
  kernel.perform (·.onScheduler fun scheduler =>
    let (value, scheduler) := scheduler.withFiles pid change
    .done scheduler value)

/-- Forgets all processes and pages. The clock and the log go on. -/
def tearDown (kernel : Kernel) : Outcome Kernel Unit :=
  kernel.perform fun _ => .after .tornDown (.done .boot ())

end Kernel

end MiniKernel
