import MiniKernel.Kernel
import MiniKernel.Proofs.System.Basic

/-! Runs of the kernel services. Any of them may be asked for at any time, also before the part that it
needs was started; what a service does to the core is a call of the system or one of a few others. -/

namespace MiniKernel

inductive Service
  | installLogger (filter : Filter)
  | write (record : Record)
  | tick
  | uptime
  | startAllocator (bytes : Nat) (reservedEnd : PhysAddr)
  | allocPage
  | freePage (addr : PhysAddr)
  | allocPages (count : Nat)
  | freePages (base : PhysAddr) (count : Nat)
  | isAllocated (addr : PhysAddr)
  | usedBytes
  | freeBytes
  | totalBytes
  | startScheduler (config : Config)
  | spawn (entry : VirtAddr)
  | createProcess (entry : VirtAddr) (kind : ProcessKind) (name : String)
  | dispatch (saved : Registers)
  | yieldNow (saved : Registers)
  | timerInterrupt (saved : Registers)
  | sleep (ms : Nat) (saved : Registers)
  | exit (code : Int) (saved : Registers)
  | reap (pid : Pid)
  | currentPid
  | processInfo (pid : Pid)
  | listProcesses
  | stats
  | editFiles (pid : Pid) (change : Descriptors → Option Nat × Descriptors)
  | tearDown

inductive Reply
  | unit
  | flag (answer : Bool)
  | count (value : Nat)
  | uptime (time : Uptime)
  | page (base : Option PhysAddr)
  | pid (pid : Pid)
  | resumed (registers : Registers)
  | reaped (info : Snapshot)
  | process (info : Option Snapshot)
  | processes (infos : List Snapshot)
  | stats (stats : Stats)
  | edited (value : Option (Option Nat))
  deriving DecidableEq, Repr

def Service.pageCall : Service → Option PageCall
  | startAllocator bytes reservedEnd => some (.start bytes reservedEnd)
  | allocPage => some .alloc
  | freePage addr => some (.free addr)
  | allocPages count => some (.allocRun count)
  | freePages base count => some (.freeRun base count)
  | _ => none

namespace Kernel

def serve (kernel : Kernel) : Service → Outcome Kernel Reply
  | .installLogger filter =>
      let (installed, kernel) := kernel.installLogger filter
      .done kernel (.flag installed)
  | .write record => (kernel.write record).map fun _ => .unit
  | .tick => kernel.tick.map .count
  | .uptime => kernel.uptime.map .uptime
  | .startAllocator bytes reservedEnd => (kernel.startAllocator bytes reservedEnd).map fun _ => .unit
  | .allocPage => kernel.allocPage.map .page
  | .freePage addr => (kernel.freePage addr).map fun _ => .unit
  | .allocPages count => (kernel.allocPages count).map .page
  | .freePages base count => (kernel.freePages base count).map fun _ => .unit
  | .isAllocated addr => (kernel.isAllocated addr).map .flag
  | .usedBytes => kernel.usedBytes.map .count
  | .freeBytes => kernel.freeBytes.map .count
  | .totalBytes => kernel.totalBytes.map .count
  | .startScheduler config => (kernel.startScheduler config).map fun _ => .unit
  | .spawn entry => (kernel.spawn entry).map .pid
  | .createProcess entry kind name => (kernel.createProcess entry kind name).map .pid
  | .dispatch saved => (kernel.dispatch saved).map .resumed
  | .yieldNow saved => (kernel.yieldNow saved).map .resumed
  | .timerInterrupt saved => (kernel.timerInterrupt saved).map .resumed
  | .sleep ms saved => (kernel.sleep ms saved).map .resumed
  | .exit code saved => (kernel.exit code saved).map .resumed
  | .reap pid => (kernel.reap pid).outcome.map .reaped
  | .currentPid => kernel.currentPid.map .pid
  | .processInfo pid => (kernel.processInfo pid).map .process
  | .listProcesses => kernel.listProcesses.map .processes
  | .stats => kernel.stats.map .stats
  | .editFiles pid change => (kernel.withFiles pid change).map .edited
  | .tearDown => kernel.tearDown.map fun _ => .unit

def after (start : Kernel) : List Service → Kernel
  | [] => start
  | service :: earlier => ((start.after earlier).serve service).state

end Kernel

namespace Core

inductive Turns (before : Core) : Service → Core → Prop
  | idle {service after} (same : after = before) : Turns before service after
  | paged {service} (call : PageCall) (direct : service.pageCall = some call) :
      Turns before service { before with memory := (before.memory.perform call).state }
  | started {config} (ready : before.memory.started = true) (absent : before.scheduler = none)
      (valid : config.validate = .ok ()) :
      Turns before (.startScheduler config) { before with scheduler := some (.initial config) }
  | performed {service scheduler} {after : System} (call : Call)
      (indirect : ∀ direct, call ≠ .page direct) (present : before.scheduler = some scheduler)
      (performed : (System.perform ⟨scheduler, before.memory⟩ call).state = after) :
      Turns before service { memory := after.memory, scheduler := some after.scheduler }
  | tornDown : Turns before .tearDown .boot

variable {α : Type}

theorem startScheduler_cases (core : Core) (config : Config) :
    (core.startScheduler config).Ensures
      (fun _ next => core.memory.started = true ∧ core.scheduler = none ∧ config.validate = .ok () ∧
        next = { core with scheduler := some (.initial config) })
      fun _ next => next = core := by
  unfold startScheduler
  split
  · exact rfl
  rename_i ready
  split
  · exact rfl
  rename_i absent
  rw [Outcome.ensures_andThen, Outcome.ensures_within]
  refine (Scheduler.start_ensures config).imp ?_ fun _ _ _ => rfl
  rintro _ _ ⟨valid, rfl⟩
  exact ⟨by simpa using ready, by simpa using absent, valid, rfl⟩

theorem startScheduler_turns (core : Core) (config : Config) :
    core.Turns (.startScheduler config) (core.startScheduler config).state := by
  have turns : (core.startScheduler config).Ensures (fun _ => core.Turns (.startScheduler config))
      fun _ => core.Turns (.startScheduler config) := by
    refine (core.startScheduler_cases config).imp ?_ fun _ _ same => .idle same
    rintro _ _ ⟨ready, absent, valid, rfl⟩
    exact .started ready absent valid
  exact turns.state

theorem onScheduler_turns {core : Core} {service : Service}
    {operation : Scheduler → Outcome Scheduler α} (call : Call) (indirect : ∀ direct, call ≠ .page direct)
    (serves : ∀ scheduler, (System.perform ⟨scheduler, core.memory⟩ call).state =
      ⟨(operation scheduler).state, core.memory⟩) :
    core.Turns service (core.onScheduler operation).state := by
  cases present : core.scheduler with
  | none =>
      rw [onScheduler, requireScheduler, present]
      exact .idle rfl
  | some scheduler =>
      rw [onScheduler, requireScheduler, present]
      exact .performed call indirect present (serves scheduler)

theorem onBoth_turns {core : Core} {service : Service}
    {operation : Scheduler → PageAllocator → Outcome (Scheduler × PageAllocator) α}
    (call : Call) (indirect : ∀ direct, call ≠ .page direct)
    (serves : ∀ scheduler, (System.perform ⟨scheduler, core.memory⟩ call).state =
      ⟨(operation scheduler core.memory).state.1, (operation scheduler core.memory).state.2⟩) :
    core.Turns service (core.onBoth operation).state := by
  cases present : core.scheduler with
  | none =>
      rw [onBoth, requireScheduler, present]
      exact .idle rfl
  | some scheduler =>
      rw [onBoth, requireScheduler, present]
      exact .performed call indirect present (serves scheduler)

theorem reap_turns (core : Core) (pid : Pid) : core.Turns (.reap pid) (core.reap pid).outcome.state := by
  cases present : core.scheduler with
  | none =>
      rw [reap, present]
      exact .idle rfl
  | some scheduler =>
      rw [reap, present]
      exact .performed (.reap pid) nofun present rfl

theorem readMemory_state (core : Core) (read : PageAllocator → α) :
    (core.readMemory read).state = core := by
  unfold readMemory
  split <;> rfl

theorem readScheduler_state (core : Core) (read : Scheduler → α) :
    (core.readScheduler read).state = core := by
  unfold readScheduler requireScheduler
  split <;> rfl

end Core

namespace Kernel

variable {α : Type}

theorem dispatch_turns (kernel : Kernel) (service : Service) (saved : Registers) :
    kernel.core.Turns service (kernel.dispatch saved).state.core :=
  Core.onScheduler_turns (.switch .dispatch saved kernel.clock.ticks) nofun fun _ => rfl

theorem timerInterrupt_turns (kernel : Kernel) (service : Service) (saved : Registers) :
    kernel.core.Turns service (kernel.timerInterrupt saved).state.core := by
  have ensured : (kernel.timerInterrupt saved).Ensures
      (fun _ next => kernel.core.Turns service next.core) fun _ next =>
        kernel.core.Turns service next.core := by
    rw [timerInterrupt, tick, Outcome.ensures_andThen, Outcome.ensures_within, Outcome.ensures_iff]
    refine ⟨fun now _ => ?_, fun failure _ => .idle rfl⟩
    have turns := dispatch_turns { kernel with clock := kernel.clock.tick.state } service saved
    exact Outcome.ensures_iff.mpr ⟨fun _ _ => turns, fun _ _ => turns⟩
  exact ensured.state

theorem withFiles_turns (kernel : Kernel) (service : Service) (pid : Pid)
    (change : Descriptors → α × Descriptors) :
    kernel.core.Turns service (kernel.withFiles pid change).state.core := by
  refine Core.onScheduler_turns (.editFiles pid fun files => (change files).2) nofun
    fun scheduler => ?_
  have same : (scheduler.withFiles pid fun files => ((), (change files).2)).2 =
      (scheduler.withFiles pid change).2 := by
    unfold Scheduler.withFiles
    split <;> rfl
  exact congrArg (System.mk · kernel.core.memory) same

theorem uptime_state (kernel : Kernel) : kernel.uptime.state = kernel := by
  have ensured : kernel.uptime.Ensures (fun _ next => next = kernel) fun _ next => next = kernel := by
    rw [uptime, Outcome.ensures_map, Outcome.ensures_ofMachine]
    exact ⟨fun _ _ => rfl, fun _ _ => rfl⟩
  exact ensured.state

/-- A service logs what it has to say and does nothing else to the core. -/
theorem serve_turns (kernel : Kernel) (service : Service) :
    kernel.core.Turns service (kernel.serve service).state.core := by
  cases service with
  | installLogger filter =>
      have same : (kernel.installLogger filter).2.core = kernel.core := by
        unfold installLogger
        split <;> rfl
      exact .idle same
  | write record => exact .idle rfl
  | tick => exact .idle rfl
  | uptime => exact .idle (congrArg Kernel.core kernel.uptime_state)
  | startAllocator bytes reservedEnd => exact .paged (.start bytes reservedEnd) rfl
  | allocPage => exact .paged .alloc rfl
  | freePage addr => exact .paged (.free addr) rfl
  | allocPages count => exact .paged (.allocRun count) rfl
  | freePages base count => exact .paged (.freeRun base count) rfl
  | isAllocated addr => exact .idle (kernel.core.readMemory_state (·.isAllocated addr))
  | usedBytes => exact .idle (kernel.core.readMemory_state PageAllocator.usedBytes)
  | freeBytes => exact .idle (kernel.core.readMemory_state PageAllocator.freeBytes)
  | totalBytes => exact .idle (kernel.core.readMemory_state PageAllocator.totalBytes)
  | startScheduler config => exact kernel.core.startScheduler_turns config
  | spawn entry => exact Core.onBoth_turns (.spawn entry) nofun fun _ => rfl
  | createProcess entry kind name =>
      exact Core.onBoth_turns (.create entry kind name) nofun fun _ => rfl
  | dispatch saved => exact kernel.dispatch_turns _ saved
  | yieldNow saved => exact kernel.dispatch_turns _ saved
  | timerInterrupt saved => exact kernel.timerInterrupt_turns _ saved
  | sleep ms saved =>
      exact Core.onScheduler_turns (.switch (.sleep ms) saved kernel.clock.ticks) nofun
        fun _ => rfl
  | exit code saved =>
      exact Core.onScheduler_turns (.switch (.exit code) saved kernel.clock.ticks) nofun
        fun _ => rfl
  | reap pid => exact kernel.core.reap_turns pid
  | currentPid => exact .idle (kernel.core.readScheduler_state Scheduler.currentPid)
  | processInfo pid => exact .idle (kernel.core.readScheduler_state (·.lookup pid))
  | listProcesses => exact .idle (kernel.core.readScheduler_state Scheduler.processes)
  | stats => exact .idle (kernel.core.readScheduler_state Scheduler.stats)
  | editFiles pid change => exact kernel.withFiles_turns _ pid change
  | tearDown => exact .tornDown

end Kernel

end MiniKernel
