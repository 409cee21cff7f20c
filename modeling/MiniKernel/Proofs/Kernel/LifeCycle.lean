import MiniKernel.Proofs.Kernel.Session
import MiniKernel.Proofs.Page.Addresses
import MiniKernel.Proofs.Schedule.Supply

/-! The life cycle of the kernel: what a service is told that comes at the wrong time, that it changes
nothing, and that a kernel that was torn down is like one that has just been booted. -/

namespace MiniKernel

namespace Service

def OnMemory : Service → Prop
  | allocPage | freePage _ | allocPages _ | freePages _ _ | isAllocated _ => True
  | usedBytes | freeBytes | totalBytes => True
  | _ => False

def OnScheduler : Service → Prop
  | spawn _ | createProcess _ _ _ | reap _ => True
  | dispatch _ | yieldNow _ | timerInterrupt _ | sleep _ _ | exit _ _ => True
  | currentPid | processInfo _ | listProcesses | stats | editFiles _ _ => True
  | _ => False

/-- A service that comes at the wrong time, or starts with the wrong parameters, and what it is told.
Whether the allocator and the scheduler have been started is all that the time is about. -/
inductive Untimely (allocating scheduling : Prop) : Service → Violation → Prop
  | silent {service : Service} (entry : service.OnMemory) (silent : ¬ allocating) :
      Untimely allocating scheduling service .allocatorNotStarted
  | absent {service : Service} (entry : service.OnScheduler) (absent : ¬ scheduling) :
      Untimely allocating scheduling service .schedulerNotStarted
  | allocatorAgain {bytes : Nat} {reservedEnd : PhysAddr} (started : allocating) :
      Untimely allocating scheduling (.startAllocator bytes reservedEnd) .allocatorStartedTwice
  | noRoom {bytes : Nat} {reservedEnd : PhysAddr} (silent : ¬ allocating)
      (full : bytes / pageSize ≤ PageAllocator.reservedBelow reservedEnd) :
      Untimely allocating scheduling (.startAllocator bytes reservedEnd)
        (.memoryTooSmall (bytes / pageSize) (PageAllocator.reservedBelow reservedEnd))
  | tooEarly {config : Config} (silent : ¬ allocating) :
      Untimely allocating scheduling (.startScheduler config) .schedulerBeforeAllocator
  | schedulerAgain {config : Config} (started : allocating) (present : scheduling) :
      Untimely allocating scheduling (.startScheduler config) .schedulerStartedTwice
  | rejected {config : Config} {violation : Violation} (started : allocating) (absent : ¬ scheduling)
      (rejected : config.validate = .error violation) :
      Untimely allocating scheduling (.startScheduler config) violation

end Service

namespace Core

variable {α : Type} {core : Core}

theorem onScheduler_absent (absent : core.scheduler = none)
    (operation : Scheduler → Outcome Scheduler α) :
    core.onScheduler operation = .fatal core .schedulerNotStarted := by
  rw [onScheduler, requireScheduler, absent]
  rfl

theorem onBoth_absent (absent : core.scheduler = none)
    (operation : Scheduler → PageAllocator → Outcome (Scheduler × PageAllocator) α) :
    core.onBoth operation = .fatal core .schedulerNotStarted := by
  rw [onBoth, requireScheduler, absent]
  rfl

theorem readScheduler_absent (absent : core.scheduler = none) (read : Scheduler → α) :
    core.readScheduler read = .fatal core .schedulerNotStarted := by
  rw [readScheduler, requireScheduler, absent]
  rfl

theorem readMemory_silent (silent : core.memory.started = false) (read : PageAllocator → α) :
    core.readMemory read = .fatal core .allocatorNotStarted := by
  rw [readMemory, silent]
  rfl

theorem onMemory_refused {operation : PageAllocator → Outcome PageAllocator α} {violation : Violation}
    (refused : operation core.memory = .fatal core.memory violation) :
    core.onMemory operation = .fatal core violation := by
  rw [onMemory, refused]
  rfl

theorem reap_absent (absent : core.scheduler = none) (pid : Pid) :
    core.reap pid = ⟨.fatal core .schedulerNotStarted, []⟩ := by
  rw [reap, absent]

theorem startScheduler_rejected {config : Config} {violation : Violation}
    (started : core.memory.started = true) (absent : core.scheduler = none)
    (rejected : config.validate = .error violation) :
    core.startScheduler config = .fatal core violation := by
  rw [startScheduler, started, absent, Scheduler.start, rejected]
  rfl

theorem startScheduler_supplied (core : Core) (config : Config) :
    (core.startScheduler config).Ensures (fun _ _ => True) fun failure _ => failure.Supplied := by
  unfold startScheduler
  split
  · exact nofun
  · split
    · exact nofun
    · rw [Outcome.ensures_andThen, Outcome.ensures_within]
      exact (Scheduler.start_supplied config).imp (fun _ _ _ => trivial) fun _ _ supplied => supplied

theorem onScheduler_supplied (core : Core) {operation : Scheduler → Outcome Scheduler α}
    (supplied : ∀ scheduler, (operation scheduler).Ensures (fun _ _ => True)
      fun failure _ => failure.Supplied) :
    (core.onScheduler operation).Ensures (fun _ _ => True) fun failure _ => failure.Supplied := by
  cases present : core.scheduler with
  | none =>
      rw [onScheduler_absent present]
      exact nofun
  | some scheduler =>
      rw [onScheduler, requireScheduler, present]
      exact supplied scheduler

theorem onBoth_supplied (backed : ∀ scheduler, core.scheduler = some scheduler →
      core.memory.started = true)
    {operation : Scheduler → PageAllocator → Outcome (Scheduler × PageAllocator) α}
    (supplied : ∀ scheduler, core.memory.started = true →
      (operation scheduler core.memory).Ensures (fun _ _ => True)
        fun failure _ => failure.Supplied) :
    (core.onBoth operation).Ensures (fun _ _ => True) fun failure _ => failure.Supplied := by
  cases present : core.scheduler with
  | none =>
      rw [onBoth_absent present]
      exact nofun
  | some scheduler =>
      rw [onBoth, requireScheduler, present]
      exact supplied scheduler (backed scheduler present)

theorem readScheduler_supplied (core : Core) (read : Scheduler → α) :
    (core.readScheduler read).Ensures (fun _ _ => True) fun failure _ => failure.Supplied := by
  cases present : core.scheduler with
  | none =>
      rw [readScheduler_absent present]
      exact nofun
  | some scheduler =>
      rw [readScheduler, requireScheduler, present]
      exact trivial

theorem reap_supplied (backed : ∀ scheduler, core.scheduler = some scheduler →
      core.memory.started = true) (pid : Pid) :
    (core.reap pid).outcome.Ensures (fun _ _ => True) fun failure _ => failure.Supplied := by
  cases present : core.scheduler with
  | none =>
      rw [reap_absent present]
      exact nofun
  | some scheduler =>
      rw [reap, present]
      exact scheduler.reap_supplied (backed scheduler present) pid

end Core

namespace Kernel

variable {α β : Type} {kernel left right : Kernel}

theorem record_nil (kernel : Kernel) : kernel.record [] = kernel := by
  obtain ⟨core, clock, logger⟩ := kernel
  cases logger <;> rfl

theorem perform_refused {operation : Core → Outcome Core α} {violation : Violation}
    (refused : operation kernel.core = .fatal kernel.core violation) :
    kernel.perform operation = .fatal kernel violation := by
  rw [perform, refused]
  exact congrArg (Outcome.fatal · violation) (record_nil kernel)

theorem perform_map_refused {operation : Core → Outcome Core α} {violation : Violation}
    (f : α → β) (refused : operation kernel.core = .fatal kernel.core violation) :
    (kernel.perform operation).map f = .fatal kernel violation := by
  rw [perform_refused refused]
  rfl

def timed (kernel : Kernel) : Service → Kernel
  | .timerInterrupt _ => kernel.tick.state
  | _ => kernel

/-- A service was told what it did wrong, and left the kernel alone. Only a timer interrupt has
already advanced the clock, unless that was what it failed at. -/
structure Refuses (kernel : Kernel) (service : Service) (violation : Violation) : Prop where
  state : (kernel.serve service).state = kernel.timed service
  result : (kernel.serve service).result = .error (.fatal violation) ∨
    (∃ saved, service = .timerInterrupt saved) ∧ Word.max < kernel.clock.ticks + 1 ∧
      (kernel.serve service).result = .error (.trapped .addOverflow)

theorem refuses_of_fatal {service : Service} {violation : Violation}
    (timeless : kernel.timed service = kernel)
    (refused : kernel.serve service = .fatal kernel violation) : kernel.Refuses service violation := by
  constructor
  · rw [refused, timeless]
    rfl
  · rw [refused]
    exact Or.inl rfl

theorem serve_silent {service : Service} (entry : service.OnMemory)
    (silent : kernel.core.memory.started = false) :
    kernel.serve service = .fatal kernel .allocatorNotStarted := by
  cases service with
  | allocPage =>
      exact perform_map_refused _ (Core.onMemory_refused (PageAllocator.alloc_unstarted silent))
  | freePage addr =>
      exact perform_map_refused _ (Core.onMemory_refused (PageAllocator.free_unstarted silent addr))
  | allocPages count =>
      exact perform_map_refused _
        (Core.onMemory_refused (PageAllocator.allocRun_unstarted silent count))
  | freePages base count =>
      exact perform_map_refused _
        (Core.onMemory_refused (PageAllocator.freeRun_unstarted silent base count))
  | isAllocated addr => exact perform_map_refused _ (Core.readMemory_silent silent _)
  | usedBytes => exact perform_map_refused _ (Core.readMemory_silent silent _)
  | freeBytes => exact perform_map_refused _ (Core.readMemory_silent silent _)
  | totalBytes => exact perform_map_refused _ (Core.readMemory_silent silent _)
  | _ => exact entry.elim

theorem timerInterrupt_absent (absent : kernel.core.scheduler = none) (saved : Registers) :
    kernel.Refuses (.timerInterrupt saved) .schedulerNotStarted := by
  have dispatched : kernel.tick.state.dispatch saved = .fatal kernel.tick.state .schedulerNotStarted :=
    perform_refused (Core.onScheduler_absent absent _)
  have served : kernel.serve (.timerInterrupt saved) = (kernel.tick.andThen fun _ next =>
    next.dispatch saved).map .resumed := rfl
  by_cases counts : kernel.clock.ticks + 1 ≤ Word.max
  · have ticked : kernel.tick = .done kernel.tick.state (kernel.clock.ticks + 1) := by
      rw [tick, Timer.tick, Word.add_ok counts]
      rfl
    rw [ticked, Outcome.done_andThen, dispatched] at served
    exact ⟨congrArg Outcome.state served, Or.inl (congrArg Outcome.result served)⟩
  · have stuck : kernel.tick = .trap kernel.tick.state .addOverflow := by
      rw [tick, Timer.tick, Word.add, if_neg counts]
      rfl
    rw [stuck, Outcome.trap, Outcome.fail_andThen] at served
    exact ⟨congrArg Outcome.state served,
      Or.inr ⟨⟨saved, rfl⟩, Nat.lt_of_not_le counts, congrArg Outcome.result served⟩⟩

theorem serve_absent {service : Service} (entry : service.OnScheduler)
    (absent : kernel.core.scheduler = none) : kernel.Refuses service .schedulerNotStarted := by
  cases service with
  | timerInterrupt saved => exact timerInterrupt_absent absent saved
  | spawn entry =>
      exact refuses_of_fatal rfl (perform_map_refused _ (Core.onBoth_absent absent _))
  | createProcess entry kind name =>
      exact refuses_of_fatal rfl (perform_map_refused _ (Core.onBoth_absent absent _))
  | dispatch saved =>
      exact refuses_of_fatal rfl (perform_map_refused _ (Core.onScheduler_absent absent _))
  | yieldNow saved =>
      exact refuses_of_fatal rfl (perform_map_refused _ (Core.onScheduler_absent absent _))
  | sleep ms saved =>
      exact refuses_of_fatal rfl (perform_map_refused _ (Core.onScheduler_absent absent _))
  | exit code saved =>
      exact refuses_of_fatal rfl (perform_map_refused _ (Core.onScheduler_absent absent _))
  | reap pid =>
      exact refuses_of_fatal rfl
        (perform_map_refused _ (congrArg Reaping.outcome (Core.reap_absent absent pid)))
  | currentPid =>
      exact refuses_of_fatal rfl (perform_map_refused _ (Core.readScheduler_absent absent _))
  | processInfo pid =>
      exact refuses_of_fatal rfl (perform_map_refused _ (Core.readScheduler_absent absent _))
  | listProcesses =>
      exact refuses_of_fatal rfl (perform_map_refused _ (Core.readScheduler_absent absent _))
  | stats =>
      exact refuses_of_fatal rfl (perform_map_refused _ (Core.readScheduler_absent absent _))
  | editFiles pid change =>
      exact refuses_of_fatal rfl (perform_map_refused _ (Core.onScheduler_absent absent _))
  | _ => exact entry.elim

theorem serve_untimely {allocating scheduling : Prop}
    (memory : kernel.core.memory.started = true ↔ allocating)
    (scheduler : kernel.core.scheduler.isSome = true ↔ scheduling) {service : Service}
    {violation : Violation} (untimely : service.Untimely allocating scheduling violation) :
    kernel.Refuses service violation := by
  have unstarted : ¬ allocating → kernel.core.memory.started = false := by
    rw [← memory]
    exact Bool.eq_false_of_not_eq_true
  have unscheduled : ¬ scheduling → kernel.core.scheduler = none := by
    rw [← scheduler]
    exact Option.not_isSome_iff_eq_none.mp
  cases untimely with
  | silent entry silent =>
      refine refuses_of_fatal ?_ (serve_silent entry (unstarted silent))
      cases service <;> first | rfl | exact entry.elim
  | absent entry absent => exact serve_absent entry (unscheduled absent)
  | allocatorAgain started =>
      refine refuses_of_fatal rfl (perform_map_refused _ (Core.onMemory_refused ?_))
      rw [PageAllocator.start, if_pos (memory.mpr started)]
  | noRoom silent full =>
      refine refuses_of_fatal rfl (perform_map_refused _ (Core.onMemory_refused ?_))
      rw [PageAllocator.start, unstarted silent]
      exact if_pos full
  | tooEarly silent =>
      refine refuses_of_fatal rfl (perform_map_refused _ ?_)
      rw [Core.startScheduler, unstarted silent]
      rfl
  | schedulerAgain started present =>
      refine refuses_of_fatal rfl (perform_map_refused _ ?_)
      rw [Core.startScheduler, memory.mpr started]
      exact if_pos (scheduler.mpr present)
  | rejected started absent rejected =>
      exact refuses_of_fatal rfl (perform_map_refused _
        (Core.startScheduler_rejected (memory.mpr started) (unscheduled absent) rejected))

theorem startAllocator_timely {bytes : Nat} {reservedEnd : PhysAddr}
    (silent : kernel.core.memory.started = false)
    (room : PageAllocator.reservedBelow reservedEnd < bytes / pageSize) (word : bytes ≤ Word.max) :
    (kernel.serve (.startAllocator bytes reservedEnd)).result = .ok .unit := by
  have countable : bytes / pageSize + 64 ≤ Word.max := by
    simp only [pageSize, Word.max] at word ⊢
    omega
  have served : (kernel.serve (.startAllocator bytes reservedEnd)).result =
      (kernel.core.memory.start bytes reservedEnd).result.map fun _ => .unit := rfl
  rw [served, PageAllocator.start_ok silent room countable]
  rfl

theorem startScheduler_timely {config : Config} {scheduler : Scheduler}
    (started : kernel.core.memory.started = true) (absent : kernel.core.scheduler = none)
    (begun : (Scheduler.start config).result = .ok scheduler) :
    (kernel.serve (.startScheduler config)).result = .ok .unit := by
  have served : (kernel.serve (.startScheduler config)).result =
      (kernel.core.startScheduler config).result.map fun _ => .unit := rfl
  rw [served, Core.startScheduler, started, absent]
  simp [Outcome.andThen, Outcome.within, begun, Outcome.done, Except.map]

theorem perform_supplied {operation : Core → Outcome Core α} (f : α → β)
    (supplied : (operation kernel.core).Ensures (fun _ _ => True)
      fun failure _ => failure.Supplied) :
    ((kernel.perform operation).map f).Ensures (fun _ _ => True)
      fun failure _ => failure.Supplied :=
  perform_map_ensures f supplied

theorem timerInterrupt_supplied (kernel : Kernel) (saved : Registers) :
    (kernel.timerInterrupt saved).Ensures (fun _ _ => True) fun failure _ => failure.Supplied := by
  rw [timerInterrupt, tick, Timer.tick, Outcome.ensures_andThen, Outcome.ensures_within,
    Outcome.ensures_ofMachine]
  refine ⟨fun now _ => ?_, fun trap _ => .trapped trap⟩
  exact Core.onScheduler_supplied _ fun scheduler => scheduler.dispatch_supplied saved _

/-- A scheduler draws its stacks from an allocator that was started before it. -/
theorem serve_supplied (backed : ∀ scheduler, kernel.core.scheduler = some scheduler →
      kernel.core.memory.started = true) {service : Service} (elsewhere : ¬ service.OnMemory) :
    (kernel.serve service).Ensures (fun _ _ => True) fun failure _ => failure.Supplied := by
  cases service with
  | installLogger filter => exact trivial
  | write record => exact trivial
  | tick =>
      rw [serve, tick, Timer.tick, Outcome.ensures_map, Outcome.ensures_within,
        Outcome.ensures_ofMachine]
      exact ⟨fun _ _ => trivial, fun trap _ => .trapped trap⟩
  | uptime =>
      rw [serve, uptime, Outcome.ensures_map, Outcome.ensures_map, Outcome.ensures_ofMachine]
      exact ⟨fun _ _ => trivial, fun trap _ => .trapped trap⟩
  | startAllocator bytes reservedEnd =>
      exact perform_supplied _ (kernel.core.memory.start_supplied bytes reservedEnd)
  | startScheduler config =>
      exact perform_supplied _ (kernel.core.startScheduler_supplied config)
  | spawn entry =>
      exact perform_supplied _ (Core.onBoth_supplied backed fun scheduler started =>
        scheduler.create_supplied started entry _ _)
  | createProcess entry kind name =>
      exact perform_supplied _ (Core.onBoth_supplied backed fun scheduler started =>
        scheduler.create_supplied started entry kind name)
  | dispatch saved =>
      exact perform_supplied _ (Core.onScheduler_supplied _ fun scheduler =>
        scheduler.dispatch_supplied saved _)
  | yieldNow saved =>
      exact perform_supplied _ (Core.onScheduler_supplied _ fun scheduler =>
        scheduler.dispatch_supplied saved _)
  | timerInterrupt saved =>
      rw [serve, Outcome.ensures_map]
      exact timerInterrupt_supplied kernel saved
  | sleep ms saved =>
      exact perform_supplied _ (Core.onScheduler_supplied _ fun scheduler =>
        scheduler.sleep_supplied ms saved _)
  | exit code saved =>
      exact perform_supplied _ (Core.onScheduler_supplied _ fun scheduler =>
        scheduler.exit_supplied code saved _)
  | reap pid => exact perform_supplied _ (Core.reap_supplied backed pid)
  | currentPid => exact perform_supplied _ (kernel.core.readScheduler_supplied _)
  | processInfo pid => exact perform_supplied _ (kernel.core.readScheduler_supplied _)
  | listProcesses => exact perform_supplied _ (kernel.core.readScheduler_supplied _)
  | stats => exact perform_supplied _ (kernel.core.readScheduler_supplied _)
  | editFiles pid change =>
      exact perform_supplied _ (Core.onScheduler_supplied _ fun _ => trivial)
  | tearDown => exact trivial
  | _ => exact absurd trivial elsewhere

/-! What a kernel answers. -/

def closed (kernel : Kernel) : Service → List Handle
  | .reap pid => (kernel.reap pid).closed
  | _ => []

def answers (start : Kernel) : List Service → List (Except Failure Reply × List Handle)
  | [] => []
  | service :: earlier =>
      let kernel := start.after earlier
      ((kernel.serve service).result, kernel.closed service) :: start.answers earlier

structure Alike (left right : Kernel) : Prop where
  core : left.core = right.core
  clock : left.clock = right.clock
  logger : left.logger.isSome = right.logger.isSome

structure Agree (left right : Outcome Kernel α) : Prop where
  result : left.result = right.result
  state : Alike left.state right.state

theorem Agree.map {left right : Outcome Kernel α} (agree : Agree left right) (f : α → β) :
    Agree (left.map f) (right.map f) :=
  ⟨congrArg (Except.map f) agree.result, agree.state⟩

theorem Agree.andThen {left right : Outcome Kernel α} (agree : Agree left right)
    {leftNext rightNext : α → Kernel → Outcome Kernel β}
    (next : ∀ value left right, Alike left right → Agree (leftNext value left) (rightNext value right)) :
    Agree (left.andThen leftNext) (right.andThen rightNext) := by
  obtain ⟨leftState, result, leftLog⟩ := left
  obtain ⟨rightState, _, rightLog⟩ := right
  obtain ⟨rfl, alike⟩ := agree
  cases result with
  | ok value =>
      have agreeNext := next value leftState rightState alike
      exact ⟨agreeNext.result, agreeNext.state⟩
  | error failure => exact ⟨rfl, alike⟩

theorem Alike.ofMachine (alike : left.Alike right) (computed : Except Trap α) :
    Agree (.ofMachine left computed) (.ofMachine right computed) := by
  cases computed <;> exact ⟨rfl, alike⟩

theorem Alike.perform (alike : left.Alike right) (operation : Core → Outcome Core α) :
    Agree (left.perform operation) (right.perform operation) := by
  unfold Kernel.perform
  rw [alike.core]
  exact ⟨rfl, rfl, alike.clock, by simpa [record] using alike.logger⟩

theorem Alike.tick (alike : left.Alike right) : Agree left.tick right.tick := by
  unfold Kernel.tick
  rw [alike.clock]
  exact ⟨rfl, alike.core, rfl, alike.logger⟩

theorem Alike.uptime (alike : left.Alike right) : Agree left.uptime right.uptime := by
  unfold Kernel.uptime
  rw [alike.core, alike.clock]
  exact (alike.ofMachine _).map _

theorem Alike.installLogger (alike : left.Alike right) (filter : Filter) :
    Agree (left.serve (.installLogger filter)) (right.serve (.installLogger filter)) := by
  obtain ⟨leftCore, leftClock, leftLogger⟩ := left
  obtain ⟨rightCore, rightClock, rightLogger⟩ := right
  obtain ⟨rfl, rfl, logger⟩ := alike
  cases leftLogger with
  | none =>
      cases rightLogger with
      | none => exact ⟨rfl, rfl, rfl, rfl⟩
      | some logging => cases logger
  | some logging =>
      cases rightLogger with
      | none => cases logger
      | some other => exact ⟨rfl, rfl, rfl, rfl⟩

theorem Alike.dispatch (alike : left.Alike right) (saved : Registers) :
    Agree (left.dispatch saved) (right.dispatch saved) := by
  unfold Kernel.dispatch
  rw [alike.clock]
  exact alike.perform _

theorem Alike.serve (alike : left.Alike right) (service : Service) :
    Agree (left.serve service) (right.serve service) := by
  cases service with
  | installLogger filter => exact alike.installLogger filter
  | write record => exact (alike.perform _).map _
  | tick => exact alike.tick.map _
  | uptime => exact alike.uptime.map _
  | timerInterrupt saved =>
      exact (alike.tick.andThen fun _ _ _ alike => alike.dispatch saved).map _
  | dispatch saved => exact (alike.dispatch saved).map _
  | yieldNow saved => exact (alike.dispatch saved).map _
  | sleep ms saved =>
      rw [Kernel.serve, Kernel.serve, sleep, sleep, alike.clock]
      exact (alike.perform _).map _
  | exit code saved =>
      rw [Kernel.serve, Kernel.serve, exit, exit, alike.clock]
      exact (alike.perform _).map _
  | reap pid =>
      rw [Kernel.serve, Kernel.serve, reap, reap, alike.core]
      exact (alike.perform _).map _
  | _ => exact (alike.perform _).map _

theorem Alike.answers (alike : left.Alike right) (services : List Service) :
    left.answers services = right.answers services ∧
      (left.after services).Alike (right.after services) := by
  induction services with
  | nil => exact ⟨rfl, alike⟩
  | cons service earlier ih =>
      obtain ⟨same, alikeBefore⟩ := ih
      have agree := alikeBefore.serve service
      have closed : (left.after earlier).closed service = (right.after earlier).closed service := by
        cases service with
        | reap pid => exact congrArg (fun core => (Core.reap core pid).closed) alikeBefore.core
        | _ => rfl
      refine ⟨?_, agree.state⟩
      rw [Kernel.answers, Kernel.answers, agree.result, closed, same]

/-! The life cycle. -/

structure LifeCycle (start : Kernel) (services : List Service) : Prop where
  aware : start.Aware services
  backed : ∀ scheduler, (start.after services).core.scheduler = some scheduler →
    (start.after services).core.memory.started = true
  supplied : ∀ service : Service, ¬ service.OnMemory →
    ((start.after services).serve service).result ≠ .error (.fatal .allocatorNotStarted)
  refuses : ∀ (service : Service) violation,
    service.Untimely (start.Allocating services) (start.Scheduling services) violation →
    (start.after services).Refuses service violation
  unstarted : ∀ (service : Service) failure, service.Starts →
    ((start.after services).serve service).result = .error failure →
    ((start.after services).serve service).state.core = (start.after services).core
  allocates : ∀ bytes reservedEnd, ¬ start.Allocating services →
    PageAllocator.reservedBelow reservedEnd < bytes / pageSize → bytes ≤ Word.max →
    ((start.after services).serve (.startAllocator bytes reservedEnd)).result = .ok .unit
  schedules : ∀ config scheduler, start.Allocating services → ¬ start.Scheduling services →
    (Scheduler.start config).result = .ok scheduler →
    ((start.after services).serve (.startScheduler config)).result = .ok .unit
  renewed : ((start.after services).serve .tearDown).result = .ok .unit ∧
    ((start.after services).serve .tearDown).state.core = .boot ∧
    ((start.after services).serve .tearDown).state.clock = (start.after services).clock ∧
    ∀ later, ((start.after services).serve .tearDown).state.answers later =
      { boot with
        clock := (start.after services).clock
        logger := (start.after services).logger }.answers later

/-- Whatever services were asked for since boot, in whatever order and with whatever success, no
scheduler is without an allocator, what comes at the wrong time is refused without a trace, and a
kernel that is torn down answers as it would at boot. -/
theorem after_lifeCycle (services : List Service) : boot.LifeCycle services := by
  have aware := after_aware services
  have fenced := fenced_empty services
  have backed : ∀ scheduler, (boot.after services).core.scheduler = some scheduler →
      (boot.after services).core.memory.started = true :=
    fun scheduler present => fenced.started_iff.mpr (fenced.clears scheduler present).1
  refine ⟨aware, backed, fun service elsewhere refused => ?_,
    fun _ _ => serve_untimely aware.allocating aware.scheduling,
    fun _ _ starts failed => serve_unstarted starts failed,
    fun bytes reservedEnd silent => startAllocator_timely ?_,
    fun config scheduler allocating absent => startScheduler_timely (aware.allocating.mpr allocating) ?_,
    rfl, rfl, rfl, fun later => ?_⟩
  · exact (serve_supplied backed elsewhere).of_error refused rfl
  · exact Bool.eq_false_of_not_eq_true fun started => silent (aware.allocating.mp started)
  · exact Option.not_isSome_iff_eq_none.mp fun present => absent (aware.scheduling.mp present)
  · have alike : Alike ((boot.after services).serve .tearDown).state
        { boot with clock := (boot.after services).clock, logger := (boot.after services).logger } :=
      ⟨rfl, rfl, by simp [Kernel.serve, tearDown, perform, record, Outcome.map]⟩
    exact (alike.answers later).1

/-- A scheduler that came too early, then both starts, and both once more after the kernel was torn down. -/
theorem after_lifeCycle_restarted :
    let torn : List Service := [.tearDown, .startScheduler {},
      .startAllocator 65536 ⟨4096, by decide⟩, .startScheduler {}]
    let services := .startScheduler {} :: .startAllocator 65536 ⟨4096, by decide⟩ :: torn
    (boot.after services).Refuses (.startScheduler {}) .schedulerStartedTwice ∧
      (boot.after services).Refuses (.startAllocator 8192 ⟨0, by decide⟩) .allocatorStartedTwice ∧
      (boot.after (.tearDown :: services)).Refuses (.timerInterrupt {}) .schedulerNotStarted ∧
      ((boot.after (.tearDown :: services)).serve (.startAllocator 8192 ⟨0, by decide⟩)).result =
        .ok .unit := by
  intro torn services
  have begun : ((boot.after torn).serve (.startAllocator 65536 ⟨4096, by decide⟩)).result =
      .ok .unit := by decide +kernel
  have scheduled : ((boot.after (.startAllocator 65536 ⟨4096, by decide⟩ :: torn)).serve
      (.startScheduler {})).result = .ok .unit := by decide +kernel
  have allocating : boot.Allocating services :=
    ⟨_, _, (mem_session_cons (by nofun)).mpr (Or.inr (mem_session_self (by nofun) begun))⟩
  have scheduling : boot.Scheduling services := ⟨_, mem_session_self (by nofun) scheduled⟩
  have running := after_lifeCycle services
  have ended := after_lifeCycle (.tearDown :: services)
  exact ⟨running.refuses _ _ (.schedulerAgain allocating scheduling),
    running.refuses _ _ (.allocatorAgain allocating), ended.refuses _ _ (.absent trivial nofun),
    ended.allocates 8192 _ nofun (by decide) (by decide)⟩

end Kernel

end MiniKernel
