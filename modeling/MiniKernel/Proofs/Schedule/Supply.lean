import MiniKernel.Proofs.Process.Lifecycle
import MiniKernel.Schedule.Operations

/-! An allocator that has been started stays so, and no operation complains any more that it has not
been. The scheduler itself never says so. -/

namespace MiniKernel

def Failure.Supplied (failure : Failure) : Prop := failure ≠ .fatal .allocatorNotStarted

theorem Failure.Supplied.trapped (trap : Trap) : (Failure.trapped trap).Supplied := nofun

namespace PageAllocator

variable {memory : PageAllocator}

theorem start_supplied (memory : PageAllocator) (bytes : Nat) (reservedEnd : PhysAddr) :
    (memory.start bytes reservedEnd).Ensures (fun _ _ => True)
      fun failure _ => failure.Supplied := by
  unfold start
  split
  · exact nofun
  · dsimp only
    split
    · exact nofun
    · split
      · exact nofun
      · exact trivial

theorem alloc_supplied (started : memory.started = true) :
    memory.alloc.Ensures (fun _ next => next.started = true) fun failure _ => failure.Supplied := by
  rw [alloc, if_pos started]
  split
  · exact started
  · rw [Outcome.ensures_andThen, Outcome.ensures_ofMachine]
    refine ⟨fun used _ => ?_, fun trap _ => .trapped trap⟩
    rw [Outcome.ensures_map, Outcome.ensures_ofMachine]
    exact ⟨fun _ _ => started, fun trap _ => .trapped trap⟩

theorem allocRun_supplied (started : memory.started = true) (count : Nat) :
    (memory.allocRun count).Ensures (fun _ next => next.started = true)
      fun failure _ => failure.Supplied := by
  rw [allocRun, if_pos started]
  split
  · exact started
  · rw [Outcome.ensures_andThen, Outcome.ensures_ofMachine]
    refine ⟨fun used _ => ?_, fun trap _ => .trapped trap⟩
    rw [Outcome.ensures_map, Outcome.ensures_ofMachine]
    exact ⟨fun _ _ => started, fun trap _ => .trapped trap⟩

theorem allocStack_supplied (started : memory.started = true) (pages : Nat) :
    (memory.allocStack pages).Ensures (fun _ next => next.started = true)
      fun failure _ => failure.Supplied := by
  unfold allocStack
  split
  · exact alloc_supplied started
  · exact allocRun_supplied started pages

theorem Unfreed.supplied {failure : Failure} (unfreed : Unfreed memory.started failure)
    (started : memory.started = true) : failure.Supplied := by
  cases unfreed with
  | silent silent => exact absurd (started.symm.trans silent) (by simp)
  | _ => exact nofun

end PageAllocator

namespace ProcessTable

variable {memory : PageAllocator}

theorem allocFooting_supplied (table : ProcessTable) (started : memory.started = true)
    (entry : VirtAddr) (kind : ProcessKind) :
    (table.allocFooting memory entry kind).Ensures (fun _ _ => True)
      fun failure _ => failure.Supplied := by
  cases kind with
  | kernelThread =>
      rw [allocFooting, allocKernelFooting, Outcome.ensures_andThen]
      refine (PageAllocator.allocStack_supplied started _).imp ?_ fun _ _ supplied => supplied
      rintro (_ | base) next -
      · exact nofun
      · rw [Outcome.ensures_map, Outcome.ensures_ofMachine]
        exact ⟨fun _ _ => trivial, fun trap _ => .trapped trap⟩
  | user =>
      rw [allocFooting, allocUserFooting, Outcome.ensures_andThen]
      refine (PageAllocator.allocStack_supplied started _).imp ?_ fun _ _ supplied => supplied
      rintro (_ | kernelBase) middle startedStill
      · exact nofun
      rw [Outcome.ensures_andThen]
      refine (PageAllocator.allocStack_supplied startedStill _).imp ?_ fun _ _ supplied => supplied
      rintro (_ | userBase) next startedLast
      · rw [Outcome.ensures_andThen]
        exact (PageAllocator.freeStack_fails ..).imp (fun _ _ _ => nofun)
          fun _ _ unfreed => unfreed.supplied startedLast
      · rw [Outcome.ensures_map, Outcome.ensures_ofMachine]
        exact ⟨fun _ _ => trivial, fun trap _ => .trapped trap⟩

theorem registerIdle_supplied (table : ProcessTable) :
    table.registerIdle.Ensures (fun _ _ => True) fun failure _ => failure.Supplied := by
  unfold registerIdle
  split
  · split
    · exact nofun
    · exact trivial
  · exact nofun

theorem create_supplied (table : ProcessTable) (started : memory.started = true) (entry : VirtAddr)
    (kind : ProcessKind) (name : String) (parent : Option ParentLink) :
    (table.create memory entry kind name parent).Ensures (fun _ _ => True)
      fun failure _ => failure.Supplied := by
  unfold create
  split
  · exact nofun
  · rw [Outcome.ensures_andThen, Outcome.ensures_within]
    refine (table.allocFooting_supplied started entry kind).imp ?_ fun _ _ supplied => supplied
    intro footing next _
    rw [Outcome.ensures_andThen, Outcome.ensures_ofMachine]
    exact ⟨fun _ _ => trivial, fun trap _ => .trapped trap⟩

theorem reap_supplied (table : ProcessTable) (started : memory.started = true) (pid : Pid) :
    (table.reap memory pid).outcome.Ensures (fun _ _ => True)
      fun failure _ => failure.Supplied := by
  unfold reap
  split
  · exact nofun
  · split
    · rw [Outcome.ensures_within, Outcome.ensures_map]
      exact (table.freeStacks_fails memory _).imp (fun _ _ _ => trivial)
        fun _ _ unfreed => unfreed.supplied started
    · exact nofun

end ProcessTable

namespace Scheduler

variable {memory : PageAllocator}

theorem start_supplied (config : Config) :
    (start config).Ensures (fun _ _ => True) fun failure _ => failure.Supplied := by
  rw [start, Outcome.ensures_andThen, Outcome.ensures_ofContract]
  refine ⟨fun _ _ => ?_, fun violation refused => ?_⟩
  · rw [Outcome.ensures_andThen, Outcome.ensures_ofMachine]
    refine ⟨fun table _ => ?_, fun trap _ => .trapped trap⟩
    rw [Outcome.ensures_andThen, Outcome.ensures_within]
    refine (table.registerIdle_supplied).imp ?_ fun _ _ supplied => supplied
    intro idleSlot _ _
    rw [Outcome.ensures_andThen, Outcome.ensures_ofMachine]
    refine ⟨fun rate _ => ?_, fun trap _ => .trapped trap⟩
    rw [Outcome.ensures_after, Outcome.ensures_map, Outcome.ensures_ofMachine]
    exact ⟨fun _ _ => trivial, fun trap _ => .trapped trap⟩
  · unfold Config.validate at refused
    split at refused
    · cases refused
      exact nofun
    · split at refused
      · cases refused
        exact nofun
      · split at refused
        · cases refused
          exact nofun
        · cases refused

theorem enqueue_supplied (scheduler : Scheduler) (slot : Nat) :
    (scheduler.enqueue slot).Ensures (fun _ _ => True) fun failure _ => failure.Supplied := by
  unfold enqueue
  dsimp only
  split
  · exact trivial
  · exact nofun

theorem makeWay_supplied (scheduler : Scheduler) (saved : Registers) :
    (scheduler.makeWay saved).Ensures (fun _ _ => True) fun failure _ => failure.Supplied := by
  unfold makeWay
  split
  · exact trivial
  · dsimp only
    split
    · exact nofun
    · split
      · exact enqueue_supplied ..
      · exact trivial
      · exact trivial
      · exact nofun

theorem wake_supplied (scheduler : Scheduler) (slots : List Nat) :
    (scheduler.wake slots).Ensures (fun _ _ => True) fun failure _ => failure.Supplied := by
  induction slots generalizing scheduler with
  | nil => exact trivial
  | cons slot slots ih =>
      rw [wake, Outcome.ensures_andThen]
      exact (enqueue_supplied ..).imp (fun _ next _ => ih next) fun _ _ supplied => supplied

theorem runHead_supplied (scheduler : Scheduler) (previous : Option Nat) :
    (scheduler.runHead previous).Ensures (fun _ _ => True) fun failure _ => failure.Supplied := by
  unfold runHead
  split
  · exact nofun
  · dsimp only
    split
    · exact nofun
    · split
      · rw [Outcome.ensures_andThen, Outcome.ensures_ofMachine]
        exact ⟨fun _ _ => trivial, fun trap _ => .trapped trap⟩
      · exact nofun

theorem dispatch_supplied (scheduler : Scheduler) (saved : Registers) (now : Nat) :
    (scheduler.dispatch saved now).Ensures (fun _ _ => True) fun failure _ => failure.Supplied := by
  rw [dispatch, Outcome.ensures_andThen]
  refine (makeWay_supplied ..).imp ?_ fun _ _ supplied => supplied
  intro _ waiting _
  rw [wakeSleepers, Outcome.ensures_andThen]
  exact (wake_supplied ..).imp (fun _ next _ => next.runHead_supplied _) fun _ _ supplied => supplied

theorem running_supplied {scheduler : Scheduler} {violation : Violation}
    (refused : scheduler.running = .error violation) : (Failure.fatal violation).Supplied := by
  unfold running at refused
  split at refused
  · split at refused
    · cases refused
    · cases refused
      exact nofun
  · cases refused
    exact nofun

theorem sleep_supplied (scheduler : Scheduler) (ms : Nat) (saved : Registers) (now : Nat) :
    (scheduler.sleep ms saved now).Ensures (fun _ _ => True) fun failure _ => failure.Supplied := by
  rw [sleep, Outcome.ensures_andThen, Outcome.ensures_ofMachine]
  refine ⟨fun delta _ => ?_, fun trap _ => .trapped trap⟩
  rw [Outcome.ensures_andThen, Outcome.ensures_ofContract]
  refine ⟨fun runner _ => ?_, fun violation refused => running_supplied refused⟩
  dsimp only
  split
  · exact nofun
  · exact dispatch_supplied ..

theorem exit_supplied (scheduler : Scheduler) (code : Int) (saved : Registers) (now : Nat) :
    (scheduler.exit code saved now).Ensures (fun _ _ => True) fun failure _ => failure.Supplied := by
  rw [exit, Outcome.ensures_andThen, Outcome.ensures_ofContract]
  refine ⟨fun runner _ => ?_, fun violation refused => running_supplied refused⟩
  dsimp only
  split
  · exact nofun
  · exact dispatch_supplied ..

theorem create_supplied (scheduler : Scheduler) (started : memory.started = true)
    (entry : VirtAddr) (kind : ProcessKind) (name : String) :
    (scheduler.create memory entry kind name).Ensures (fun _ _ => True)
      fun failure _ => failure.Supplied := by
  rw [create, Outcome.ensures_andThen, Outcome.ensures_within]
  refine (ProcessTable.create_supplied _ started ..).imp ?_ fun _ _ supplied => supplied
  intro entered next _
  rw [Outcome.ensures_andThen, Outcome.ensures_within]
  exact (enqueue_supplied ..).imp (fun _ _ _ => trivial) fun _ _ supplied => supplied

theorem reap_supplied (scheduler : Scheduler) (started : memory.started = true) (pid : Pid) :
    (scheduler.reap memory pid).outcome.Ensures (fun _ _ => True)
      fun failure _ => failure.Supplied := by
  rw [reap, Outcome.ensures_andThen, Outcome.ensures_within]
  exact (ProcessTable.reap_supplied _ started pid).imp (fun _ _ _ => trivial)
    fun _ _ supplied => supplied

end Scheduler

end MiniKernel
