import MiniKernel.Proofs.System.Shelter
import MiniKernel.Proofs.System.Upkeep

/-! A fence around pages that belong to nobody. Once they are allocated, no call but a direct free gives
one of them back, in whatever state the system is; so no stack is ever put on them. -/

namespace MiniKernel

namespace PageAllocator

variable {memory : PageAllocator}

theorem freeStackAt_kept (consistent : memory.Consistent) (address count : Nat) :
    (memory.freeStackAt address count).Ensures (fun _ next => memory.Keeps (span address count) next)
      fun _ next => next = memory := by
  rw [freeStackAt, Outcome.ensures_andThen, Outcome.ensures_ofMachine]
  refine ⟨fun base found => ?_, fun _ _ => rfl⟩
  obtain rfl : base.toNat = address := by
    unfold PhysAddr.ofNat at found
    split at found
    · cases found
      rfl
    · cases found
  exact (freeStack_cases consistent base count).imp (fun _ _ released => released.2.keeps)
    fun _ _ refused => refused.1

end PageAllocator

theorem ProcessTable.freeStacks_kept {table : ProcessTable} {memory : PageAllocator} {config : Config}
    {process : ControlBlock} (consistent : memory.Consistent) (lives : process.pid ≠ idlePid)
    (kernelPages : table.kernelStackPages = config.stackPages .kernel)
    (userPages : table.userStackPages = config.stackPages .user) :
    memory.Keeps (config.stackRun process .kernel ∪ config.stackRun process .user)
      (table.freeStacks memory process).state := by
  have kernelRun : config.stackRun process .kernel =
      span process.kernelStack table.kernelStackPages := by
    rw [kernelPages]
    exact if_pos lives
  suffices ensured : (table.freeStacks memory process).Ensures
      (fun _ => memory.Keeps (config.stackRun process .kernel ∪ config.stackRun process .user))
      fun _ => memory.Keeps (config.stackRun process .kernel ∪ config.stackRun process .user) from
    ensured.state
  rw [freeStacks, Outcome.ensures_andThen]
  refine (PageAllocator.freeStackAt_kept consistent _ _).imp ?_ ?_
  · intro _ middle keeps
    rw [← kernelRun] at keeps
    cases kind : process.kind with
    | kernelThread => exact keeps.mono Finset.subset_union_left
    | user =>
        have userRun : config.stackRun process .user =
            span process.userStack table.userStackPages := by
          rw [userPages]
          exact if_pos kind
        rw [userRun]
        refine (PageAllocator.freeStackAt_kept keeps.consistent _ _).imp
          (fun _ _ userKeeps => keeps.trans userKeeps) ?_
        rintro _ _ rfl
        exact keeps.mono Finset.subset_union_left
  · -- The kernel stack could not be freed, and the user stack is not tried.
    rintro _ _ rfl
    exact consistent.keeps_self.mono (Finset.empty_subset _)

namespace Scheduler

structure Clears (scheduler : Scheduler) (fence : Finset Nat) : Prop where
  numbered : scheduler.table.Numbered
  sizes : scheduler.table.kernelStackPages = scheduler.config.stackPages .kernel ∧
    scheduler.table.userStackPages = scheduler.config.stackPages .user
  idle : ∃ process, scheduler.table.get? scheduler.idleSlot = some process ∧ process.pid = idlePid ∧
    process.state ≠ .zombie
  apart : ∀ slot process stack, scheduler.table.get? slot = some process →
    Disjoint fence (scheduler.config.stackRun process stack)

variable {scheduler next : Scheduler} {fence : Finset Nat} {slot : Nat} {process : ControlBlock}

theorem Clears.pid_ne_idle (clears : scheduler.Clears fence)
    (held : scheduler.table.get? slot = some process) (zombie : process.state = .zombie) :
    process.pid ≠ idlePid := by
  intro named
  obtain ⟨idle, idleHeld, pid, alive⟩ := clears.idle
  obtain rfl := clears.numbered.distinct slot _ process idle held idleHeld (named.trans pid.symm)
  obtain rfl := Option.some.inj (held.symm.trans idleHeld)
  exact alive zombie

theorem Clears.congr (clears : scheduler.Clears fence)
    (same : ∀ slot, (next.table.get? slot).map ControlBlock.grounds =
      (scheduler.table.get? slot).map ControlBlock.grounds)
    (frame : next.table = { scheduler.table with slots := next.table.slots })
    (config : next.config = scheduler.config)
    (idle : ∃ process, next.table.get? next.idleSlot = some process ∧ process.pid = idlePid ∧
      process.state ≠ .zombie) : next.Clears fence := by
  refine ⟨clears.numbered.congr (fun slot => ?_) (by rw [frame]), ?_, idle, ?_⟩
  · have pid : ControlBlock.pid = Prod.fst ∘ ControlBlock.grounds := rfl
    rw [pid, ← Option.map_map, ← Option.map_map, same]
  · rw [frame, config]
    exact clears.sizes
  · intro slot process stack held
    rw [config, Config.stackRun]
    split
    · rename_i has
      obtain ⟨older, olderHeld, olderHas, address⟩ := ProcessTable.stack_before same held has
      have apart := clears.apart slot older stack olderHeld
      rwa [Config.stackRun, if_pos olderHas, address] at apart
    · exact Finset.disjoint_empty_right _

theorem Steady.clears (steady : scheduler.Steady next) (clears : scheduler.Clears fence) :
    next.Clears fence := by
  refine clears.congr (fun slot => ControlBlock.grounds_of_fixed (steady.fixed slot)) steady.table
    steady.config ?_
  obtain ⟨idle, held, pid, alive⟩ := clears.idle
  have same := steady.fixed scheduler.idleSlot
  rw [held, Option.map_some] at same
  obtain ⟨later, laterHeld, fixed⟩ := Option.map_eq_some_iff.mp same
  obtain ⟨laterPid, -⟩ := ControlBlock.fixed_inj.mp fixed
  rw [steady.idleSlot]
  refine ⟨later, laterHeld, laterPid.trans pid, fun zombie => ?_⟩
  obtain ⟨before, beforeHeld, ended⟩ := steady.idle later laterHeld zombie
  obtain rfl := Option.some.inj (held.symm.trans beforeHeld)
  exact alive ended

theorem Clears.withFiles {α : Type} (clears : scheduler.Clears fence) (pid : Pid)
    (change : Descriptors → α × Descriptors) : (scheduler.withFiles pid change).2.Clears fence := by
  obtain ⟨frame, table, -⟩ := withFiles_frame scheduler pid change
  refine clears.congr (fun slot => ?_) table (by rw [frame]) ?_
  · rw [get?_withFiles, Option.map_map]
    rfl
  · obtain ⟨idle, held, named, alive⟩ := clears.idle
    have idleSlot : (scheduler.withFiles pid change).2.idleSlot = scheduler.idleSlot := by rw [frame]
    rw [idleSlot, get?_withFiles, held]
    exact ⟨_, rfl, named, alive⟩

theorem Clears.nextPid_ne_idle (clears : scheduler.Clears fence) :
    scheduler.table.nextPid ≠ idlePid := by
  obtain ⟨idle, held, pid, -⟩ := clears.idle
  rw [← pid]
  exact Nat.ne_of_gt (clears.numbered.below _ idle held)

theorem Entered.housed {memory left : PageAllocator} {entry : VirtAddr} {kind : ProcessKind}
    {name : String} (entered : scheduler.Entered memory entry kind name slot process next left)
    (consistent : memory.Consistent) (clears : scheduler.Clears fence) :
    scheduler.config.Housed process memory left := by
  obtain ⟨footing, footed, born⟩ := entered.born
  have lodged := (ProcessTable.allocFooting_lodges scheduler.table consistent entry kind).of_ok footed
  rw [← entered.pages] at lodged
  have ofKind : process.kind = kind := by rw [born]; rfl
  have named : process.pid = scheduler.table.nextPid := by rw [born]; rfl
  exact Config.housed_of_lodged (ofKind ▸ lodged) clears.sizes.1 clears.sizes.2
    (named ▸ clears.nextPid_ne_idle) (by rw [born]; rfl) (by rw [born]; rfl)

theorem Entered.clears {memory left : PageAllocator} {entry : VirtAddr} {kind : ProcessKind}
    {name : String} (entered : scheduler.Entered memory entry kind name slot process next left)
    (consistent : memory.Consistent) (allocated : fence ⊆ memory.pages.members)
    (clears : scheduler.Clears fence) : next.Clears fence := by
  obtain ⟨idle, idleHeld, pid, alive⟩ := clears.idle
  have housed := entered.housed consistent clears
  refine ⟨entered.numbered clears.numbered, ?_, ?_, ?_⟩
  · rw [entered.table, entered.config]
    exact clears.sizes
  · have away : scheduler.idleSlot ≠ slot := by
      rintro rfl
      rw [(ProcessTable.freeSlot?_some entered.vacant).2.1] at idleHeld
      cases idleHeld
    rw [entered.idleSlot, entered.get?, if_neg away]
    exact ⟨idle, idleHeld, pid, alive⟩
  · intro other rival stack held
    rw [entered.config]
    rw [entered.get?] at held
    split at held
    · -- Its stacks were put on free pages, and the fence has none.
      obtain rfl := Option.some.inj held
      exact Finset.disjoint_of_subset_left allocated (housed.fresh stack)
    · exact clears.apart other rival stack held

theorem Clears.clear (clears : scheduler.Clears fence)
    (held : scheduler.table.get? slot = some process) (zombie : process.state = .zombie) :
    Scheduler.Clears { scheduler with table := scheduler.table.clear slot } fence := by
  obtain ⟨idle, idleHeld, pid, alive⟩ := clears.idle
  have away : scheduler.idleSlot ≠ slot := by
    rintro rfl
    obtain rfl := Option.some.inj (held.symm.trans idleHeld)
    exact alive zombie
  refine ⟨clears.numbered.clear slot, clears.sizes, ⟨idle, ?_, pid, alive⟩, ?_⟩
  · exact ProcessTable.get?_clear_some.mpr ⟨away, idleHeld⟩
  · intro other rival stack rivalHeld
    exact clears.apart other rival stack (ProcessTable.get?_clear_some.mp rivalHeld).2

theorem WellFormed.clears (wellFormed : scheduler.WellFormed) : scheduler.Clears ∅ := by
  obtain ⟨current, runner, coherent, -⟩ := wellFormed
  obtain ⟨idle, held, pid, awake⟩ := coherent.idle
  refine ⟨coherent.numbered, coherent.stackSizes, ⟨idle, coherent.idleSlot ▸ held, pid, ?_⟩, ?_⟩
  · rintro zombie
    rw [zombie] at awake
    rcases awake with awake | awake <;> cases awake
  · exact fun _ _ _ _ => Finset.disjoint_empty_left _

theorem clears_initial {config : Config} (valid : config.validate = .ok ()) (fence : Finset Nat) :
    (initial config).Clears fence := by
  obtain ⟨capacity, -⟩ := validate_ok valid
  refine { (wellFormed_initial valid).clears with apart := fun slot process stack held => ?_ }
  rw [Config.stackRun, if_neg (Accounted.stackless_initial capacity held stack)]
  exact Finset.disjoint_empty_right _

end Scheduler

namespace System

structure Fenced (system : System) (fence : Finset Nat) : Prop where
  consistent : system.memory.Consistent
  allocated : fence ⊆ system.memory.pages.members
  clears : system.scheduler.Clears fence

variable {before after : System} {call : Call} {fence : Finset Nat}

theorem Upkeep.clears (upkeep : before.Upkeep call after) (fenced : before.Fenced fence) :
    after.scheduler.Clears fence := by
  cases upkeep with
  | switched steady => exact steady.clears fenced.clears
  | entered _ entered => exact entered.clears fenced.consistent fenced.allocated fenced.clears
  | cleared exited => exact fenced.clears.clear exited.holds exited.zombie
  | edited pid change => exact fenced.clears.withFiles pid _
  | _ => exact fenced.clears

theorem Upkeep.keeps (upkeep : before.Upkeep call after) (fenced : before.Fenced fence)
    (indirect : ∀ direct, call ≠ .page direct) :
    ∃ given, before.memory.Keeps given after.memory ∧ Disjoint fence given := by
  have kept := fenced.consistent.keeps_self
  cases upkeep with
  | @uncreated call entry kind name failure left creates uncreated =>
      refine ⟨∅, ?_, Finset.disjoint_empty_right _⟩
      rcases uncreated with ⟨-, -, rfl⟩ | ⟨-, rfl, -⟩
      · exact kept
      · exact ProcessTable.allocFooting_keeps _ fenced.consistent entry kind
  | entered _ entered =>
      refine ⟨∅, ?_, Finset.disjoint_empty_right _⟩
      rw [entered.pages]
      exact ProcessTable.allocFooting_keeps _ fenced.consistent _ _
  | @cleared pid slot process exited =>
      have lives := fenced.clears.pid_ne_idle exited.holds exited.zombie
      refine ⟨_, ProcessTable.freeStacks_kept fenced.consistent lives fenced.clears.sizes.1
        fenced.clears.sizes.2, ?_⟩
      rw [Finset.disjoint_union_right]
      exact ⟨fenced.clears.apart slot process .kernel exited.holds,
        fenced.clears.apart slot process .user exited.holds⟩
  | page call => exact absurd rfl (indirect call)
  | _ => exact ⟨∅, kept, Finset.disjoint_empty_right _⟩

/-- Whatever the call and its outcome, the fence stays closed, unless pages are freed directly. -/
theorem perform_fenced (fenced : before.Fenced fence) (indirect : ∀ direct, call ≠ .page direct) :
    (before.perform call).state.Fenced fence ∧
      (before.perform call).state.memory.total = before.memory.total := by
  have upkeep := perform_upkeep before call
  obtain ⟨given, keeps, spared⟩ := upkeep.keeps fenced indirect
  exact ⟨⟨keeps.consistent, keeps.retains fenced.allocated spared, upkeep.clears fenced⟩, keeps.total⟩

/-! Stacks. They lie apart and can be freed in every state of a run that did not free one directly. -/

variable {start : System} {calls : List Call}

theorem Upkeep.safe (upkeep : before.Upkeep call after) (clears : before.scheduler.Clears ∅)
    (safe : before.Safe) (spares : before.Spares call) : after.Safe := by
  cases upkeep with
  | switched steady =>
      rw [Safe, steady.config]
      exact Sheltered.congr safe (fun slot => ControlBlock.grounds_of_fixed (steady.fixed slot))
        (by rw [steady.table])
  | @uncreated call entry kind name failure left creates uncreated =>
      rcases uncreated with ⟨-, -, rfl⟩ | ⟨-, rfl, -⟩
      · exact safe
      · exact Sheltered.kept safe (ProcessTable.allocFooting_keeps _ safe.consistent entry kind)
          fun _ _ _ _ => Finset.disjoint_empty_left _
  | entered _ entered =>
      rw [Safe, entered.config]
      exact Sheltered.created safe (entered.housed safe.consistent clears)
        (ProcessTable.freeSlot?_some entered.vacant).2.1 entered.get? (by rw [entered.table]; rfl)
  | unreaped => exact safe
  | cleared exited =>
      exact Sheltered.reaped safe exited.holds (clears.pid_ne_idle exited.holds exited.zombie)
  | edited pid change =>
      obtain ⟨frame, table, -⟩ := Scheduler.withFiles_frame before.scheduler pid
        fun files => ((), change files)
      rw [Safe, frame]
      refine Sheltered.congr safe (fun slot => ?_) (by rw [table])
      rw [Scheduler.get?_withFiles, Option.map_map]
      rfl
  | page direct => exact Sheltered.paged safe direct (spares direct rfl)

theorem after_safe (safe : start.Safe) (clears : start.scheduler.Clears ∅)
    (spares : start.SparesStacks calls) :
    (start.after calls).scheduler.Clears ∅ ∧ (start.after calls).Safe := by
  induction calls with
  | nil => exact ⟨clears, safe⟩
  | cons call earlier ih =>
      obtain ⟨reached, sheltered⟩ := ih spares.1
      have upkeep := perform_upkeep (start.after earlier) call
      exact ⟨upkeep.clears ⟨sheltered.consistent, Finset.empty_subset _, reached⟩,
        upkeep.safe reached sheltered spares.2⟩

theorem safe_of_started {config : Config} {scheduler : Scheduler}
    (started : (Scheduler.start config).result = .ok scheduler)
    (spares : System.SparesStacks ⟨scheduler, .unstarted⟩ calls) :
    (System.after ⟨scheduler, .unstarted⟩ calls).scheduler.Clears ∅ ∧
      (System.after ⟨scheduler, .unstarted⟩ calls).Safe := by
  obtain ⟨valid, rfl⟩ := (Scheduler.start_ensures config).of_ok started
  have initially : System.Safe ⟨.initial config, .unstarted⟩ :=
    Sheltered.initially (Scheduler.validate_ok valid).1
  exact after_safe initially (Scheduler.clears_initial valid ∅) spares

end System

end MiniKernel
