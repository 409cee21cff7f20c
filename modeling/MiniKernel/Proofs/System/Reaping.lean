import MiniKernel.Proofs.Schedule.Mask
import MiniKernel.Proofs.Schedule.Moves
import MiniKernel.Proofs.System.Family
import MiniKernel.Proofs.System.Fence

/-! When a process that has exited is reaped makes no difference. A reap may trade places with a switch
and with another reap; every call answers the same, and the system ends the same. -/

namespace MiniKernel

namespace ProcessTable

variable {table next : ProcessTable} {process later : ControlBlock} {slot other : Nat}

theorem freeStacks_congr (frame : next = { table with slots := next.slots })
    (fixed : later.fixed = process.fixed) (memory : PageAllocator) :
    next.freeStacks memory later = table.freeStacks memory process := by
  obtain ⟨-, -, kind, kernelStack, userStack, -⟩ := ControlBlock.fixed_inj.mp fixed
  rw [freeStacks, freeStacks, kind, kernelStack, userStack, frame]

/-- Nobody is the child of a process that has exited, so nobody looks different when it is gone. -/
theorem snapshotOf_clear {lineage : Lineage} (traced : lineage.Traced table)
    (ended : table.get? slot = some process) (zombie : process.state = .zombie) {rival : ControlBlock}
    (held : table.get? other = some rival) (mortal : rival.pid ≠ idlePid) :
    (table.clear slot).snapshotOf rival = table.snapshotOf rival := by
  obtain ⟨creator, home, parent, -, -, link, parentHeld, -, lives⟩ :=
    traced.raised other rival.kin (kin_of_get? held) mortal
  have away : home ≠ slot := by
    rintro rfl
    obtain rfl := Option.some.inj ((kin_of_get? ended).symm.trans parentHeld)
    simp [ControlBlock.kin, zombie] at lives
  have link : rival.parent = some ⟨home, lineage.guardian creator⟩ := link
  simp [snapshotOf, resolveParent, link, get?_clear, away]

theorem snapshotOf_ended (table next : ProcessTable) (fixed : later.fixed = process.fixed)
    (exitCode : later.exitCode = process.exitCode) (zombie : process.state = .zombie)
    (laterZombie : later.state = .zombie) :
    { next.snapshotOf later with state := .dead } =
      { table.snapshotOf process with
        state := .dead, parent := next.resolveParent later.parent } := by
  obtain ⟨pid, name, -⟩ := ControlBlock.fixed_inj.mp fixed
  simp [snapshotOf, pid, name, exitCode, zombie, laterZombie]

end ProcessTable

namespace System

variable {system : System} {slot : Nat} {pid : Pid} {process : ControlBlock}

structure Reapable (system : System) (pid : Pid) (slot : Nat) (process : ControlBlock) : Prop where
  exited : system.scheduler.table.Exited pid slot process
  freed : (system.scheduler.table.freeStacks system.memory process).result = .ok ()

def cleared (system : System) (slot : Nat) (process : ControlBlock) : System where
  scheduler := { system.scheduler with table := system.scheduler.table.clear slot }
  memory := (system.scheduler.table.freeStacks system.memory process).state

theorem Reapable.perform_eq (reapable : system.Reapable pid slot process) :
    ∃ log, system.perform (.reap pid) = ⟨system.cleared slot process,
      .ok (.reaped { system.scheduler.table.snapshotOf process with state := .dead }), log⟩ := by
  obtain ⟨⟨found, holds, -, zombie⟩, freed⟩ := reapable
  refine ⟨(system.perform (.reap pid)).log, ?_⟩
  simp [perform, Scheduler.reap, ProcessTable.reap, found, holds, zombie, Outcome.within, Outcome.map,
    Outcome.andThen, freed, Except.map, Outcome.after, Outcome.done, cleared]

theorem Reapable.result (reapable : system.Reapable pid slot process) :
    (system.perform (.reap pid)).result =
      .ok (.reaped { system.scheduler.table.snapshotOf process with state := .dead }) := by
  obtain ⟨log, performed⟩ := reapable.perform_eq
  rw [performed]

theorem Reapable.state (reapable : system.Reapable pid slot process) :
    (system.perform (.reap pid)).state = system.cleared slot process := by
  obtain ⟨log, performed⟩ := reapable.perform_eq
  rw [performed]

theorem Reapable.closed (reapable : system.Reapable pid slot process) :
    (system.scheduler.reap system.memory pid).closed = process.files.handles :=
  (reapable.exited.reap system.memory).1

/-- In a safe system whoever has exited can be reaped. -/
theorem Safe.reapable (safe : system.Safe) (clears : system.scheduler.Clears ∅)
    (held : system.scheduler.table.get? slot = some process) (zombie : process.state = .zombie) :
    system.Reapable process.pid slot process :=
  ⟨⟨(clears.numbered.lookup_iff process.pid).mpr ⟨process, held, rfl⟩, held, rfl, zombie⟩,
    (Sheltered.freed safe held (clears.pid_ne_idle held zombie)).1⟩

/-! Two reaps. -/

theorem Reapable.safe (reapable : system.Reapable pid slot process) (safe : system.Safe)
    (clears : system.scheduler.Clears ∅) :
    (system.cleared slot process).Safe ∧ (system.cleared slot process).scheduler.Clears ∅ ∧
      system.memory.Frees (system.scheduler.config.stackRun process .kernel ∪
        system.scheduler.config.stackRun process .user) (system.cleared slot process).memory := by
  have exited := reapable.exited
  have lives := clears.pid_ne_idle exited.holds exited.zombie
  exact ⟨Sheltered.reaped safe exited.holds lives, clears.clear exited.holds exited.zombie,
    (Sheltered.freed safe exited.holds lives).2⟩

theorem Reapable.cleared (reapable : system.Reapable pid slot process) (safe : system.Safe)
    (clears : system.scheduler.Clears ∅) {other : Nat} {rival : ControlBlock}
    (held : system.scheduler.table.get? other = some rival) (zombie : rival.state = .zombie)
    (away : other ≠ slot) : (system.cleared slot process).Reapable rival.pid other rival := by
  obtain ⟨clearedSafe, clearedClears, -⟩ := reapable.safe safe clears
  exact clearedSafe.reapable clearedClears (ProcessTable.get?_clear_some.mpr ⟨away, held⟩) zombie

/-- The stacks lie apart, so it does not matter which ones are freed first. -/
theorem Reapable.cleared_comm {other : Nat} {otherPid : Pid} {rival : ControlBlock}
    (reapable : system.Reapable pid slot process) (otherReapable : system.Reapable otherPid other rival)
    (safe : system.Safe) (clears : system.scheduler.Clears ∅) (away : other ≠ slot) :
    (system.cleared slot process).cleared other rival =
      (system.cleared other rival).cleared slot process := by
  obtain ⟨clearedSafe, clearedClears, frees⟩ := reapable.safe safe clears
  obtain ⟨otherSafe, otherClears, otherFrees⟩ := otherReapable.safe safe clears
  have later := reapable.cleared safe clears otherReapable.exited.holds
    otherReapable.exited.zombie away
  have otherLater := otherReapable.cleared safe clears reapable.exited.holds
    reapable.exited.zombie (Ne.symm away)
  have both := frees.trans (later.safe clearedSafe clearedClears).2.2
  have otherBoth := otherFrees.trans (otherLater.safe otherSafe otherClears).2.2
  rw [Finset.union_comm] at otherBoth
  have tables := ProcessTable.clear_comm system.scheduler.table slot other
  exact congrArg₂ System.mk (congrArg (fun table => { system.scheduler with table }) tables)
    (both.unique otherBoth)

/-! A reap and a switch. -/

theorem Reapable.served (reapable : system.Reapable pid slot process)
    (wellFormed : system.scheduler.WellFormed) (room : system.scheduler.switches < Word.max)
    (request : Request) (saved : Registers) (now : Nat) :
    let next : System :=
      { system with scheduler := (system.scheduler.serve saved now request).state }
    ∃ later, next.Reapable pid slot later ∧ later.fixed = process.fixed ∧
      later.exitCode = process.exitCode ∧
      next.scheduler.table.freeStacks system.memory later =
        system.scheduler.table.freeStacks system.memory process := by
  obtain ⟨exited, freed⟩ := reapable
  rcases wellFormed.serve_cases request saved now with
    ⟨registers, -, -, switched⟩ | ⟨failure, -, overflowed | ⟨-, -, -, same⟩⟩
  · obtain ⟨later, held, passage⟩ := switched.passage exited.holds
    obtain ⟨zombie, exitCode⟩ := passage.ended exited.zombie
    have fixed : later.fixed = process.fixed := by
      have entry := switched.fixed slot
      rw [held, exited.holds] at entry
      exact Option.some.inj entry
    obtain ⟨current, runner, coherent, -⟩ := switched.wellFormed
    have frees := ProcessTable.freeStacks_congr switched.table fixed system.memory
    have found := (coherent.lookup_eq held).1
    have named : later.pid = pid := passage.pid.trans exited.named
    rw [named] at found
    exact ⟨later, ⟨⟨found, held, named, zombie⟩, frees ▸ freed⟩, fixed, exitCode, frees⟩
  · exact absurd overflowed.full (Nat.not_lt.mpr room)
  · -- The idle process was turned down.
    intro next
    have unchanged : next.scheduler = system.scheduler := same
    rw [unchanged]
    exact ⟨process, ⟨unchanged ▸ exited, unchanged ▸ freed⟩, rfl, rfl, rfl⟩

structure ReapsAnytime (system : System) (pid : Pid) : Prop where
  switch : ∀ request saved now,
    let call := Call.switch request saved now
    let reaped := (system.perform (.reap pid)).state
    let switched := (system.perform call).state
    (reaped.perform call).result = (system.perform call).result ∧
    (∃ info parent, (system.perform (.reap pid)).result = .ok (.reaped info) ∧
      (switched.perform (.reap pid)).result = .ok (.reaped { info with parent })) ∧
    (switched.scheduler.reap switched.memory pid).closed =
      (system.scheduler.reap system.memory pid).closed ∧
    (reaped.perform call).state = (switched.perform (.reap pid)).state
  reap : ∀ other ∈ system.scheduler.processes, other.state = .zombie → other.pid ≠ pid →
    let reaped := (system.perform (.reap pid)).state
    let otherReaped := (system.perform (.reap other.pid)).state
    (otherReaped.perform (.reap pid)).result = (system.perform (.reap pid)).result ∧
    (reaped.perform (.reap other.pid)).result = (system.perform (.reap other.pid)).result ∧
    (otherReaped.scheduler.reap otherReaped.memory pid).closed =
      (system.scheduler.reap system.memory pid).closed ∧
    (reaped.scheduler.reap reaped.memory other.pid).closed =
      (system.scheduler.reap system.memory other.pid).closed ∧
    (reaped.perform (.reap other.pid)).state = (otherReaped.perform (.reap pid)).state

theorem reapsAnytime (wellFormed : system.scheduler.WellFormed) (safe : system.Safe)
    (room : system.scheduler.switches < Word.max) {lineage : Lineage}
    (traced : lineage.Traced system.scheduler.table) {info : Snapshot}
    (listed : info ∈ system.scheduler.processes) (ended : info.state = .zombie) :
    system.ReapsAnytime info.pid := by
  obtain ⟨slot, process, held, rfl⟩ := Scheduler.mem_processes.mp listed
  have zombie : process.state = .zombie := ended
  have clears := wellFormed.clears
  have reapable := safe.reapable clears held zombie
  obtain ⟨current, runner, coherent, running⟩ := id wellFormed
  change system.ReapsAnytime process.pid
  constructor
  · intro request saved now call reaped switched
    have away : system.scheduler.current ≠ some slot := by
      intro same
      rw [coherent.occupied.current, Option.some.injEq] at same
      subst same
      obtain rfl := Option.some.inj (held.symm.trans coherent.occupied.holds)
      simp [running] at zombie
    obtain ⟨result, state⟩ := Scheduler.serve_clear held zombie away request saved now
    obtain ⟨later, laterReapable, fixed, exitCode, frees⟩ := reapable.served wellFormed room request
      saved now
    have reapedState : reaped = system.cleared slot process := reapable.state
    have files := (ControlBlock.fixed_inj.mp fixed).2.2.2.2.2
    refine ⟨?_, ⟨_, switched.scheduler.table.resolveParent later.parent, reapable.result, ?_⟩, ?_, ?_⟩
    · rw [reapedState]
      exact congrArg (Except.map Answer.resumed) result
    · exact laterReapable.result.trans (congrArg (fun info => Except.ok (Answer.reaped info))
        (ProcessTable.snapshotOf_ended system.scheduler.table _ fixed exitCode zombie
          laterReapable.exited.zombie))
    · rw [reapable.closed, ← files]
      exact laterReapable.closed
    · rw [reapedState]
      exact (congrArg₂ System.mk state (congrArg Outcome.state frees.symm)).trans
        laterReapable.state.symm
  · intro other otherListed otherEnded different reaped otherReaped
    obtain ⟨otherSlot, rival, rivalHeld, rfl⟩ := Scheduler.mem_processes.mp otherListed
    have rivalZombie : rival.state = .zombie := otherEnded
    have otherReapable := safe.reapable clears rivalHeld rivalZombie
    have away : otherSlot ≠ slot := by
      rintro rfl
      obtain rfl := Option.some.inj (held.symm.trans rivalHeld)
      exact different rfl
    have later := reapable.cleared safe clears rivalHeld rivalZombie away
    have otherLater := otherReapable.cleared safe clears held zombie (Ne.symm away)
    have seen := ProcessTable.snapshotOf_clear traced held zombie rivalHeld
      (coherent.pid_ne_idle rivalHeld rivalZombie)
    have otherSeen := ProcessTable.snapshotOf_clear traced rivalHeld rivalZombie held
      (coherent.pid_ne_idle held zombie)
    have reapedState : reaped = system.cleared slot process := reapable.state
    have otherState : otherReaped = system.cleared otherSlot rival := otherReapable.state
    rw [reapedState, otherState]
    refine ⟨?_, ?_, otherLater.closed.trans reapable.closed.symm,
      later.closed.trans otherReapable.closed.symm, ?_⟩
    · rw [otherLater.result, reapable.result, System.cleared, otherSeen]
    · refine later.result.trans (Eq.trans ?_ otherReapable.result.symm)
      rw [System.cleared, seen]
    · refine later.state.trans (Eq.trans ?_ otherLater.state.symm)
      exact reapable.cleared_comm otherReapable safe clears away

/-- The moment of a reap is irrelevant, in every state that a run reaches with room left in the counter
of the switches, if no stack was freed directly. -/
theorem after_reapsAnytime {config : Config} {scheduler : Scheduler}
    (started : (Scheduler.start config).result = .ok scheduler) (calls : List Call)
    (spares : System.SparesStacks ⟨scheduler, .unstarted⟩ calls)
    (switches : (System.after ⟨scheduler, .unstarted⟩ calls).scheduler.switches < Word.max) :
    let reached := System.after ⟨scheduler, .unstarted⟩ calls
    ∀ info ∈ reached.scheduler.processes, info.state = .zombie → reached.ReapsAnytime info.pid := by
  obtain ⟨-, safe⟩ := safe_of_started started spares
  obtain ⟨valid, rfl⟩ := (Scheduler.start_ensures config).of_ok started
  obtain ⟨capacity, -⟩ := Scheduler.validate_ok valid
  have initially : (Scheduler.initial config).WellFormed := Scheduler.wellFormed_initial valid
  have counted := counted_of_room initially switches
  intro reached info listed ended
  exact reapsAnytime (after_wellFormed initially calls counted) safe switches
    (after_traced initially (Lineage.traced_initial capacity) counted) listed ended

theorem after_reapsAnytime_pair :
    let reached := System.after ⟨.initial {}, .unstarted⟩ [.switch (.exit 8) {} 3, .switch (.exit 7) {} 2,
      .switch .dispatch {} 1, .spawn ⟨8192, by decide⟩, .spawn ⟨4096, by decide⟩,
      .page (.start 65536 ⟨4096, by decide⟩)]
    reached.ReapsAnytime 1 ∧ reached.scheduler.countIn .zombie = 2 := by
  have started : (Scheduler.start {}).result = .ok (.initial {}) := rfl
  intro reached
  have anytime := after_reapsAnytime started [.switch (.exit 8) {} 3, .switch (.exit 7) {} 2,
    .switch .dispatch {} 1, .spawn ⟨8192, by decide⟩, .spawn ⟨4096, by decide⟩,
    .page (.start 65536 ⟨4096, by decide⟩)] (by decide +kernel) (by decide +kernel)
  refine ⟨anytime ⟨1, "kthread", .zombie, some 0, none, some 7⟩ (by decide +kernel) rfl, ?_⟩
  decide +kernel

end System

end MiniKernel
