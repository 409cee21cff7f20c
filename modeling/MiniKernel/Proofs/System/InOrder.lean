import MiniKernel.Proofs.System.Basic

/-! What a well-formed scheduler looks like from outside: the queue, the states and the statistics
tell one story in every state that a run reaches. -/

namespace MiniKernel

namespace Scheduler

structure InOrder (scheduler : Scheduler) : Prop where
  running : ∃ slot process, scheduler.current = some slot ∧
    scheduler.table.get? slot = some process ∧ process.state = .running ∧
    scheduler.currentPid = process.pid ∧
    ∀ other rival, scheduler.table.get? other = some rival → rival.state = .running → other = slot
  waiting : ∀ slot, slot ∈ scheduler.ready.waiting ↔
    ∃ process, scheduler.table.get? slot = some process ∧ process.state = .ready
  once : scheduler.ready.waiting.Nodup
  flagged : ∀ slot, scheduler.ready.contains slot = true ↔ slot ∈ scheduler.ready.waiting
  stopped : ∀ slot process, scheduler.table.get? slot = some process →
    process.state = .sleeping ∨ process.state = .zombie → slot ∉ scheduler.ready.waiting
  alive : ∀ slot process, scheduler.table.get? slot = some process → process.state ≠ .dead
  idle : ∃ idle, scheduler.table.get? 0 = some idle ∧ idle.pid = idlePid ∧
    (idle.state = .running ∨ idle.state = .ready)
  live : scheduler.stats.live =
    1 + scheduler.stats.ready + scheduler.stats.sleeping + scheduler.stats.zombies

theorem length_eq_countP (processes : List (Nat × ControlBlock))
    (alive : ∀ entry ∈ processes, entry.2.state ≠ .dead) :
    processes.length =
      (processes.countP fun entry => entry.2.state == .running) +
        (processes.countP fun entry => entry.2.state == .ready) +
        (processes.countP fun entry => entry.2.state == .sleeping) +
        (processes.countP fun entry => entry.2.state == .zombie) := by
  induction processes with
  | nil => rfl
  | cons first rest ih =>
      have counted := ih fun entry member => alive entry (List.mem_cons_of_mem _ member)
      have lives := alive first List.mem_cons_self
      rw [List.length_cons, counted]
      cases state : first.2.state
      case dead => exact absurd state lives
      all_goals
        simp only [state, beq_iff_eq, reduceCtorEq, not_false_eq_true, List.countP_cons_of_neg,
          List.countP_cons_of_pos, BEq.rfl]
        omega

theorem WellFormed.inOrder {scheduler : Scheduler} (wellFormed : scheduler.WellFormed) :
    scheduler.InOrder := by
  obtain ⟨slot, process, coherent, running⟩ := wellFormed
  obtain ⟨current, held, -, alone⟩ := coherent.occupied
  have runners : scheduler.countIn .running = 1 := by
    refine ProcessTable.countP_processes (fun process => process.state == .running)
      (List.nodup_singleton slot) ?_
    intro other
    rw [List.mem_singleton]
    constructor
    · rintro rfl
      exact ⟨process, held, by simp [running]⟩
    · rintro ⟨rival, rivalHeld, state⟩
      exact alone other rival rivalHeld (by simpa using state)
  have waiters : scheduler.countIn .ready = scheduler.ready.length := by
    refine ProcessTable.countP_processes (fun process => process.state == .ready)
      coherent.lined.faithful.distinct ?_
    simpa using coherent.lined.waiting
  constructor
  · exact ⟨slot, process, current, held, running,
      by simp [currentPid, currentProcess?, current, held], alone⟩
  · exact coherent.lined.waiting
  · exact coherent.lined.faithful.distinct
  · exact coherent.lined.faithful.flagged
  · intro other rival rivalHeld state waits
    obtain ⟨waiting, waitingHeld, ready⟩ := (coherent.lined.waiting other).mp waits
    obtain rfl := Option.some.inj (rivalHeld.symm.trans waitingHeld)
    rw [ready] at state
    rcases state with state | state <;> cases state
  · exact coherent.alive
  · obtain ⟨idle, idleHeld, pid, state⟩ := coherent.idle
    exact ⟨idle, idleHeld, pid, state.symm⟩
  · have counted := length_eq_countP scheduler.table.processes fun entry member =>
      coherent.alive entry.1 entry.2 (ProcessTable.mem_processes.mp member)
    change scheduler.table.processes.length = 1 + scheduler.ready.length +
      scheduler.countIn .sleeping + scheduler.countIn .zombie
    rw [← runners, ← waiters]
    exact counted

end Scheduler

/-- A scheduler that was started is in order after every run, whatever the page allocator does. -/
theorem System.after_inOrder {config : Config} {scheduler : Scheduler}
    (started : (Scheduler.start config).result = .ok scheduler) (memory : PageAllocator)
    (calls : List Call) (counted : System.Counted ⟨scheduler, memory⟩ Call.Switches calls) :
    (System.after ⟨scheduler, memory⟩ calls).scheduler.InOrder := by
  obtain ⟨valid, rfl⟩ := (Scheduler.start_ensures config).of_ok started
  have initially : (Scheduler.initial config).WellFormed := Scheduler.wellFormed_initial valid
  exact (System.after_wellFormed initially calls counted).inOrder

theorem System.after_inOrder_reaped :
    (System.after ⟨Scheduler.initial {}, .unstarted⟩ [.reap 1, .switch (.exit 7) {} 2,
      .switch .dispatch {} 1, .spawn ⟨4096, by decide⟩,
      .page (.start 65536 ⟨4096, by decide⟩)]).scheduler.InOrder := by
  have started : (Scheduler.start {}).result = .ok (Scheduler.initial {}) := rfl
  refine System.after_inOrder started _ _ ⟨⟨⟨⟨⟨trivial, ?_⟩, ?_⟩, ?_⟩, ?_⟩, ?_⟩ <;> intro _
  all_goals decide +kernel

end MiniKernel
