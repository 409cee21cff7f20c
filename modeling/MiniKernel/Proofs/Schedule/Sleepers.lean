import MiniKernel.Proofs.Schedule.WellFormed

/-! Who sleeps and who wakes in a dispatch. The idle process is always in line ahead of those who wake,
so nobody wakes and runs in the same dispatch. -/

namespace MiniKernel.Scheduler

variable {scheduler next : Scheduler} {slot other : Nat} {process rival : ControlBlock}

/-- Whoever wakes stands behind somebody who runs first. -/
theorem Coherent.chosen_notMem_elapsed (coherent : scheduler.Coherent slot process) {saved : Registers}
    {now chosen : Nat} {registers : Registers}
    (dispatched : scheduler.Dispatched saved now chosen registers next) :
    chosen ∉ scheduler.elapsed now := by
  obtain ⟨head, rest, ahead⟩ := List.exists_cons_of_ne_nil coherent.ahead_ne_nil
  have distinct := nodup_line coherent.lined coherent.occupied now
  have line := dispatched.line
  rw [line] at distinct
  rw [Scheduler.line, ahead, List.cons_append, List.cons.injEq] at line
  rw [← line.1, ← line.2, List.nodup_cons] at distinct
  intro wakes
  exact distinct.1 (List.mem_append_right _ (line.1 ▸ wakes))

/-- The process of a slot has a pid, a wake tick and a state. -/
def Holds (scheduler : Scheduler) (slot : Nat) (pid : Pid) (wakeTick : Nat) (state : ProcessState) :
    Prop :=
  ∃ process, scheduler.table.get? slot = some process ∧ process.pid = pid ∧
    process.wakeTick = wakeTick ∧ process.state = state

def stateAt (wakeTick now : Nat) : ProcessState := if wakeTick ≤ now then .ready else .sleeping

theorem Coherent.dispatched_sleeper (coherent : scheduler.Coherent slot process) {saved : Registers}
    {now chosen : Nat} {registers : Registers}
    (dispatched : scheduler.Dispatched saved now chosen registers next)
    (held : scheduler.table.get? other = some rival) (asleep : rival.state = .sleeping) :
    next.Holds other rival.pid rival.wakeTick (stateAt rival.wakeTick now) := by
  have settled : (scheduler.settle saved now other rival).state = stateAt rival.wakeTick now := by
    rw [settle_eq, stateAt]
    simp [asleep]
  have notChosen : other ≠ chosen := by
    rintro rfl
    obtain ⟨same, sameHeld, ready, -⟩ := coherent.chosen dispatched
    obtain rfl := Option.some.inj (held.symm.trans sameHeld)
    rw [settled, stateAt] at ready
    split at ready
    · rename_i due
      exact coherent.chosen_notMem_elapsed dispatched (mem_elapsed.mpr ⟨rival, held, asleep, due⟩)
    · cases ready
  refine ⟨scheduler.turn saved now chosen other rival, ?_, turn_pid .., ?_, ?_⟩
  · rw [dispatched.entries, held, Option.map_some]
  · rw [turn, if_neg notChosen, settle_eq]
  · rw [turn_state, if_neg notChosen, settled]

theorem Switched.sleeper {departure : Departure} {saved registers : Registers} {now : Nat} {pid : Pid}
    {wakeTick : Nat} (switched : scheduler.Switched departure saved now registers next)
    (asleep : scheduler.Holds other pid wakeTick .sleeping) :
    next.Holds other pid wakeTick (stateAt wakeTick now) := by
  obtain ⟨slot, process, chosen, coherent, running, leaves, dispatched⟩ := switched
  obtain ⟨rival, held, rfl, rfl, state⟩ := asleep
  have away : other ≠ slot := by
    rintro rfl
    obtain rfl := Option.some.inj (held.symm.trans coherent.occupied.holds)
    rw [running] at state
    cases state
  let marked := departure.mark ⟨scheduler.idleSlot, idlePid⟩ ⟨slot, process.pid⟩ other rival
  have markedHeld : (scheduler.depart slot process departure).table.get? other = some marked := by
    rw [get?_depart coherent.occupied.holds, held, Option.map_some]
  have markedState : marked.state = .sleeping :=
    (departure.mark_state_other _ ⟨slot, process.pid⟩ away rival).trans state
  have sleeper := (coherent.depart running leaves).dispatched_sleeper dispatched markedHeld markedState
  have pid : marked.pid = rival.pid := (ControlBlock.fixed_inj.mp (departure.mark_fixed ..)).1
  have wakeTick : marked.wakeTick = rival.wakeTick :=
    departure.mark_wakeTick_other _ ⟨slot, process.pid⟩ away rival
  rwa [pid, wakeTick] at sleeper

theorem Switched.departed_sleeper {saved registers : Registers} {now wakeTick : Nat}
    (switched : scheduler.Switched (.sleeps wakeTick) saved now registers next) :
    ∃ slot, next.Holds slot scheduler.currentPid wakeTick (stateAt wakeTick now) := by
  obtain ⟨slot, process, chosen, coherent, running, leaves, dispatched⟩ := switched
  have departed := coherent.depart running leaves
  have mark : Departure.mark ⟨scheduler.idleSlot, idlePid⟩ ⟨slot, process.pid⟩ slot process
      (.sleeps wakeTick) = { process with wakeTick, state := .sleeping } := if_pos rfl
  rw [mark] at departed
  rw [coherent.currentPid_eq]
  exact ⟨slot, departed.dispatched_sleeper dispatched departed.occupied.holds rfl⟩

theorem Switched.punctual {departure : Departure} {saved registers : Registers} {now : Nat}
    (switched : scheduler.Switched departure saved now registers next)
    (held : next.table.get? other = some rival) (asleep : rival.state = .sleeping) :
    next.lastTick < rival.wakeTick := by
  obtain ⟨slot, process, chosen, coherent, running, leaves, dispatched⟩ := switched
  rw [dispatched.entries] at held
  obtain ⟨before, -, rfl⟩ := Option.map_eq_some_iff.mp held
  rw [turn_state] at asleep
  split at asleep
  · cases asleep
  · rename_i notChosen
    rw [dispatched.tick, turn, if_neg notChosen]
    rw [settle_eq] at asleep ⊢
    split at asleep
    · cases asleep
    · split at asleep
      · cases asleep
      · rename_i late
        exact Nat.lt_of_not_le fun due => late ⟨asleep, due⟩

end MiniKernel.Scheduler
