import MiniKernel.Proofs.Schedule.Sleepers
import MiniKernel.Proofs.Schedule.Standing

/-! How far one operation moves the state of a process. The process that departs is marked first; the
dispatch after it then settles everybody, and the two steps together are one move. -/

namespace MiniKernel

namespace ProcessState

inductive Moves : ProcessState → ProcessState → Prop
  | runs : Moves .ready .running
  | yields : Moves .running .ready
  | sleeps : Moves .running .sleeping
  | exits : Moves .running .zombie
  | wakes : Moves .sleeping .ready

inductive Settles : ProcessState → ProcessState → Prop
  | stays (state) : Settles state state
  | runs : Settles .ready .running
  | yields : Settles .running .ready
  | wakes : Settles .sleeping .ready

variable {before after : ProcessState}

theorem Settles.moves (settles : before.Settles after) : after = before ∨ before.Moves after := by
  cases settles with
  | stays => exact Or.inl rfl
  | runs => exact Or.inr .runs
  | yields => exact Or.inr .yields
  | wakes => exact Or.inr .wakes

theorem Settles.asleep (settles : before.Settles .sleeping) : before = .sleeping := by
  cases settles
  rfl

theorem Settles.exited (settles : before.Settles .zombie) : before = .zombie := by
  cases settles
  rfl

end ProcessState

namespace Scheduler

variable {scheduler next : Scheduler} {slot other chosen now : Nat} {process rival : ControlBlock}
  {saved registers : Registers} {departure : Departure}

/-- Whoever is chosen was ready or has just made way, for those who wake stand behind. -/
theorem Coherent.turn_settles (coherent : scheduler.Coherent slot process)
    (dispatched : scheduler.Dispatched saved now chosen registers next)
    (held : scheduler.table.get? other = some rival) :
    rival.state.Settles (scheduler.turn saved now chosen other rival).state := by
  rw [turn_state]
  split
  · rename_i own
    subst other
    obtain ⟨same, sameHeld, ready, -⟩ := coherent.chosen dispatched
    obtain rfl := Option.some.inj (held.symm.trans sameHeld)
    rw [settle_eq] at ready
    dsimp only at ready
    split at ready
    · rename_i outgoing
      rw [outgoing.1]
      exact .stays _
    · split at ready
      · rename_i due
        exact absurd (mem_elapsed.mpr ⟨rival, held, due⟩) (coherent.chosen_notMem_elapsed dispatched)
      · rw [ready]
        exact .runs
  · rw [settle_eq]
    dsimp only
    split
    · rename_i outgoing
      rw [outgoing.1]
      exact .yields
    · split
      · rename_i due
        rw [due.1]
        exact .wakes
      · exact .stays _

structure Passage (before : Scheduler) (departure : Departure) (slot : Nat)
    (process after : ControlBlock) : Prop where
  pid : after.pid = process.pid
  moves : after.state = process.state ∨ process.state.Moves after.state
  sleeps : after.state = .sleeping → process.state = .sleeping ∨
    before.current = some slot ∧ ∃ wakeTick, departure = .sleeps wakeTick
  exits : after.state = .zombie → process.state = .zombie ∨
    before.current = some slot ∧ ∃ code, departure = .exits code ∧ after.exitCode = some code
  ended : process.state = .zombie → after.state = .zombie ∧ after.exitCode = process.exitCode

theorem passage_self (running : process.state = .running) {marked after : ControlBlock}
    (current : scheduler.current = some slot) (pid : after.pid = process.pid)
    (mark : marked = departure.mark ⟨scheduler.idleSlot, idlePid⟩ ⟨slot, process.pid⟩ slot process)
    (settles : marked.state.Settles after.state) (exitCode : after.exitCode = marked.exitCode) :
    scheduler.Passage departure slot process after := by
  have ended : process.state = .zombie → after.state = .zombie ∧ after.exitCode = process.exitCode := by
    intro zombie
    rw [running] at zombie
    cases zombie
  cases departure with
  | yields =>
      obtain rfl : marked = process := mark
      refine ⟨pid, settles.moves, fun asleep => Or.inl ?_, fun exited => Or.inl ?_, ended⟩
      · exact (asleep ▸ settles).asleep
      · exact (exited ▸ settles).exited
  | sleeps wakeTick =>
      have state : marked.state = .sleeping := by simp [mark, Departure.mark]
      rw [state] at settles
      refine ⟨pid, ?_, fun _ => Or.inr ⟨current, wakeTick, rfl⟩, fun exited => ?_, ended⟩
      · rw [running]
        generalize after.state = last at settles
        cases settles with
        | stays => exact Or.inr .sleeps
        | wakes => exact Or.inr .yields
      · cases (exited ▸ settles).exited
  | exits code =>
      have state : marked.state = .zombie := by simp [mark, Departure.mark]
      have left : marked.exitCode = some code := by simp [mark, Departure.mark]
      rw [state] at settles
      refine ⟨pid, ?_, fun asleep => ?_, fun _ => ?_, ended⟩
      · rw [running]
        generalize after.state = last at settles
        cases settles
        exact Or.inr .exits
      · cases (asleep ▸ settles).asleep
      · exact Or.inr ⟨current, code, rfl, exitCode.trans left⟩

theorem Switched.passage (switched : scheduler.Switched departure saved now registers next)
    (held : scheduler.table.get? other = some rival) :
    ∃ after, next.table.get? other = some after ∧ scheduler.Passage departure other rival after := by
  obtain ⟨slot, process, chosen, coherent, running, leaves, dispatched⟩ := switched
  let marked := departure.mark ⟨scheduler.idleSlot, idlePid⟩ ⟨slot, process.pid⟩ other rival
  let after := (scheduler.depart slot process departure).turn saved now chosen other marked
  have markedHeld : (scheduler.depart slot process departure).table.get? other = some marked := by
    rw [get?_depart coherent.occupied.holds, held, Option.map_some]
  have afterHeld : next.table.get? other = some after := by
    rw [dispatched.entries, markedHeld, Option.map_some]
  have settles : marked.state.Settles after.state :=
    (coherent.depart running leaves).turn_settles dispatched markedHeld
  have pid : after.pid = rival.pid :=
    (turn_pid ..).trans (ControlBlock.fixed_inj.mp (departure.mark_fixed ..)).1
  have exitCode : after.exitCode = marked.exitCode := turn_exitCode
  refine ⟨after, afterHeld, ?_⟩
  by_cases own : other = slot
  · subst other
    obtain rfl := Option.some.inj (coherent.occupied.holds.symm.trans held)
    exact passage_self running coherent.occupied.current pid rfl settles exitCode
  · have state : marked.state = rival.state := departure.mark_state_other _ ⟨slot, process.pid⟩ own rival
    have sameCode : marked.exitCode = rival.exitCode := by
      cases departure <;> simp [marked, Departure.mark, own]
    rw [state] at settles
    refine ⟨pid, settles.moves, fun asleep => Or.inl (asleep ▸ settles).asleep,
      fun exited => Or.inl (exited ▸ settles).exited, fun zombie => ?_⟩
    rw [zombie] at settles
    refine ⟨?_, exitCode.trans sameCode⟩
    generalize after.state = last at settles
    cases settles
    rfl

end Scheduler

end MiniKernel
