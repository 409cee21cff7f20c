import MiniKernel.Proofs.Schedule.Dispatch
import MiniKernel.Schedule.Operations

/-! How the running process leaves the processor. To sleep and to exit is to be marked first and
dispatched then, so all three ways out differ in the mark alone. -/

namespace MiniKernel

def ControlBlock.fixed (process : ControlBlock) : ControlBlock :=
  { process with state := .ready, context := {}, wakeTick := 0, parent := none, exitCode := none }

theorem ControlBlock.fixed_inj {left right : ControlBlock} : left.fixed = right.fixed ↔
    left.pid = right.pid ∧ left.name = right.name ∧ left.kind = right.kind ∧
      left.kernelStack = right.kernelStack ∧ left.userStack = right.userStack ∧
      left.files = right.files := by
  simp [fixed]

inductive Departure
  | yields
  | sleeps (wakeTick : Nat)
  | exits (code : Int)
  deriving DecidableEq, Repr

namespace Departure

def mark (idle link : ParentLink) (slot : Nat) (process : ControlBlock) : Departure → ControlBlock
  | .yields => process
  | .sleeps wakeTick =>
      if slot = link.slot then { process with wakeTick, state := .sleeping } else process
  | .exits code =>
      let parent := if process.parent = some link then some idle else process.parent
      if slot = link.slot then { process with parent, state := .zombie, exitCode := some code }
      else { process with parent }

theorem mark_frame (departure : Departure) (idle link : ParentLink) (slot : Nat)
    (process : ControlBlock) :
    departure.mark idle link slot process = { process with
      state := (departure.mark idle link slot process).state
      wakeTick := (departure.mark idle link slot process).wakeTick
      parent := (departure.mark idle link slot process).parent
      exitCode := (departure.mark idle link slot process).exitCode } := by
  cases departure <;> by_cases own : slot = link.slot <;> simp [mark, own]

theorem mark_fixed (departure : Departure) (idle link : ParentLink) (slot : Nat)
    (process : ControlBlock) :
    (departure.mark idle link slot process).fixed = process.fixed := by
  rw [mark_frame]
  rfl

def state : Departure → ProcessState
  | .yields => .running
  | .sleeps _ => .sleeping
  | .exits _ => .zombie

theorem mark_state_self (departure : Departure) (idle link : ParentLink) {process : ControlBlock}
    (running : process.state = .running) :
    (departure.mark idle link link.slot process).state = departure.state := by
  cases departure <;> simp [mark, state, running]

theorem mark_state_other (departure : Departure) (idle link : ParentLink) {slot : Nat}
    (other : slot ≠ link.slot) (process : ControlBlock) :
    (departure.mark idle link slot process).state = process.state := by
  cases departure <;> simp [mark, other]

theorem mark_wakeTick_other (departure : Departure) (idle link : ParentLink) {slot : Nat}
    (other : slot ≠ link.slot) (process : ControlBlock) :
    (departure.mark idle link slot process).wakeTick = process.wakeTick := by
  cases departure <;> simp [mark, other]

end Departure

def Config.ticksFor (config : Config) (ms : Nat) : Nat :=
  Word.satAdd (Word.satMul ms (1000 / config.quantum)) 999 / 1000

theorem Config.tickRate_ok {config : Config} (quantum : config.quantum ≠ 0) :
    config.tickRate = .ok (1000 / config.quantum) := if_neg quantum

theorem Config.ticksOfMillis_ok {config : Config} (quantum : config.quantum ≠ 0) (ms : Nat) :
    config.ticksOfMillis ms = .ok (config.ticksFor ms) := by
  rw [ticksOfMillis, tickRate_ok quantum]
  rfl

namespace Scheduler

variable {scheduler : Scheduler} {slot : Nat} {process : ControlBlock}

def depart (scheduler : Scheduler) (slot : Nat) (process : ControlBlock) : Departure → Scheduler
  | .yields => scheduler
  | .sleeps wakeTick =>
      { scheduler with
        table := scheduler.table.put slot { process with wakeTick, state := .sleeping } }
  | .exits code =>
      let exited := { process with state := .zombie, exitCode := some code }
      { scheduler with table := scheduler.table.put slot exited }.reparent ⟨slot, process.pid⟩

theorem depart_frame (scheduler : Scheduler) (slot : Nat) (process : ControlBlock)
    (departure : Departure) :
    scheduler.depart slot process departure =
      { scheduler with table := (scheduler.depart slot process departure).table } := by
  cases departure <;> rfl

theorem table_depart (scheduler : Scheduler) (slot : Nat) (process : ControlBlock)
    (departure : Departure) :
    (scheduler.depart slot process departure).table =
      { scheduler.table with slots := (scheduler.depart slot process departure).table.slots } := by
  cases departure <;> rfl

theorem capacity_depart (scheduler : Scheduler) (slot : Nat) (process : ControlBlock)
    (departure : Departure) :
    (scheduler.depart slot process departure).table.capacity = scheduler.table.capacity := by
  cases departure with
  | yields => rfl
  | sleeps wakeTick => exact ProcessTable.capacity_put ..
  | exits code => exact (ProcessTable.capacity_modifyAll ..).trans (ProcessTable.capacity_put ..)

theorem get?_depart (held : scheduler.table.get? slot = some process) (departure : Departure)
    (other : Nat) :
    (scheduler.depart slot process departure).table.get? other =
      (scheduler.table.get? other).map
        (departure.mark ⟨scheduler.idleSlot, idlePid⟩ ⟨slot, process.pid⟩ other) := by
  have bound := ProcessTable.get?_lt held
  cases departure with
  | yields =>
      rw [depart]
      exact (Option.map_id' ..).symm
  | sleeps wakeTick =>
      rw [depart, ProcessTable.get?_put bound]
      by_cases same : other = slot
      · subst other
        simp [held, Departure.mark]
      · cases scheduler.table.get? other <;> simp [same, Departure.mark]
  | exits code =>
      rw [depart, reparent, ProcessTable.get?_modifyAll, ProcessTable.get?_put bound]
      by_cases same : other = slot
      · subst other
        by_cases child : process.parent = some ⟨slot, process.pid⟩ <;>
          simp [held, Departure.mark, child]
      · cases scheduler.table.get? other with
        | none => simp [same]
        | some rival =>
            by_cases child : rival.parent = some ⟨slot, process.pid⟩ <;>
              simp [same, Departure.mark, child]

theorem running_eq (current : scheduler.current = some slot)
    (held : scheduler.table.get? slot = some process) (running : process.state = .running) :
    scheduler.running = .ok (slot, process) := by
  simp [Scheduler.running, currentProcess?, current, held, running]

theorem sleep_eq (current : scheduler.current = some slot)
    (held : scheduler.table.get? slot = some process) (running : process.state = .running)
    (quantum : scheduler.config.quantum ≠ 0) (leaves : slot ≠ scheduler.idleSlot) (ms : Nat)
    (saved : Registers) (now : Nat) :
    scheduler.sleep ms saved now =
      let wakeTick := Word.satAdd now (scheduler.config.ticksFor ms)
      .after (.processSleeping process.pid wakeTick)
        ((scheduler.depart slot process (.sleeps wakeTick)).dispatch saved now) := by
  rw [sleep, Config.ticksOfMillis_ok quantum, running_eq current held running]
  simp [Outcome.ofMachine, Outcome.ofContract, leaves, depart]

theorem sleep_idle (current : scheduler.current = some slot)
    (held : scheduler.table.get? slot = some process) (running : process.state = .running)
    (quantum : scheduler.config.quantum ≠ 0) (idle : slot = scheduler.idleSlot) (ms : Nat)
    (saved : Registers) (now : Nat) :
    scheduler.sleep ms saved now = .fatal scheduler .idleSleeps := by
  rw [sleep, Config.ticksOfMillis_ok quantum, running_eq current held running]
  simp [Outcome.ofMachine, Outcome.ofContract, idle]

theorem exit_eq (current : scheduler.current = some slot)
    (held : scheduler.table.get? slot = some process) (running : process.state = .running)
    (leaves : slot ≠ scheduler.idleSlot) (code : Int) (saved : Registers) (now : Nat) :
    scheduler.exit code saved now =
      .after (.processExited process.pid code)
        ((scheduler.depart slot process (.exits code)).dispatch saved now) := by
  rw [exit, running_eq current held running]
  simp [Outcome.ofContract, leaves, depart]

theorem exit_idle (current : scheduler.current = some slot)
    (held : scheduler.table.get? slot = some process) (running : process.state = .running)
    (idle : slot = scheduler.idleSlot) (code : Int) (saved : Registers) (now : Nat) :
    scheduler.exit code saved now = .fatal scheduler .idleExits := by
  rw [exit, running_eq current held running]
  simp [Outcome.ofContract, idle]

end Scheduler

end MiniKernel
