import MiniKernel.Proofs.Schedule.Population

/-! What stays on record of a process while it is in the table. A dispatch moves processes between all
states but the one of those that have exited, and only an exit leads there. -/

namespace MiniKernel

structure Standing where
  pid : Pid
  name : String
  exited : Bool
  exitCode : Option Int

def ControlBlock.standing (process : ControlBlock) : Standing :=
  ⟨process.pid, process.name, decide (process.state = .zombie), process.exitCode⟩

def Snapshot.standing (info : Snapshot) : Standing :=
  ⟨info.pid, info.name, decide (info.state = .zombie), info.exitCode⟩

def ControlBlock.lasting (process : ControlBlock) :
    Pid × String × Option ParentLink × Bool × Option Int :=
  (process.pid, process.name, process.parent, decide (process.state = .zombie), process.exitCode)

theorem ControlBlock.standing_of_lasting {left right : Option ControlBlock}
    (same : left.map ControlBlock.lasting = right.map ControlBlock.lasting) :
    left.map ControlBlock.standing = right.map ControlBlock.standing := by
  have standing := congrArg (Option.map fun (pid, name, _, exited, exitCode) =>
    Standing.mk pid name exited exitCode) same
  rwa [Option.map_map, Option.map_map] at standing

def ProcessTable.standing? (table : ProcessTable) (slot : Nat) : Option Standing :=
  (table.get? slot).map ControlBlock.standing

theorem ProcessTable.standing_of_get? {table : ProcessTable} {slot : Nat} {process : ControlBlock}
    (held : table.get? slot = some process) : table.standing? slot = some process.standing := by
  rw [standing?, held, Option.map_some]

namespace Scheduler

variable {scheduler next : Scheduler} {slot other chosen now : Nat} {process rival : ControlBlock}
  {saved registers : Registers}

theorem settle_zombie_iff (scheduler : Scheduler) (saved : Registers) (now slot : Nat)
    (process : ControlBlock) :
    (scheduler.settle saved now slot process).state = .zombie ↔ process.state = .zombie := by
  rw [settle_eq]
  cases process.state <;> simp <;> split <;> simp

theorem turn_exitCode : (scheduler.turn saved now chosen slot process).exitCode = process.exitCode := by
  rw [turn, settle_eq]
  split <;> rfl

theorem Coherent.turn_zombie_iff (coherent : scheduler.Coherent slot process)
    (dispatched : scheduler.Dispatched saved now chosen registers next)
    (held : scheduler.table.get? other = some rival) :
    (scheduler.turn saved now chosen other rival).state = .zombie ↔ rival.state = .zombie := by
  rw [turn_state]
  split
  · rename_i own
    subst other
    obtain ⟨same, sameHeld, ready, -⟩ := coherent.chosen dispatched
    obtain rfl := Option.some.inj (held.symm.trans sameHeld)
    -- A zombie would have settled as one and not been in line.
    rw [← settle_zombie_iff scheduler saved now chosen, ready]
    simp
  · exact settle_zombie_iff ..

theorem turn_parent : (scheduler.turn saved now chosen slot process).parent = process.parent := by
  rw [turn, settle_eq]
  split <;> rfl

theorem Coherent.dispatched_lasting (coherent : scheduler.Coherent slot process)
    (dispatched : scheduler.Dispatched saved now chosen registers next) (other : Nat) :
    (next.table.get? other).map ControlBlock.lasting =
      (scheduler.table.get? other).map ControlBlock.lasting := by
  rw [dispatched.entries]
  cases held : scheduler.table.get? other with
  | none => rfl
  | some rival =>
      obtain ⟨pid, name, -⟩ :=
        ControlBlock.fixed_inj.mp (turn_fixed scheduler saved now chosen other rival)
      simp only [Option.map_some, ControlBlock.lasting, pid, name, turn_parent, turn_exitCode,
        coherent.turn_zombie_iff dispatched held]

theorem Switched.lasting_stays {departure : Departure} (stays : ∀ code, departure ≠ .exits code)
    (switched : scheduler.Switched departure saved now registers next) (other : Nat) :
    (next.table.get? other).map ControlBlock.lasting =
      (scheduler.table.get? other).map ControlBlock.lasting := by
  obtain ⟨slot, process, chosen, coherent, running, leaves, dispatched⟩ := switched
  rw [(coherent.depart running leaves).dispatched_lasting dispatched, get?_depart coherent.occupied.holds]
  cases held : scheduler.table.get? other with
  | none => rfl
  | some rival =>
      cases departure with
      | yields => rfl
      | exits code => exact absurd rfl (stays code)
      | sleeps wakeTick =>
          by_cases own : other = slot
          · subst other
            obtain rfl := Option.some.inj (held.symm.trans coherent.occupied.holds)
            simp [Departure.mark, ControlBlock.lasting, running]
          · simp [Departure.mark, own]

theorem Coherent.dispatched_standing (coherent : scheduler.Coherent slot process)
    (dispatched : scheduler.Dispatched saved now chosen registers next) (other : Nat) :
    next.table.standing? other = scheduler.table.standing? other :=
  ControlBlock.standing_of_lasting (coherent.dispatched_lasting dispatched other)

theorem Switched.standing_stays {departure : Departure} (stays : ∀ code, departure ≠ .exits code)
    (switched : scheduler.Switched departure saved now registers next) (other : Nat) :
    next.table.standing? other = scheduler.table.standing? other :=
  ControlBlock.standing_of_lasting (switched.lasting_stays stays other)

theorem Switched.standing_exits {code : Int}
    (switched : scheduler.Switched (.exits code) saved now registers next) :
    ∃ slot process, scheduler.table.get? slot = some process ∧ scheduler.currentPid = process.pid ∧
      process.state = .running ∧ ∀ other, next.table.standing? other =
        if other = slot then some ⟨process.pid, process.name, true, some code⟩
        else scheduler.table.standing? other := by
  obtain ⟨slot, process, chosen, coherent, running, leaves, dispatched⟩ := switched
  refine ⟨slot, process, coherent.occupied.holds, coherent.currentPid_eq, running, fun other => ?_⟩
  rw [(coherent.depart running leaves).dispatched_standing dispatched]
  unfold ProcessTable.standing?
  rw [get?_depart coherent.occupied.holds]
  by_cases own : other = slot
  · subst other
    simp [coherent.occupied.holds, Departure.mark, ControlBlock.standing]
  · cases held : scheduler.table.get? other <;> simp [own, Departure.mark, ControlBlock.standing]

theorem Created.standing {memory left : PageAllocator} {entry : VirtAddr} {kind : ProcessKind}
    {name : String} (created : scheduler.Created memory entry kind name slot process next left)
    (other : Nat) :
    next.table.standing? other =
      if other = slot then some ⟨scheduler.table.nextPid, name, false, none⟩
      else scheduler.table.standing? other := by
  obtain ⟨footing, -, born⟩ := created.born
  unfold ProcessTable.standing?
  rw [created.get?]
  split
  · rw [born]
    rfl
  · rfl

theorem standing_withFiles {α : Type} (scheduler : Scheduler) (pid : Pid)
    (change : Descriptors → α × Descriptors) (other : Nat) :
    (scheduler.withFiles pid change).2.table.standing? other = scheduler.table.standing? other := by
  unfold ProcessTable.standing?
  rw [get?_withFiles, Option.map_map]
  rfl

end Scheduler

theorem ProcessTable.standing_clear (table : ProcessTable) (slot other : Nat) :
    (table.clear slot).standing? other = if other = slot then none else table.standing? other := by
  unfold standing?
  rw [get?_clear]
  split <;> rfl

end MiniKernel
