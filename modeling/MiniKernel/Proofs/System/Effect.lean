import MiniKernel.Proofs.System.History

/-! What a call does to the processes, whether it returns or fails. It lets one in, clears one out that
has exited, dispatches, or leaves all of them as they are but for their files. -/

namespace MiniKernel

def ControlBlock.bare (process : ControlBlock) : ControlBlock := { process with files := .empty }

namespace Scheduler

structure Alike (before after : Scheduler) : Prop where
  entries : ∀ slot, (after.table.get? slot).map ControlBlock.bare =
    (before.table.get? slot).map ControlBlock.bare
  table : after.table = { before.table with slots := after.table.slots }
  rest : after = { before with table := after.table }

variable {before after : Scheduler} {slot : Nat} {process : ControlBlock}

theorem Alike.refl (scheduler : Scheduler) : scheduler.Alike scheduler := ⟨fun _ => rfl, rfl, rfl⟩

theorem Alike.symm (alike : before.Alike after) : after.Alike before where
  entries := fun slot => (alike.entries slot).symm
  table := by rw [alike.table]
  rest := by rw [alike.rest]

theorem Alike.held (alike : before.Alike after) (held : before.table.get? slot = some process) :
    ∃ files, after.table.get? slot = some { process with files } := by
  have same := alike.entries slot
  rw [held, Option.map_some] at same
  obtain ⟨other, otherHeld, bare⟩ := Option.map_eq_some_iff.mp same
  refine ⟨other.files, otherHeld.trans (congrArg some ?_)⟩
  exact congrArg (fun bare : ControlBlock => { bare with files := other.files }) bare

theorem Alike.read {α : Type} (alike : before.Alike after) {read : ControlBlock → α}
    (blind : ∀ process, read process.bare = read process) (slot : Nat) :
    (after.table.get? slot).map read = (before.table.get? slot).map read := by
  have through : read = read ∘ ControlBlock.bare := funext fun process => (blind process).symm
  rw [through, ← Option.map_map, ← Option.map_map, alike.entries]

theorem alike_withFiles {α : Type} (scheduler : Scheduler) (pid : Pid)
    (change : Descriptors → α × Descriptors) :
    scheduler.Alike (scheduler.withFiles pid change).2 := by
  obtain ⟨rest, table, -⟩ := withFiles_frame scheduler pid change
  refine ⟨fun slot => ?_, table, rest⟩
  rw [get?_withFiles, Option.map_map]
  rfl

end Scheduler

namespace System

inductive Effect (before : System) : Call → Except Failure Answer → Scheduler → Prop
  | quiet {call result after} (alike : before.scheduler.Alike after)
      (undispatched : call.Switches → ∃ failure, result = .error failure)
      (barren : ∀ pid, result ≠ .ok (.created pid)) : Effect before call result after
  | born {call entry kind name slot process after left} (creates : call.creates = some (entry, kind, name))
      (created : before.scheduler.Created before.memory entry kind name slot process after left) :
      Effect before call (.ok (.created process.pid)) after
  | cleared {pid slot process result} (exited : before.scheduler.table.Exited pid slot process)
      (barren : ∀ pid, result ≠ .ok (.created pid)) :
      Effect before (.reap pid) result
        { before.scheduler with table := before.scheduler.table.clear slot }
  | switched {request saved now registers after}
      (switched : before.scheduler.Switched (request.departure before.scheduler.config now) saved now
        registers after) :
      Effect before (.switch request saved now) (.ok (.resumed registers)) after

variable {start before after : System} {call : Call} {earlier : List Call}

theorem Performed.effect {answer : Answer} (performed : before.Performed call answer after) :
    before.Effect call (.ok answer) after.scheduler := by
  cases performed with
  | created creates created => exact .born creates created
  | switched switched => exact .switched switched
  | reaped exited _ => exact .cleared exited (by simp)
  | edited pid change => exact .quiet (Scheduler.alike_withFiles ..) False.elim (by simp)
  | page _ => exact .quiet (.refl _) False.elim (by simp)

theorem Failed.effect {failure : Failure} (failed : before.Failed call failure after)
    (counted : call.Switches → failure ≠ .trapped .addOverflow) :
    before.Effect call (.error failure) after.scheduler := by
  cases failed with
  | overflowed overflowed => exact absurd overflowed.trapped (counted trivial)
  | lost exited _ => exact .cleared exited (by simp)
  | _ => exact .quiet (.refl _) (fun _ => ⟨failure, rfl⟩) (by simp)

theorem after_effect (wellFormed : start.scheduler.WellFormed)
    (counted : start.Counted Call.Switches (call :: earlier)) :
    (start.after earlier).Effect call ((start.after earlier).perform call).result
      (start.after (call :: earlier)).scheduler := by
  rcases after_cases wellFormed counted with
    ⟨answer, found, performed⟩ | ⟨failure, found, untrapped, failed⟩
  · rw [found]
    exact performed.effect
  · rw [found]
    exact failed.effect untrapped

end System

end MiniKernel
