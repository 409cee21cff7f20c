import MiniKernel.Proofs.Process.Footing
import MiniKernel.Proofs.System.Reaping

/-! What a reap takes and what it leaves, in every state of every run in which no stack was freed
directly. The process is gone for good with its slot and its stacks, and nothing else is touched. -/

namespace MiniKernel

structure Scheduler.Vacated (before : Scheduler) (pid : Pid) (slot : Nat) (process : ControlBlock)
    (after : Scheduler) : Prop where
  exited : before.table.Exited pid slot process
  vacant : after.table.get? slot = none
  others : ∀ other ≠ slot, after.table.get? other = before.table.get? other
  capacity : after.table.capacity = before.table.capacity
  rest : after = { before with table := { before.table with slots := after.table.slots } }

def ControlBlock.Occupies (process : ControlBlock) (config : Config) (page : Nat) : Prop :=
  process.kernelStack ≤ page * pageSize ∧
      page * pageSize < process.kernelStack + pageSize * config.kernelStackPages ∨
    process.kind = .user ∧ process.userStack ≤ page * pageSize ∧
      page * pageSize < process.userStack + pageSize * config.userStackPages

structure ControlBlock.Refunded (process : ControlBlock) (config : Config)
    (memory left : PageAllocator) : Prop where
  given : ∃ given : Finset Nat, (∀ page, page ∈ given ↔ process.Occupies config page) ∧
    given ⊆ memory.pages.members ∧ left.pages.members = memory.pages.members \ given ∧
    memory.used = left.used + given.card ∧
    given.card = match process.kind with
      | .kernelThread => config.kernelStackPages
      | .user => config.kernelStackPages + config.userStackPages
  total : left.total = memory.total
  cursor : left.cursor = memory.cursor
  started : left.started = memory.started

theorem PageAllocator.Frees.used {memory left : PageAllocator} {given : Finset Nat}
    (frees : memory.Frees given left) (consistent : memory.Consistent)
    (allocated : given ⊆ memory.pages.members) : memory.used = left.used + given.card := by
  rw [frees.consistent.counted, frees.members, consistent.counted,
    Finset.card_sdiff_add_card_eq_card allocated]

namespace Sheltered

variable {config : Config} {table : ProcessTable} {memory : PageAllocator} {slot : Nat}
  {process : ControlBlock}

theorem mem_stackRun (sheltered : Sheltered config table memory)
    (holds : table.get? slot = some process) {stack : Stack} {page : Nat} :
    page ∈ config.stackRun process stack ↔
      process.HasStack stack ∧ process.stackAddress stack ≤ page * pageSize ∧
        page * pageSize < process.stackAddress stack + pageSize * config.stackPages stack := by
  by_cases has : process.HasStack stack
  · obtain ⟨base, address, contract⟩ := sheltered.based slot process stack holds has
    rw [Config.stackRun_eq has address rfl, address, PhysAddr.mem_run_iff_between contract.aligned,
      and_iff_right has]
  · rw [Config.stackRun, if_neg has]
    simp [has]

theorem refunded (sheltered : Sheltered config table memory) (holds : table.get? slot = some process)
    (lives : process.pid ≠ idlePid) :
    process.Refunded config memory (table.freeStacks memory process).state := by
  obtain ⟨-, frees⟩ := sheltered.freed holds lives
  have allocated := Finset.union_subset (sheltered.stackRun_subset holds .kernel)
    (sheltered.stackRun_subset holds .user)
  have apart := sheltered.apart (.process slot .kernel) (.process slot .user) (by simp)
  rw [Accounted.pagesOf_held holds, Accounted.pagesOf_held holds] at apart
  refine ⟨⟨_, fun page => ?_, allocated, frees.members, frees.used sheltered.consistent allocated,
    ?_⟩, frees.total, frees.cursor, frees.started⟩
  · rw [Finset.mem_union, sheltered.mem_stackRun holds, sheltered.mem_stackRun holds]
    exact or_congr (and_iff_right lives) Iff.rfl
  · rw [Finset.card_union_of_disjoint apart, ← Accounted.footprint_eq, Config.footprint, if_neg lives]
    cases process.kind <;> rfl

end Sheltered

namespace System

variable {system : System} {pid : Pid} {slot : Nat} {process : ControlBlock} {info : Snapshot}

structure Reclaims (system : System) (pid : Pid) (info : Snapshot) : Prop where
  returned : (system.perform (.reap pid)).result = .ok (.reaped { info with state := .dead })
  vacated : ∃ slot process,
    system.scheduler.Vacated pid slot process (system.perform (.reap pid)).state.scheduler ∧
      process.Refunded system.scheduler.config system.memory (system.perform (.reap pid)).state.memory
  gone : ∀ later, let last := (system.perform (.reap pid)).state.after later
    (last.perform (.reap pid)).result = .error (.refused .notFound) ∧
      (last.perform (.reap pid)).state = last

theorem perform_reap_missing (missing : system.scheduler.table.lookup pid = none) :
    system.perform (.reap pid) = .refuse system .notFound := by
  rw [perform, Scheduler.reap, ProcessTable.reap, missing]
  rfl

theorem Safe.reclaims (safe : system.Safe) (clears : system.scheduler.Clears ∅)
    (found : system.scheduler.lookup pid = some info) (ended : info.state = .zombie) :
    system.Reclaims pid info := by
  obtain ⟨slot, process, hit, held, rfl, rfl⟩ := Scheduler.lookup_some found
  have zombie : process.state = .zombie := ended
  have reapable := safe.reapable clears held zombie
  refine ⟨reapable.result, ⟨slot, process, ?vacated, ?refunded⟩, fun later => ?gone⟩
  case vacated =>
    rw [reapable.state]
    refine ⟨reapable.exited, ?_, fun other away => ?_, List.length_set, rfl⟩
    · exact (ProcessTable.get?_clear ..).trans (if_pos rfl)
    · exact (ProcessTable.get?_clear ..).trans (if_neg away)
  case refunded =>
    rw [reapable.state]
    exact Sheltered.refunded safe held (clears.pid_ne_idle held zombie)
  case gone =>
    intro last
    rw [perform_reap_missing (reaped_gone clears.numbered reapable.exited later)]
    exact ⟨rfl, rfl⟩

/-- Whoever has exited can be reaped, in every state that a run reaches in which no stack was freed
directly. The process leaves no trace, and nobody else loses anything. -/
theorem after_reclaims {config : Config} {scheduler : Scheduler}
    (started : (Scheduler.start config).result = .ok scheduler) (calls : List Call)
    (spares : System.SparesStacks ⟨scheduler, .unstarted⟩ calls) {pid : Pid} {info : Snapshot}
    (found : (System.after ⟨scheduler, .unstarted⟩ calls).scheduler.lookup pid = some info)
    (ended : info.state = .zombie) :
    (System.after ⟨scheduler, .unstarted⟩ calls).Reclaims pid info := by
  obtain ⟨clears, safe⟩ := safe_of_started started spares
  exact safe.reclaims clears found ended

theorem after_reclaims_user :
    let reached := System.after ⟨.initial { kernelStackPages := 2, userStackPages := 3 }, .unstarted⟩
      [.switch (.exit 7) {} 2, .switch .dispatch {} 1, .spawn ⟨8192, by decide⟩,
        .create ⟨4096, by decide⟩ .user "shell", .page (.start 65536 ⟨4096, by decide⟩)]
    reached.Reclaims 1 ⟨1, "shell", .zombie, some 0, none, some 7⟩ ∧
      reached.memory.used = 8 ∧
      (reached.perform (.reap 1)).state.memory.pages.members = {0, 6, 7} := by
  have started : (Scheduler.start { kernelStackPages := 2, userStackPages := 3 }).result =
      .ok (.initial { kernelStackPages := 2, userStackPages := 3 }) := rfl
  intro reached
  refine ⟨after_reclaims started _ ?_ ?_ rfl, ?_, ?_⟩ <;> decide +kernel

end System

end MiniKernel
