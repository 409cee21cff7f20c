import MiniKernel.Proofs.Process.Lodging
import MiniKernel.Proofs.Schedule.Steady
import MiniKernel.Proofs.System.Basic

/-! What a call does to the processes and to the pages of a system of any shape, whether it returns or
fails. What is proved from it holds of all runs, also of those that drove a counter out of its range. -/

namespace MiniKernel

namespace Scheduler

theorem serve_steady (scheduler : Scheduler) (request : Request) (saved : Registers) (now : Nat) :
    scheduler.Steady (scheduler.serve saved now request).state := by
  cases request with
  | dispatch => exact (dispatch_steady scheduler saved now).state
  | yieldNow => exact (dispatch_steady scheduler saved now).state
  | sleep ms => exact (sleep_steady scheduler ms saved now).state
  | exit code => exact (exit_steady scheduler code saved now).state

variable {scheduler next : Scheduler} {slot : Nat} {process : ControlBlock}

theorem Steady.entry (steady : scheduler.Steady next) (held : next.table.get? slot = some process) :
    ∃ older, scheduler.table.get? slot = some older ∧ older.fixed = process.fixed := by
  have same := steady.fixed slot
  rw [held, Option.map_some] at same
  exact Option.map_eq_some_iff.mp same.symm

theorem Steady.numbered (steady : scheduler.Steady next) (numbered : scheduler.table.Numbered) :
    next.table.Numbered := by
  refine numbered.congr (fun slot => ?_) (by rw [steady.table])
  have pid : ControlBlock.pid = ControlBlock.pid ∘ ControlBlock.fixed := rfl
  rw [pid, ← Option.map_map, ← Option.map_map, steady.fixed]

theorem Entered.numbered {memory left : PageAllocator} {entry : VirtAddr} {kind : ProcessKind}
    {name : String} (entered : scheduler.Entered memory entry kind name slot process next left)
    (numbered : scheduler.table.Numbered) : next.table.Numbered := by
  obtain ⟨footing, -, born⟩ := entered.born
  exact numbered.enter (congrArg ControlBlock.pid born) entered.get? (by rw [entered.table])

theorem numbered_withFiles {α : Type} (numbered : scheduler.table.Numbered) (pid : Pid)
    (change : Descriptors → α × Descriptors) :
    (scheduler.withFiles pid change).2.table.Numbered := by
  obtain ⟨-, frame, -⟩ := withFiles_frame scheduler pid change
  refine numbered.congr (fun slot => ?_) (by rw [frame])
  rw [get?_withFiles, Option.map_map]
  rfl

end Scheduler

def Call.Edits : Call → Prop
  | editFiles .. => True
  | _ => False

namespace System

inductive Upkeep (before : System) : Call → System → Prop
  | switched {request saved now scheduler} (steady : before.scheduler.Steady scheduler) :
      Upkeep before (.switch request saved now) { before with scheduler }
  | uncreated {call entry kind name failure left} (creates : call.creates = some (entry, kind, name))
      (uncreated : before.scheduler.table.Uncreated before.memory entry kind failure left) :
      Upkeep before call { before with memory := left }
  | entered {call entry kind name slot process} {after : System}
      (creates : call.creates = some (entry, kind, name))
      (entered : before.scheduler.Entered before.memory entry kind name slot process after.scheduler
        after.memory) : Upkeep before call after
  | unreaped (pid) : Upkeep before (.reap pid) before
  | cleared {pid slot process} (exited : before.scheduler.table.Exited pid slot process) :
      Upkeep before (.reap pid)
        { scheduler := { before.scheduler with table := before.scheduler.table.clear slot }
          memory := (before.scheduler.table.freeStacks before.memory process).state }
  | edited (pid change) : Upkeep before (.editFiles pid change)
      { before with
        scheduler := (before.scheduler.withFiles pid fun files => ((), change files)).2 }
  | page (call) : Upkeep before (.page call)
      { before with memory := (before.memory.perform call).state }

theorem create_upkeep (system : System) {call : Call} {entry : VirtAddr} {kind : ProcessKind}
    {name : String} (creates : call.creates = some (entry, kind, name)) :
    (system.scheduler.create system.memory entry kind name).Ensures
      (fun _ next => system.Upkeep call ⟨next.1, next.2⟩)
      fun _ next => system.Upkeep call ⟨next.1, next.2⟩ := by
  refine (Scheduler.create_enters ..).imp ?_ ?_
  · rintro pid ⟨scheduler, memory⟩ ⟨-, slot, process, entered⟩
    exact .entered creates entered
  · rintro failure ⟨scheduler, memory⟩ (⟨rfl, uncreated⟩ | ⟨slot, process, entered⟩)
    · exact .uncreated creates uncreated
    · exact .entered creates entered

theorem reap_upkeep (system : System) (pid : Pid) :
    (system.scheduler.reap system.memory pid).outcome.Ensures
      (fun _ next => system.Upkeep (.reap pid) ⟨next.1, next.2⟩)
      fun _ next => system.Upkeep (.reap pid) ⟨next.1, next.2⟩ := by
  rcases system.scheduler.reap_ensures system.memory pid with
    ⟨slot, process, exited, -, ensured⟩ | ⟨-, ensured⟩
  · refine ensured.imp ?_ ?_
    · rintro _ _ ⟨rfl, -⟩
      exact .cleared exited
    · rintro _ _ ⟨rfl, -⟩
      exact .cleared exited
  · refine ensured.imp (fun _ _ impossible => impossible.elim) ?_
    rintro _ _ ⟨rfl, -⟩
    exact .unreaped pid

theorem perform_upkeep (system : System) (call : Call) :
    system.Upkeep call (system.perform call).state := by
  cases call with
  | spawn entry => exact (create_upkeep system rfl).state
  | create entry kind name => exact (create_upkeep system rfl).state
  | switch request saved now => exact .switched (system.scheduler.serve_steady request saved now)
  | reap pid => exact (reap_upkeep system pid).state
  | editFiles pid change => exact .edited pid change
  | page call => exact .page call

variable {start before after : System} {call : Call} {slot : Nat} {process : ControlBlock}

theorem Upkeep.origin (upkeep : before.Upkeep call after)
    (held : after.scheduler.table.get? slot = some process) :
    (∃ older, before.scheduler.table.get? slot = some older ∧ older.pid = process.pid ∧
      (call.Edits ∨ older.files = process.files)) ∨
    process.pid = before.scheduler.table.nextPid ∧ process.files = .empty := by
  cases upkeep with
  | switched steady =>
      obtain ⟨older, olderHeld, fixed⟩ := steady.entry held
      obtain ⟨pid, -, -, -, -, files⟩ := ControlBlock.fixed_inj.mp fixed
      exact Or.inl ⟨older, olderHeld, pid, Or.inr files⟩
  | entered _ entered =>
      obtain ⟨footing, -, rfl⟩ := entered.born
      rw [entered.get?] at held
      split at held
      · obtain rfl := Option.some.inj held
        exact Or.inr ⟨rfl, rfl⟩
      · exact Or.inl ⟨process, held, rfl, Or.inr rfl⟩
  | cleared => exact Or.inl ⟨process, (ProcessTable.get?_clear_some.mp held).2, rfl, Or.inr rfl⟩
  | edited pid change =>
      rw [Scheduler.get?_withFiles] at held
      obtain ⟨older, olderHeld, rfl⟩ := Option.map_eq_some_iff.mp held
      exact Or.inl ⟨older, olderHeld, rfl, Or.inl trivial⟩
  | _ => exact Or.inl ⟨process, held, rfl, Or.inr rfl⟩

theorem Upkeep.nextPid_le (upkeep : before.Upkeep call after) :
    before.scheduler.table.nextPid ≤ after.scheduler.table.nextPid := by
  cases upkeep with
  | switched steady => rw [steady.table]
  | entered _ entered =>
      rw [entered.table]
      exact Nat.le_succ _
  | edited pid change =>
      obtain ⟨-, frame, -⟩ := Scheduler.withFiles_frame before.scheduler pid
        fun files => ((), change files)
      rw [frame]
  | _ => exact Nat.le_refl _

theorem Upkeep.nextPid_eq (upkeep : before.Upkeep call after) (barren : call.creates = none) :
    after.scheduler.table.nextPid = before.scheduler.table.nextPid := by
  cases upkeep with
  | switched steady => rw [steady.table]
  | entered creates => simp [barren] at creates
  | edited pid change =>
      obtain ⟨-, frame, -⟩ := Scheduler.withFiles_frame before.scheduler pid
        fun files => ((), change files)
      rw [frame]
  | _ => rfl

theorem Upkeep.sizes (upkeep : before.Upkeep call after) :
    after.scheduler.config = before.scheduler.config ∧
      after.scheduler.table.kernelStackPages = before.scheduler.table.kernelStackPages ∧
      after.scheduler.table.userStackPages = before.scheduler.table.userStackPages := by
  cases upkeep with
  | switched steady =>
      rw [steady.table]
      exact ⟨steady.config, rfl, rfl⟩
  | entered _ entered =>
      rw [entered.table]
      exact ⟨entered.config, rfl, rfl⟩
  | edited pid change =>
      obtain ⟨rest, frame, -⟩ := Scheduler.withFiles_frame before.scheduler pid
        fun files => ((), change files)
      rw [rest, frame]
      exact ⟨rfl, rfl, rfl⟩
  | _ => exact ⟨rfl, rfl, rfl⟩

theorem after_sizes (start : System) (calls : List Call) :
    (start.after calls).scheduler.config = start.scheduler.config ∧
      (start.after calls).scheduler.table.kernelStackPages = start.scheduler.table.kernelStackPages ∧
      (start.after calls).scheduler.table.userStackPages = start.scheduler.table.userStackPages := by
  induction calls with
  | nil => exact ⟨rfl, rfl, rfl⟩
  | cons call earlier ih =>
      obtain ⟨config, kernelPages, userPages⟩ := (perform_upkeep (start.after earlier) call).sizes
      exact ⟨config.trans ih.1, kernelPages.trans ih.2.1, userPages.trans ih.2.2⟩

theorem Upkeep.numbered (upkeep : before.Upkeep call after)
    (numbered : before.scheduler.table.Numbered) : after.scheduler.table.Numbered := by
  cases upkeep with
  | switched steady => exact steady.numbered numbered
  | entered _ entered => exact entered.numbered numbered
  | cleared => exact numbered.clear _
  | edited pid change => exact Scheduler.numbered_withFiles numbered pid _
  | _ => exact numbered

theorem Upkeep.keeps_or_starts (upkeep : before.Upkeep call after) (consistent : before.memory.Consistent) :
    (∃ given, before.memory.Keeps given after.memory) ∨
      after.memory.Consistent ∧ ∃ bytes reservedEnd, call = .page (.start bytes reservedEnd) ∧
        after.memory.total = bytes / pageSize := by
  have kept := consistent.keeps_self
  cases upkeep with
  | uncreated _ uncreated =>
      rcases uncreated with ⟨-, -, rfl⟩ | ⟨-, rfl, -⟩
      · exact Or.inl ⟨∅, kept⟩
      · exact Or.inl ⟨∅, ProcessTable.allocFooting_keeps _ consistent ..⟩
  | entered _ entered =>
      rw [entered.pages]
      exact Or.inl ⟨∅, ProcessTable.allocFooting_keeps _ consistent ..⟩
  | cleared => exact Or.inl (ProcessTable.freeStacks_keeps _ consistent _)
  | page direct =>
      rcases PageAllocator.perform_keeps consistent direct with
        keeps | ⟨-, begun, bytes, reservedEnd, rfl, total⟩
      · exact Or.inl ⟨_, keeps⟩
      · exact Or.inr ⟨begun, bytes, reservedEnd, rfl, total⟩
  | _ => exact Or.inl ⟨∅, kept⟩

theorem after_consistent (consistent : start.memory.Consistent) (calls : List Call) :
    (start.after calls).memory.Consistent := by
  induction calls with
  | nil => exact consistent
  | cons call earlier ih =>
      rcases (perform_upkeep _ call).keeps_or_starts ih with ⟨given, keeps⟩ | ⟨begun, -⟩
      · exact keeps.consistent
      · exact begun

theorem after_sound (sound : start.memory.Sound) {calls : List Call}
    (addressable : ∀ direct, .page direct ∈ calls → direct.Addressable) :
    (start.after calls).memory.Sound := by
  induction calls with
  | nil => exact sound
  | cons call earlier ih =>
      have before := ih fun direct member => addressable direct (List.mem_cons_of_mem _ member)
      rcases (perform_upkeep _ call).keeps_or_starts before.consistent with
        ⟨given, keeps⟩ | ⟨begun, bytes, reservedEnd, rfl, total⟩
      · exact keeps.sound before
      · refine begun.sound ?_
        have bytes_le : bytes ≤ 0x10000000000000 := addressable _ List.mem_cons_self
        rw [total]
        exact (Nat.div_mul_le_self ..).trans bytes_le

theorem after_numbered (numbered : start.scheduler.table.Numbered) (calls : List Call) :
    (start.after calls).scheduler.table.Numbered := by
  induction calls with
  | nil => exact numbered
  | cons call earlier ih => exact (perform_upkeep _ call).numbered ih

/-- A pid that was used and has gone never comes back. -/
theorem after_gone {pid : Pid} (used : pid < start.scheduler.table.nextPid)
    (gone : start.scheduler.table.lookup pid = none) (calls : List Call) :
    (start.after calls).scheduler.table.lookup pid = none := by
  suffices stays : pid < (start.after calls).scheduler.table.nextPid ∧
      ∀ slot process, (start.after calls).scheduler.table.get? slot = some process →
        process.pid ≠ pid from ProcessTable.lookup_none_iff.mpr stays.2
  induction calls with
  | nil => exact ⟨used, ProcessTable.lookup_none_iff.mp gone⟩
  | cons call earlier ih =>
      obtain ⟨below, absent⟩ := ih
      have upkeep := perform_upkeep (start.after earlier) call
      refine ⟨below.trans_le upkeep.nextPid_le, fun slot process held => ?_⟩
      rcases upkeep.origin held with ⟨older, olderHeld, pid, -⟩ | ⟨fresh, -⟩
      · exact pid ▸ absent slot older olderHeld
      · exact fresh ▸ Nat.ne_of_gt below

theorem reaped_gone (numbered : start.scheduler.table.Numbered) {pid : Pid}
    (exited : start.scheduler.table.Exited pid slot process) (calls : List Call) :
    ((start.perform (.reap pid)).state.after calls).scheduler.table.lookup pid = none := by
  have cleared : (start.perform (.reap pid)).state.scheduler =
      { start.scheduler with table := start.scheduler.table.clear slot } := by
    change (start.scheduler.reap start.memory pid).outcome.state.1 = _
    rw [Scheduler.reap_state, (exited.reap start.memory).2]
  obtain rfl := exited.named
  refine after_gone ?_ ?_ calls
  · rw [cleared]
    exact numbered.below slot process exited.holds
  · rw [cleared]
    exact numbered.lookup_clear exited.holds

end System

end MiniKernel
