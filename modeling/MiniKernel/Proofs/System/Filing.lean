import MiniKernel.Proofs.Process.Descriptors
import MiniKernel.Proofs.System.Upkeep

/-! The open files of the processes in runs that change them only by installations and removals. What
was installed for a process and not removed is closed when it is reaped, and at no other time. No
counter need stay in its range for that, and pages may be freed at will. -/

namespace MiniKernel

inductive Errand
  | install (pid : Pid) (handle : Handle)
  | remove (pid : Pid) (fd : Nat)
  | other (call : Call) (plain : ¬ call.Edits)

namespace Errand

def call : Errand → Call
  | install pid handle => .editFiles pid fun files => (files.install handle).2
  | remove pid fd => .editFiles pid fun files => (files.remove fd).2
  | other call _ => call

def edit (pid : Pid) (files : Descriptors) : Errand → Descriptors
  | install owner handle => if owner = pid then (files.install handle).2 else files
  | remove owner fd => if owner = pid then (files.remove fd).2 else files
  | other .. => files

/-- The book that is kept on a process: an installation adds the descriptor that it returned, with
the handle, and a removal that returned a handle strikes its descriptor out. -/
def book (scheduler : Scheduler) (pid : Pid) (bound : List (Nat × Handle)) :
    Errand → List (Nat × Handle)
  | install owner handle =>
      match (scheduler.withFiles owner fun files => files.install handle).1 with
      | some (some fd) => if owner = pid then (fd, handle) :: bound else bound
      | _ => bound
  | remove owner fd =>
      match (scheduler.withFiles owner fun files => files.remove fd).1 with
      | some (some _) => if owner = pid then bound.filter fun entry => entry.1 ≠ fd else bound
      | _ => bound
  | other .. => bound

end Errand

namespace Scheduler

def filesOf (scheduler : Scheduler) (pid : Pid) : Option Descriptors :=
  (scheduler.withFiles pid fun files => (files, files)).1

variable {scheduler : Scheduler} {slot : Nat} {pid : Pid} {process : ControlBlock}

theorem withFiles_vacant {α : Type} (missing : scheduler.table.lookup pid = none)
    (change : Descriptors → α × Descriptors) : (scheduler.withFiles pid change).1 = none := by
  rcases withFiles_cases scheduler pid change with ⟨-, same⟩ | ⟨slot, process, found, -⟩
  · rw [same]
  · rw [missing] at found
    cases found

theorem withFiles_held {α : Type} (numbered : scheduler.table.Numbered)
    (held : scheduler.table.get? slot = some process) (change : Descriptors → α × Descriptors) :
    (scheduler.withFiles process.pid change).1 = some (change process.files).1 := by
  have hit := (numbered.lookup_iff process.pid).mpr ⟨process, held, rfl⟩
  rcases withFiles_cases scheduler process.pid change with
    ⟨missing, -⟩ | ⟨other, rival, found, rivalHeld, -, same⟩
  · rw [hit] at missing
    cases missing
  · obtain rfl := Option.some.inj (hit.symm.trans found)
    obtain rfl := Option.some.inj (held.symm.trans rivalHeld)
    rw [same]

theorem filesOf_some {files : Descriptors} (found : scheduler.filesOf pid = some files) :
    ∃ slot process, scheduler.table.get? slot = some process ∧ process.pid = pid ∧
      process.files = files := by
  rcases withFiles_cases scheduler pid fun files => (files, files) with
    ⟨-, same⟩ | ⟨slot, process, -, held, named, same⟩
  · rw [filesOf, same] at found
    cases found
  · rw [filesOf, same] at found
    exact ⟨slot, process, held, named, Option.some.inj found⟩

end Scheduler

namespace Descriptors

variable {files : Descriptors} {bound : List (Nat × Handle)}

theorem Lists.book_install (lists : files.Lists bound) (handle : Handle) :
    (files.install handle).2.Lists (match (files.install handle).1 with
      | some fd => (fd, handle) :: bound
      | none => bound) := by
  rcases files.install_cases handle with full | ⟨fd, returned, vacant, entries⟩
  · rw [full]
    exact lists
  · rw [returned]
    exact lists.install vacant entries

theorem Lists.book_remove (lists : files.Lists bound) (fd : Nat) :
    (files.remove fd).2.Lists (match (files.remove fd).1 with
      | some _ => bound.filter fun entry => entry.1 ≠ fd
      | none => bound) := by
  have removed := lists.remove fd
  cases found : (files.remove fd).1 with
  | some handle => exact removed
  | none =>
      -- Nothing was bound there, so the book has nothing to strike out.
      have same : (bound.filter fun entry => entry.1 ≠ fd) = bound := by
        refine List.filter_eq_self.mpr fun entry member => ?_
        have away : entry.1 ≠ fd := by
          rintro rfl
          exact lists.free found (List.mem_map_of_mem member)
        simpa using away
      rwa [same] at removed

end Descriptors

namespace Errand

variable {scheduler : Scheduler} {slot : Nat} {pid : Pid} {process : ControlBlock}
  {bound : List (Nat × Handle)}

theorem book_lists (numbered : scheduler.table.Numbered)
    (held : scheduler.table.get? slot = some process) (lists : process.files.Lists bound)
    (errand : Errand) :
    (errand.edit process.pid process.files).Lists (errand.book scheduler process.pid bound) := by
  cases errand with
  | install owner handle =>
      by_cases own : owner = process.pid
      · subst owner
        have returned := Scheduler.withFiles_held numbered held fun files => files.install handle
        have booked := lists.book_install handle
        simp only [edit, book, if_true, returned]
        cases found : (process.files.install handle).1 <;> rw [found] at booked <;> exact booked
      · simp only [edit, book, if_neg own]
        split <;> exact lists
  | remove owner fd =>
      by_cases own : owner = process.pid
      · subst owner
        have returned := Scheduler.withFiles_held numbered held fun files => files.remove fd
        have booked := lists.book_remove fd
        simp only [edit, book, if_true, returned]
        cases found : (process.files.remove fd).1 <;> rw [found] at booked <;> exact booked
      · simp only [edit, book, if_neg own]
        split <;> exact lists
  | other call plain => exact lists

theorem book_vacant (missing : scheduler.table.lookup pid = none) (errand : Errand) :
    errand.book scheduler pid bound = bound := by
  cases errand with
  | install owner handle =>
      by_cases own : owner = pid
      · rw [book, own, Scheduler.withFiles_vacant missing]
      · simp only [book, if_neg own]
        split <;> rfl
  | remove owner fd =>
      by_cases own : owner = pid
      · rw [book, own, Scheduler.withFiles_vacant missing]
      · simp only [book, if_neg own]
        split <;> rfl
  | other call plain => rfl

end Errand

namespace Scheduler

variable {scheduler : Scheduler} {slot : Nat} {process : ControlBlock}

theorem files_withFiles (numbered : scheduler.table.Numbered) (owner : Pid)
    (change : Descriptors → Descriptors)
    (held : (scheduler.withFiles owner fun files => ((), change files)).2.table.get? slot =
      some process) :
    ∃ older, scheduler.table.get? slot = some older ∧ older.pid = process.pid ∧
      process.files = if owner = older.pid then change older.files else older.files := by
  rw [get?_withFiles] at held
  obtain ⟨older, olderHeld, rfl⟩ := Option.map_eq_some_iff.mp held
  refine ⟨older, olderHeld, rfl, ?_⟩
  have named : scheduler.table.lookup owner = some slot ↔ owner = older.pid := by
    rw [numbered.lookup_iff, olderHeld]
    simp [eq_comm]
  simp only [named]

end Scheduler

namespace System

variable {start before after : System} {call : Call} {slot : Nat} {process : ControlBlock}

theorem perform_files (numbered : before.scheduler.table.Numbered) (errand : Errand)
    (held : (before.perform errand.call).state.scheduler.table.get? slot = some process) :
    (∃ older, before.scheduler.table.get? slot = some older ∧ older.pid = process.pid ∧
      process.files = errand.edit older.pid older.files) ∨
    process.pid = before.scheduler.table.nextPid ∧ process.files = .empty := by
  cases errand with
  | install owner handle =>
      exact Or.inl (Scheduler.files_withFiles numbered owner (fun files => (files.install handle).2)
        held)
  | remove owner fd =>
      exact Or.inl (Scheduler.files_withFiles numbered owner (fun files => (files.remove fd).2) held)
  | other call plain =>
      rcases (before.perform_upkeep call).origin held with ⟨older, olderHeld, pid, files⟩ | fresh
      · exact Or.inl ⟨older, olderHeld, pid, (files.resolve_left plain).symm⟩
      · exact Or.inr fresh

def afterErrands (start : System) (errands : List Errand) : System :=
  start.after (errands.map Errand.call)

def installed (start : System) (pid : Pid) : List Errand → List (Nat × Handle)
  | [] => []
  | errand :: earlier =>
      errand.book (start.afterErrands earlier).scheduler pid (start.installed pid earlier)

structure Filed (start : System) (errands : List Errand) : Prop where
  lists : ∀ slot process, (start.afterErrands errands).scheduler.table.get? slot = some process →
    process.files.Lists (start.installed process.pid errands)
  unborn : ∀ pid, (start.afterErrands errands).scheduler.table.nextPid ≤ pid →
    start.installed pid errands = []

theorem after_filed (numbered : start.scheduler.table.Numbered) (initially : start.Filed [])
    (errands : List Errand) : start.Filed errands := by
  induction errands with
  | nil => exact initially
  | cons errand earlier ih =>
      have numberedBefore : (start.afterErrands earlier).scheduler.table.Numbered :=
        after_numbered numbered _
      constructor
      · intro slot process held
        rw [installed]
        rcases perform_files numberedBefore errand held with
          ⟨older, olderHeld, pid, files⟩ | ⟨fresh, empty⟩
        · rw [files, ← pid]
          exact errand.book_lists numberedBefore olderHeld (ih.lists slot older olderHeld)
        · -- Its pid was nobody's before, so no book was kept on it.
          have unborn := Nat.le_of_eq fresh.symm
          rw [errand.book_vacant (numberedBefore.lookup_unborn unborn), ih.unborn _ unborn, empty]
          exact Descriptors.lists_empty
      · intro pid unborn
        have before := (perform_upkeep (start.afterErrands earlier) errand.call).nextPid_le.trans unborn
        rw [installed, errand.book_vacant (numberedBefore.lookup_unborn before), ih.unborn pid before]

theorem filed_initial {config : Config} (capacity : config.capacity ≠ 0) (memory : PageAllocator) :
    Filed ⟨.initial config, memory⟩ [] := by
  refine ⟨fun slot process held => ?_, fun _ _ => rfl⟩
  obtain ⟨-, rfl⟩ := (Scheduler.get?_initial capacity).mp held
  exact Descriptors.lists_empty

theorem filesOf_errand (numbered : before.scheduler.table.Numbered) (errand : Errand) {pid : Pid}
    {files : Descriptors}
    (found : (before.perform errand.call).state.scheduler.filesOf pid = some files) :
    files = ((before.scheduler.filesOf pid).map fun older => errand.edit pid older).getD .empty := by
  obtain ⟨slot, process, held, rfl, rfl⟩ := Scheduler.filesOf_some found
  rcases perform_files numbered errand held with ⟨older, olderHeld, pid, files⟩ | ⟨fresh, empty⟩
  · rw [← pid, Scheduler.filesOf, Scheduler.withFiles_held numbered olderHeld, files]
    rfl
  · have missing := numbered.lookup_unborn (Nat.le_of_eq fresh.symm)
    rw [Scheduler.filesOf, Scheduler.withFiles_vacant missing, empty]
    rfl

theorem Filed.reap {errands : List Errand} (filed : start.Filed errands) {pid : Pid} {info : Snapshot}
    (found : (start.afterErrands errands).scheduler.lookup pid = some info)
    (zombie : info.state = .zombie) : ∃ closing : List (Nat × Handle),
    closing.Perm (start.installed pid errands) ∧
      (closing.Pairwise fun left right => left.1 < right.1) ∧
      ((start.afterErrands errands).scheduler.reap (start.afterErrands errands).memory pid).closed =
        closing.map Prod.snd := by
  obtain ⟨slot, process, hit, held, rfl, rfl⟩ := Scheduler.lookup_some found
  have exited : (start.afterErrands errands).scheduler.table.Exited process.pid slot process :=
    ⟨hit, held, rfl, zombie⟩
  obtain ⟨closing, order, increasing, handles⟩ := (filed.lists slot process held).handles
  exact ⟨closing, order, increasing, (exited.reap _).1.trans handles⟩

theorem reap_once (numbered : start.scheduler.table.Numbered) {pid : Pid} {info : Snapshot}
    (found : start.scheduler.lookup pid = some info) (zombie : info.state = .zombie)
    (later : List Call) :
    let last := (start.perform (.reap pid)).state.after later
    (last.scheduler.reap last.memory pid).closed = [] := by
  obtain ⟨slot, process, hit, held, rfl, rfl⟩ := Scheduler.lookup_some found
  exact ProcessTable.reap_vacant (reaped_gone numbered ⟨hit, held, rfl, zombie⟩ later) _

/-- Every handle is closed once. A process begins without files, and errands on its own pid alone
change them. A reap of a process that has exited closes, in the order of the descriptors, what was
installed for it and not removed, and no later reap of its pid closes anything; nor does a reap
that finds nothing to reap. -/
theorem after_closes {config : Config} {scheduler : Scheduler}
    (started : (Scheduler.start config).result = .ok scheduler) (memory : PageAllocator)
    (errands : List Errand) :
    let start : System := ⟨scheduler, memory⟩
    let reached := start.afterErrands errands
    (∀ errand pid files, (start.afterErrands (errand :: errands)).scheduler.filesOf pid = some files →
      files = ((reached.scheduler.filesOf pid).map fun older => errand.edit pid older).getD .empty) ∧
    (∀ pid info, reached.scheduler.lookup pid = some info → info.state = .zombie →
      (∃ closing : List (Nat × Handle), closing.Perm (start.installed pid errands) ∧
        (closing.Pairwise fun left right => left.1 < right.1) ∧
        (reached.scheduler.reap reached.memory pid).closed = closing.map Prod.snd) ∧
      ∀ later : List Call, let last := (reached.perform (.reap pid)).state.after later
        (last.scheduler.reap last.memory pid).closed = []) ∧
    ∀ pid failure, (reached.scheduler.reap reached.memory pid).outcome.result = .error failure →
      failure.Unreapable → (reached.scheduler.reap reached.memory pid).closed = [] := by
  obtain ⟨valid, rfl⟩ := (Scheduler.start_ensures config).of_ok started
  obtain ⟨capacity, -⟩ := Scheduler.validate_ok valid
  obtain ⟨_, _, coherent, -⟩ := Scheduler.wellFormed_initial valid
  intro start reached
  have numbered : reached.scheduler.table.Numbered := after_numbered coherent.numbered _
  have filed := after_filed coherent.numbered (filed_initial capacity memory) errands
  refine ⟨fun errand pid files found => filesOf_errand numbered errand found,
    fun pid info found zombie => ⟨filed.reap found zombie, reap_once numbered found zombie⟩, ?_⟩
  intro pid failure failed unreapable
  rw [Scheduler.reap_result] at failed
  exact ProcessTable.reap_unreapable failed unreapable

theorem after_closes_reused :
    let start : System := ⟨.initial {}, .unstarted⟩
    let errands : List Errand := [.other (.switch (.exit 7) {} 2) id, .install 1 30, .remove 1 0,
      .install 1 20, .install 1 10, .other (.switch .dispatch {} 1) id,
      .other (.spawn ⟨4096, by decide⟩) id, .other (.page (.start 65536 ⟨4096, by decide⟩)) id]
    let reached := start.afterErrands errands
    (∃ closing : List (Nat × Handle), closing.Perm (start.installed 1 errands) ∧
      (closing.Pairwise fun left right => left.1 < right.1) ∧
      (reached.scheduler.reap reached.memory 1).closed = closing.map Prod.snd) ∧
    start.installed 1 errands = [(0, 30), (1, 20)] := by
  intro start errands reached
  have started : (Scheduler.start {}).result = .ok (.initial {}) := rfl
  have found : reached.scheduler.lookup 1 = some ⟨1, "kthread", .zombie, some 0, none, some 7⟩ := by
    decide +kernel
  refine ⟨((after_closes started .unstarted errands).2.1 1 _ found rfl).1, ?_⟩
  decide +kernel

end System

end MiniKernel
