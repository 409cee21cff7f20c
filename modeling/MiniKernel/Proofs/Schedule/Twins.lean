import MiniKernel.Proofs.Schedule.Mask
import MiniKernel.Proofs.Schedule.Orderly

/-! Schedulers that differ in the data of their processes only. Each operation takes twins to twins, and
whatever data they are given on the way does not tell them apart. -/

namespace MiniKernel

structure Outline where
  pid : Pid
  state : ProcessState
  wakeTick : Nat
  parent : Option ParentLink
  deriving DecidableEq

def ControlBlock.outline (process : ControlBlock) : Outline :=
  ⟨process.pid, process.state, process.wakeTick, process.parent⟩

theorem Mask.table_blank (table : ProcessTable) :
    Mask.blank.table table = table.modifyAll Mask.blank.process := by
  refine ProcessTable.ext_get? rfl (by simp) fun slot => ?_
  rw [Mask.get?_open rfl, ProcessTable.get?_modifyAll]

def ProcessTable.bury (table : ProcessTable) (pid : Pid) : ProcessTable :=
  match table.lookup pid with
  | none => table
  | some slot =>
      if (table.get? slot).any fun process => process.state == .zombie then table.clear slot else table

theorem ProcessTable.reap_buries (table : ProcessTable) (memory : PageAllocator) (pid : Pid) :
    (table.reap memory pid).outcome.state.1 = table.bury pid := by
  unfold reap bury
  cases found : table.lookup pid with
  | none => rfl
  | some slot =>
      obtain ⟨⟨process, held, -⟩, -⟩ := lookup_some found
      by_cases zombie : process.state = .zombie <;>
        simp [held, zombie, Outcome.within, Outcome.map, Outcome.fatal, Outcome.fail]

theorem ProcessTable.bury_modifyAll (change : ControlBlock → ControlBlock)
    (pids : ∀ process, (change process).pid = process.pid)
    (states : ∀ process, (change process).state = process.state) (table : ProcessTable) (pid : Pid) :
    (table.bury pid).modifyAll change = (table.modifyAll change).bury pid := by
  rw [bury, bury, lookup_modifyAll pids]
  cases table.lookup pid with
  | none => rfl
  | some slot =>
      simp only [get?_modifyAll, Option.any_map, states]
      split
      · exact clear_modifyAll ..
      · rfl

namespace Scheduler

variable {left right next otherNext : Scheduler}

def Twins (left right : Scheduler) : Prop :=
  Mask.blank.scheduler left = Mask.blank.scheduler right

theorem Twins.ready (twins : left.Twins right) : left.ready = right.ready := by
  have same : Mask.blank.scheduler left = Mask.blank.scheduler right := twins
  injection same

/-- A switch does not tell twins apart, nor does it make them differ. -/
theorem Twins.serve (twins : left.Twins right) {request otherRequest : Request}
    (same : Mask.blank.request request = Mask.blank.request otherRequest) (saved otherSaved : Registers)
    (now : Nat) :
    (left.serve saved now request).state.Twins (right.serve otherSaved now otherRequest).state := by
  have bare : ∀ scheduler : Scheduler, Mask.blank.Covers scheduler.table := by
    rintro scheduler slot process hidden
    cases hidden
  have leftServed := serve_mirrors (bare left) (fun _ _ => rfl) request saved now
  have rightServed := serve_mirrors (bare right) (fun _ _ => rfl) otherRequest otherSaved now
  rw [Twins, ← leftServed.state, ← rightServed.state, twins, same]
  rfl

theorem Twins.reap (twins : left.Twins right) (memory otherMemory : PageAllocator) (pid : Pid) :
    (left.reap memory pid).outcome.state.1.Twins (right.reap otherMemory pid).outcome.state.1 := by
  have buried : ∀ (scheduler : Scheduler) (memory : PageAllocator),
      Mask.blank.scheduler (scheduler.reap memory pid).outcome.state.1 =
        { Mask.blank.scheduler scheduler with
          table := (Mask.blank.scheduler scheduler).table.bury pid } := by
    intro scheduler memory
    rw [reap_state, ProcessTable.reap_buries]
    have same := ProcessTable.bury_modifyAll Mask.blank.process (fun _ => rfl) (fun _ => rfl)
      scheduler.table pid
    simp only [Mask.scheduler, Mask.table_blank, same]
  rw [Twins, buried, buried, twins]

theorem withFiles_twins {α : Type} (scheduler : Scheduler) (pid : Pid)
    (change : Descriptors → α × Descriptors) : (scheduler.withFiles pid change).2.Twins scheduler := by
  rcases withFiles_cases scheduler pid change with ⟨-, same⟩ | ⟨slot, process, -, held, -, changed⟩
  · rw [same]
    exact rfl
  · have seen : Mask.blank.hides slot = false := rfl
    have entry : (Mask.blank.table scheduler.table).get? slot = some (Mask.blank.process process) := by
      rw [Mask.get?_open seen, held, Option.map_some]
    have put := Mask.table_put scheduler.table seen { process with files := (change process.files).2 }
    rw [changed]
    exact congrArg (fun table => { Mask.blank.scheduler scheduler with table })
      (put.trans (ProcessTable.put_self entry))

theorem runningLink_blank (scheduler : Scheduler) :
    (Mask.blank.scheduler scheduler).runningLink = scheduler.runningLink := by
  rw [runningLink, currentProcess?_mask fun _ _ => rfl, Option.map_map]
  rfl

theorem freeSlot?_blank (scheduler : Scheduler) :
    (Mask.blank.scheduler scheduler).table.freeSlot? = scheduler.table.freeSlot? :=
  (congrArg ProcessTable.freeSlot? (Mask.table_blank _)).trans (ProcessTable.freeSlot?_modifyAll _)

theorem Created.blank {memory pages : PageAllocator} {entry : VirtAddr} {kind : ProcessKind}
    {name : String} {slot : Nat} {process : ControlBlock}
    (created : left.Created memory entry kind name slot process next pages) :
    Mask.blank.scheduler next = { Mask.blank.scheduler left with
      table := { (Mask.blank.scheduler left).table.put slot
          { ControlBlock.new left.table.nextPid "" .kernelThread {} with parent := left.runningLink } with
        nextPid := left.table.nextPid + 1 }
      ready := next.ready } := by
  obtain ⟨footing, -, born⟩ := created.born
  have put := Mask.table_put left.table (rfl : Mask.blank.hides slot = false) process
  have looks : Mask.blank.process process =
      { ControlBlock.new left.table.nextPid "" .kernelThread {} with parent := left.runningLink } := by
    rw [born]
    rfl
  rw [looks] at put
  rw [created.rest, created.table]
  exact congrArg (fun table => { Mask.blank.scheduler left with
    table := { table with nextPid := left.table.nextPid + 1 }, ready := next.ready }) put

theorem Twins.created (twins : left.Twins right) {memory otherMemory pages otherPages : PageAllocator}
    {entry otherEntry : VirtAddr} {kind otherKind : ProcessKind} {name otherName : String}
    {slot otherSlot : Nat} {process otherProcess : ControlBlock}
    (created : left.Created memory entry kind name slot process next pages)
    (otherCreated : right.Created otherMemory otherEntry otherKind otherName otherSlot otherProcess
      otherNext otherPages) : next.Twins otherNext := by
  have nextPid : left.table.nextPid = right.table.nextPid := congrArg (·.table.nextPid) twins
  have queue := twins.ready
  have link : left.runningLink = right.runningLink := by
    rw [← runningLink_blank, twins, runningLink_blank]
  have vacant : left.table.freeSlot? = right.table.freeSlot? := by
    rw [← freeSlot?_blank, twins, freeSlot?_blank]
  obtain rfl : slot = otherSlot :=
    Option.some.inj (created.vacant.symm.trans (vacant.trans otherCreated.vacant))
  -- The mask does not reach the queue. A creation promises its line and its capacity, which make it up.
  have ready : next.ready = otherNext.ready := by
    refine created.faithful.ext otherCreated.faithful ?_ ?_
    · rw [created.line, otherCreated.line, queue]
    · rw [created.capacity, otherCreated.capacity, queue]
  rw [Twins, created.blank, otherCreated.blank, nextPid, link, ready, twins]

/-! What twins have in common. -/

theorem currentPid_blank (scheduler : Scheduler) :
    (Mask.blank.scheduler scheduler).currentPid = scheduler.currentPid := by
  rw [currentPid, currentProcess?_mask fun _ _ => rfl, Option.map_map]
  rfl

theorem stats_blank (scheduler : Scheduler) :
    (Mask.blank.scheduler scheduler).stats = scheduler.stats := by
  have listed : (Mask.blank.scheduler scheduler).table.processes = _ :=
    (congrArg ProcessTable.processes (Mask.table_blank _)).trans
      (ProcessTable.processes_modifyAll Mask.blank.process)
  have countIn : ∀ state, (Mask.blank.scheduler scheduler).countIn state = scheduler.countIn state := by
    intro state
    rw [Scheduler.countIn, listed, List.countP_map]
    rfl
  rw [stats, stats, currentPid_blank, countIn, countIn, listed, List.length_map]
  rfl

structure SameCourse (left right : Scheduler) : Prop where
  currentPid : left.currentPid = right.currentPid
  ready : left.ready = right.ready
  entries : ∀ slot, (left.table.get? slot).map ControlBlock.outline =
    (right.table.get? slot).map ControlBlock.outline
  stats : left.stats = right.stats

theorem Twins.sameCourse (twins : left.Twins right) : left.SameCourse right where
  currentPid := by rw [← currentPid_blank, twins, currentPid_blank]
  ready := twins.ready
  stats := by rw [← stats_blank, twins, stats_blank]
  entries := by
    have outline : ∀ (scheduler : Scheduler) slot,
        ((Mask.blank.scheduler scheduler).table.get? slot).map ControlBlock.outline =
          (scheduler.table.get? slot).map ControlBlock.outline := by
      intro scheduler slot
      exact (congrArg _ (Mask.get?_open rfl)).trans (Option.map_map ..)
    intro slot
    rw [← outline, twins, outline]

end Scheduler

end MiniKernel
