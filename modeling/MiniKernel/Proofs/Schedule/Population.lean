import MiniKernel.Proofs.Schedule.WellFormed

/-! Who is in the table: creations, reaps and changes of descriptors, under any page allocator
whatever. None of them touches the process that runs. -/

namespace MiniKernel.Scheduler

variable {scheduler next : Scheduler} {slot : Nat} {process : ControlBlock}
  {memory left : PageAllocator} {entry : VirtAddr} {kind : ProcessKind} {name : String}

def runningLink (scheduler : Scheduler) : Option ParentLink :=
  scheduler.currentProcess?.map fun (slot, process) => ⟨slot, process.pid⟩

structure Created (before : Scheduler) (memory : PageAllocator) (entry : VirtAddr) (kind : ProcessKind)
    (name : String) (slot : Nat) (process : ControlBlock) (after : Scheduler)
    (left : PageAllocator) : Prop where
  vacant : before.table.freeSlot? = some slot
  born : ∃ footing, (before.table.allocFooting memory entry kind).result = .ok footing ∧
    process = before.table.newborn name kind footing before.runningLink
  pages : left = (before.table.allocFooting memory entry kind).state
  counted : before.table.nextPid + 1 ≤ Word.max
  table : after.table = { before.table.put slot process with nextPid := before.table.nextPid + 1 }
  line : after.ready.waiting = before.ready.waiting ++ [slot]
  capacity : after.ready.capacity = before.ready.capacity
  faithful : after.ready.Faithful
  rest : after = { before with table := after.table, ready := after.ready }

theorem Created.state (created : scheduler.Created memory entry kind name slot process next left) :
    process.state = .ready := by
  obtain ⟨footing, -, rfl⟩ := created.born
  rfl

theorem Created.pid (created : scheduler.Created memory entry kind name slot process next left) :
    process.pid = scheduler.table.nextPid := by
  obtain ⟨footing, -, rfl⟩ := created.born
  rfl

theorem Created.get? (created : scheduler.Created memory entry kind name slot process next left)
    (other : Nat) :
    next.table.get? other = if other = slot then some process else scheduler.table.get? other := by
  rw [created.table]
  exact ProcessTable.get?_put (ProcessTable.freeSlot?_some created.vacant).1 other

theorem Orderly.absent {other : Nat} (orderly : scheduler.Orderly)
    (vacant : scheduler.table.get? other = none) : other ∉ scheduler.ready.waiting := by
  intro waits
  obtain ⟨rival, held, -⟩ := orderly.waiting other waits
  rw [vacant] at held
  cases held

theorem Orderly.create_ensures (orderly : scheduler.Orderly) (memory : PageAllocator)
    (entry : VirtAddr) (kind : ProcessKind) (name : String) :
    (scheduler.create memory entry kind name).Ensures
      (fun pid next => pid = scheduler.table.nextPid ∧
        ∃ slot process, scheduler.Created memory entry kind name slot process next.1 next.2)
      fun failure next => next.1 = scheduler ∧
        scheduler.table.Uncreated memory entry kind failure next.2 := by
  rw [create, Outcome.ensures_andThen, Outcome.ensures_within]
  refine (ProcessTable.create_ensures ..).imp ?_ ?_
  · rintro ⟨slot, pid⟩ ⟨table, left⟩ ⟨rfl, vacant, counted, rfl, footing, footed, rfl⟩
    obtain ⟨bound, empty, -⟩ := ProcessTable.freeSlot?_some vacant
    let born := scheduler.table.newborn name kind footing scheduler.runningLink
    let table := { scheduler.table.put slot born with nextPid := scheduler.table.nextPid + 1 }
    obtain ⟨ready, enqueued, waiting, capacity, faithful⟩ := enqueue_eq { scheduler with table } slot
      orderly.faithful (orderly.capacity.symm ▸ bound) (orderly.absent empty)
    simp only [Outcome.ensures_andThen, Outcome.ensures_within]
    change (enqueue { scheduler with table } slot).Ensures _ _
    rw [enqueued]
    exact ⟨rfl, slot, born, vacant, ⟨footing, footed, rfl⟩, rfl, counted, rfl, waiting, capacity,
      faithful, rfl⟩
  · rintro failure ⟨table, left⟩ ⟨rfl, uncreated⟩
    exact ⟨rfl, uncreated⟩

theorem Created.pid_ne_idle (created : scheduler.Created memory entry kind name slot process next left)
    {current : Nat} {runner : ControlBlock} (coherent : scheduler.Coherent current runner) :
    process.pid ≠ idlePid := by
  obtain ⟨idle, held, pid, -⟩ := coherent.idle
  have below := coherent.numbered.below 0 idle held
  rw [created.pid]
  exact Nat.ne_of_gt (pid ▸ below)

theorem Created.vacated (created : scheduler.Created memory entry kind name slot process next left)
    {other : Nat} {rival : ControlBlock} (held : scheduler.table.get? other = some rival) :
    other ≠ slot := by
  rintro rfl
  rw [(ProcessTable.freeSlot?_some created.vacant).2.1] at held
  cases held

theorem Created.kept (created : scheduler.Created memory entry kind name slot process next left)
    {other : Nat} {rival : ControlBlock} (held : scheduler.table.get? other = some rival) :
    next.table.get? other = some rival := by
  rw [created.get?, if_neg (created.vacated held), held]

theorem Created.cases (created : scheduler.Created memory entry kind name slot process next left)
    {other : Nat} {after : ControlBlock} (held : next.table.get? other = some after) :
    other = slot ∧ after.state = .ready ∨ scheduler.table.get? other = some after := by
  rw [created.get?] at held
  split at held
  · rename_i own
    obtain rfl := Option.some.inj held
    exact Or.inl ⟨own, created.state⟩
  · exact Or.inr held

theorem Created.orderly (created : scheduler.Created memory entry kind name slot process next left)
    (orderly : scheduler.Orderly) : next.Orderly := by
  refine ⟨created.faithful, ?_, fun other waits => ?_⟩
  · rw [created.capacity, orderly.capacity, created.table]
    exact (ProcessTable.capacity_put ..).symm
  · rw [created.line, List.mem_append, List.mem_singleton] at waits
    rcases waits with before | rfl
    · obtain ⟨rival, held, ready⟩ := orderly.waiting other before
      exact ⟨rival, created.kept held, ready⟩
    · exact ⟨process, by rw [created.get?, if_pos rfl], created.state⟩

theorem Created.lined (created : scheduler.Created memory entry kind name slot process next left)
    (lined : scheduler.Lined) : next.Lined := by
  obtain ⟨faithful, capacity, waiting⟩ := created.orderly lined.orderly
  refine ⟨faithful, capacity, fun other => ⟨waiting other, ?_⟩⟩
  rintro ⟨after, held, state⟩
  rw [created.line, List.mem_append, List.mem_singleton, lined.waiting]
  rcases created.cases held with ⟨own, -⟩ | before
  · exact Or.inr own
  · exact Or.inl ⟨after, before, state⟩

theorem Created.wellFormed (created : scheduler.Created memory entry kind name slot process next left)
    (wellFormed : scheduler.WellFormed) : next.WellFormed := by
  obtain ⟨current, runner, coherent, running⟩ := wellFormed
  have occupied : next.Occupied current runner := by
    refine ⟨?_, created.kept coherent.occupied.holds, Or.inl running, ?_⟩
    · rw [created.rest]
      exact coherent.occupied.current
    · intro other after held state
      rcases created.cases held with ⟨-, ready⟩ | before
      · exact absurd (ready.symm.trans state) (by simp)
      · exact coherent.occupied.alone other after before state
  refine ⟨current, runner, ⟨created.lined coherent.lined, occupied, ?_, ?_, ?_, ?_, ?_, ?_⟩, running⟩
  · intro other after held dead
    rcases created.cases held with ⟨-, ready⟩ | before
    · exact absurd (ready.symm.trans dead) (by simp)
    · exact coherent.alive other after before dead
  · rw [created.rest]
    exact coherent.idleSlot
  · obtain ⟨idle, held, pid, state⟩ := coherent.idle
    exact ⟨idle, created.kept held, pid, state⟩
  · exact coherent.numbered.enter created.pid created.get? (by rw [created.table])
  · rw [created.rest]
    exact coherent.quantum
  · rw [created.rest, created.table]
    exact coherent.stackSizes

/-! Reaps. -/

theorem reap_ensures (scheduler : Scheduler) (memory : PageAllocator) (pid : Pid) :
    (∃ slot process, scheduler.table.Exited pid slot process ∧
      (scheduler.reap memory pid).closed = process.files.handles ∧
      (scheduler.reap memory pid).outcome.Ensures
        (fun info next => next = ({ scheduler with table := scheduler.table.clear slot },
            (scheduler.table.freeStacks memory process).state) ∧
          (scheduler.table.freeStacks memory process).result = .ok () ∧
          info = { scheduler.table.snapshotOf process with state := .dead })
        fun failure next => next = ({ scheduler with table := scheduler.table.clear slot },
            (scheduler.table.freeStacks memory process).state) ∧
          (scheduler.table.freeStacks memory process).result = .error failure) ∨
    (scheduler.reap memory pid).closed = [] ∧
      (scheduler.reap memory pid).outcome.Ensures (fun _ _ => False) fun failure next =>
        next = (scheduler, memory) ∧ scheduler.table.Unreaped pid failure := by
  simp only [reap, Outcome.ensures_andThen, Outcome.ensures_within, Outcome.ensures_after,
    Outcome.ensures_done]
  rcases ProcessTable.reap_ensures scheduler.table memory pid with
    ⟨slot, process, exited, closed, ensured⟩ | ⟨closed, ensured⟩
  · refine Or.inl ⟨slot, process, exited, closed, ensured.imp ?_ ?_⟩
    · rintro info next ⟨rfl, freed, rfl⟩
      exact ⟨rfl, freed, rfl⟩
    · rintro failure next ⟨rfl, failed⟩
      exact ⟨rfl, failed⟩
  · refine Or.inr ⟨closed, ensured.imp (fun _ _ impossible => impossible) ?_⟩
    rintro failure next ⟨rfl, unreaped⟩
    exact ⟨rfl, unreaped⟩

theorem reap_state (scheduler : Scheduler) (memory : PageAllocator) (pid : Pid) :
    (scheduler.reap memory pid).outcome.state =
      ({ scheduler with table := (scheduler.table.reap memory pid).outcome.state.1 },
        (scheduler.table.reap memory pid).outcome.state.2) := by
  rw [reap]
  cases found : (scheduler.table.reap memory pid).outcome.result <;>
    simp [Outcome.andThen, Outcome.within, found, Outcome.done]

theorem reap_result (scheduler : Scheduler) (memory : PageAllocator) (pid : Pid) :
    (scheduler.reap memory pid).outcome.result = (scheduler.table.reap memory pid).outcome.result := by
  rw [reap]
  cases found : (scheduler.table.reap memory pid).outcome.result <;>
    simp [Outcome.andThen, Outcome.within, found, Outcome.done]

theorem WellFormed.clear (wellFormed : scheduler.WellFormed)
    (held : scheduler.table.get? slot = some process) (zombie : process.state = .zombie) :
    { scheduler with table := scheduler.table.clear slot }.WellFormed := by
  obtain ⟨current, runner, coherent, running⟩ := wellFormed
  have kept : ∀ {other rival}, scheduler.table.get? other = some rival → rival.state ≠ .zombie →
      (scheduler.table.clear slot).get? other = some rival := by
    intro other rival rivalHeld lives
    refine ProcessTable.get?_clear_some.mpr ⟨?_, rivalHeld⟩
    rintro rfl
    obtain rfl := Option.some.inj (held.symm.trans rivalHeld)
    exact lives zombie
  have entry : ∀ {other rival}, (scheduler.table.clear slot).get? other = some rival →
      scheduler.table.get? other = some rival :=
    fun rivalHeld => (ProcessTable.get?_clear_some.mp rivalHeld).2
  refine ⟨current, runner, ⟨⟨coherent.lined.faithful, ?_, ?_⟩, ⟨coherent.occupied.current, ?_,
    Or.inl running, ?_⟩, ?_, coherent.idleSlot, ?_, coherent.numbered.clear slot, coherent.quantum,
    coherent.stackSizes⟩, running⟩
  · exact coherent.lined.capacity.trans (ProcessTable.capacity_clear ..).symm
  · intro other
    refine (coherent.lined.waiting other).trans ⟨?_, ?_⟩
    · rintro ⟨rival, rivalHeld, ready⟩
      exact ⟨rival, kept rivalHeld (by simp [ready]), ready⟩
    · rintro ⟨rival, rivalHeld, ready⟩
      exact ⟨rival, entry rivalHeld, ready⟩
  · exact kept coherent.occupied.holds (by simp [running])
  · intro other rival rivalHeld state
    exact coherent.occupied.alone other rival (entry rivalHeld) state
  · intro other rival rivalHeld
    exact coherent.alive other rival (entry rivalHeld)
  · obtain ⟨idle, idleHeld, pid, state⟩ := coherent.idle
    refine ⟨idle, kept idleHeld ?_, pid, state⟩
    rcases state with state | state <;> simp [state]

/-! Descriptors. -/

theorem withFiles_cases {α : Type} (scheduler : Scheduler) (pid : Pid)
    (change : Descriptors → α × Descriptors) :
    scheduler.table.lookup pid = none ∧ scheduler.withFiles pid change = (none, scheduler) ∨
      ∃ slot process, scheduler.table.lookup pid = some slot ∧
        scheduler.table.get? slot = some process ∧ process.pid = pid ∧
        scheduler.withFiles pid change = (some (change process.files).1, { scheduler with
          table := scheduler.table.put slot
            { process with files := (change process.files).2 } }) := by
  unfold withFiles
  cases found : scheduler.table.lookup pid with
  | none => exact Or.inl ⟨rfl, rfl⟩
  | some slot =>
      obtain ⟨⟨process, held, named⟩, -⟩ := ProcessTable.lookup_some found
      simp only [Option.bind_some, held, Option.map_some]
      exact Or.inr ⟨slot, process, rfl, held, named, rfl⟩

theorem get?_withFiles {α : Type} (scheduler : Scheduler) (pid : Pid)
    (change : Descriptors → α × Descriptors) (other : Nat) :
    (scheduler.withFiles pid change).2.table.get? other =
      (scheduler.table.get? other).map fun process => { process with
        files := if scheduler.table.lookup pid = some other then (change process.files).2
          else process.files } := by
  rcases withFiles_cases scheduler pid change with
    ⟨missing, same⟩ | ⟨slot, process, found, held, -, changed⟩
  · simp [same, missing]
  · rw [changed, found, ProcessTable.get?_put (ProcessTable.get?_lt held)]
    by_cases own : other = slot
    · subst other
      simp [held]
    · simp [own, Ne.symm own]

theorem withFiles_frame {α : Type} (scheduler : Scheduler) (pid : Pid)
    (change : Descriptors → α × Descriptors) :
    (scheduler.withFiles pid change).2 =
        { scheduler with table := (scheduler.withFiles pid change).2.table } ∧
      (scheduler.withFiles pid change).2.table = { scheduler.table with
        slots := (scheduler.withFiles pid change).2.table.slots } ∧
      (scheduler.withFiles pid change).2.table.capacity = scheduler.table.capacity := by
  rcases withFiles_cases scheduler pid change with
    ⟨-, same⟩ | ⟨slot, process, -, -, -, changed⟩
  · rw [same]
    exact ⟨rfl, rfl, rfl⟩
  · rw [changed]
    exact ⟨rfl, rfl, ProcessTable.capacity_put ..⟩

theorem WellFormed.withFiles {α : Type} (wellFormed : scheduler.WellFormed) (pid : Pid)
    (change : Descriptors → α × Descriptors) : (scheduler.withFiles pid change).2.WellFormed := by
  obtain ⟨current, runner, coherent, running⟩ := wellFormed
  obtain ⟨frame, table, capacity⟩ := withFiles_frame scheduler pid change
  rw [frame]
  exact ⟨current, _, coherent.retable table capacity _ (get?_withFiles scheduler pid change)
    (fun _ _ => rfl) (fun _ _ _ => rfl) coherent.occupied.departs fun _ => rfl, running⟩

end MiniKernel.Scheduler
