import MiniKernel.Proofs.Outcome
import MiniKernel.Proofs.Process.Table
import MiniKernel.Proofs.Schedule.ReadyQueue
import MiniKernel.Schedule.Dispatch

/-! What a dispatch does as a whole. It takes the head of one line: the waiting slots, then the
process that ran, then the sleepers that are due. Every process changes by one function. -/

namespace MiniKernel

namespace ControlBlock

def stop (process : ControlBlock) (saved : Registers) : ControlBlock :=
  match process.state with
  | .running => { process with context := saved, state := .ready }
  | .sleeping => { process with context := saved }
  | _ => process

@[simp]
theorem stop_wakeTick (process : ControlBlock) (saved : Registers) :
    (process.stop saved).wakeTick = process.wakeTick := by
  unfold stop
  split <;> rfl

theorem stop_state_sleeping (process : ControlBlock) (saved : Registers) :
    (process.stop saved).state = .sleeping ↔ process.state = .sleeping := by
  unfold stop
  split <;> simp [*]

def alarm? (process : ControlBlock) : Option Nat :=
  if process.state = .sleeping then some process.wakeTick else none

@[simp]
theorem stop_alarm? (process : ControlBlock) (saved : Registers) :
    (process.stop saved).alarm? = process.alarm? := by
  simp only [alarm?, stop_state_sleeping, stop_wakeTick]

def wakeBy (process : ControlBlock) (now : Nat) : ControlBlock :=
  if process.state = .sleeping ∧ process.wakeTick ≤ now then { process with state := .ready }
  else process

end ControlBlock

structure ReadyQueue.Serves (queue : ReadyQueue) (table : ProcessTable) : Prop where
  faithful : queue.Faithful
  capacity : queue.capacity = table.capacity
  waiting : ∀ slot ∈ queue.waiting,
    ∃ process, table.get? slot = some process ∧ process.state = .ready

namespace Scheduler

variable {scheduler : Scheduler} {slot : Nat} {process : ControlBlock}

def Orderly (scheduler : Scheduler) : Prop := scheduler.ready.Serves scheduler.table

structure Lined (scheduler : Scheduler) : Prop where
  faithful : scheduler.ready.Faithful
  capacity : scheduler.ready.capacity = scheduler.table.capacity
  waiting : ∀ slot, slot ∈ scheduler.ready.waiting ↔
    ∃ process, scheduler.table.get? slot = some process ∧ process.state = .ready

theorem Lined.orderly (lined : scheduler.Lined) : scheduler.Orderly :=
  ⟨lined.faithful, lined.capacity, fun slot waits => (lined.waiting slot).mp waits⟩

/-- The processor belongs to the process of one slot. The process may just have gone to sleep or
exited, but no other one is running. -/
structure Occupied (scheduler : Scheduler) (slot : Nat) (process : ControlBlock) : Prop where
  current : scheduler.current = some slot
  holds : scheduler.table.get? slot = some process
  departs : process.state = .running ∨ process.state = .sleeping ∨ process.state = .zombie
  alone : ∀ other rival, scheduler.table.get? other = some rival → rival.state = .running →
    other = slot

def returning (scheduler : Scheduler) : List Nat :=
  match scheduler.currentProcess? with
  | some (slot, process) => if process.state = .running then [slot] else []
  | none => []

def line (scheduler : Scheduler) (now : Nat) : List Nat :=
  scheduler.ready.waiting ++ scheduler.returning ++ scheduler.elapsed now

def settle (scheduler : Scheduler) (saved : Registers) (now slot : Nat) (process : ControlBlock) :
    ControlBlock :=
  (if scheduler.current = some slot then process.stop saved else process).wakeBy now

def turn (scheduler : Scheduler) (saved : Registers) (now chosen slot : Nat)
    (process : ControlBlock) : ControlBlock :=
  let settled := scheduler.settle saved now slot process
  if slot = chosen then { settled with state := .running } else settled

structure Dispatched (before : Scheduler) (saved : Registers) (now chosen : Nat)
    (registers : Registers) (after : Scheduler) : Prop where
  line : before.line now = chosen :: after.ready.waiting
  faithful : after.ready.Faithful
  capacity : after.ready.capacity = before.ready.capacity
  entries : ∀ slot, after.table.get? slot =
    (before.table.get? slot).map (before.turn saved now chosen slot)
  table : after.table = { before.table with slots := after.table.slots }
  slots : after.table.capacity = before.table.capacity
  registers : ∃ process, after.table.get? chosen = some process ∧ process.context = registers
  current : after.current = some chosen
  tick : after.lastTick = now
  switches : after.switches =
    if before.current = some chosen then before.switches else before.switches + 1
  config : after.config = before.config
  idleSlot : after.idleSlot = before.idleSlot

/-- The processor is lost: nobody runs, and the next switch cannot be counted. -/
structure Stalled (scheduler : Scheduler) : Prop where
  current : scheduler.current = none
  full : Word.max < scheduler.switches + 1

structure Overflowed (before : Scheduler) (failure : Failure) (after : Scheduler) : Prop where
  trapped : failure = .trapped .addOverflow
  full : Word.max < before.switches + 1
  stalled : after.Stalled

theorem settle_eq (scheduler : Scheduler) (saved : Registers) (now slot : Nat)
    (process : ControlBlock) :
    scheduler.settle saved now slot process = { process with
      context :=
        if scheduler.current = some slot ∧ (process.state = .running ∨ process.state = .sleeping) then
          saved
        else process.context
      state :=
        if process.state = .running ∧ scheduler.current = some slot then .ready
        else if process.state = .sleeping ∧ process.wakeTick ≤ now then .ready
        else process.state } := by
  obtain ⟨pid, name, kind, state, context, kernelStack, userStack, wakeTick, parent, files, exitCode⟩ :=
    process
  unfold settle ControlBlock.wakeBy ControlBlock.stop
  by_cases outgoing : scheduler.current = some slot <;> cases state <;>
    by_cases due : wakeTick ≤ now <;> simp [outgoing, due]

/-! The process that ran makes way. -/

theorem enqueue_eq (scheduler : Scheduler) (slot : Nat) (faithful : scheduler.ready.Faithful)
    (bound : slot < scheduler.ready.capacity) (absent : slot ∉ scheduler.ready.waiting) :
    ∃ ready, scheduler.enqueue slot = .done { scheduler with ready } () ∧
      ready.waiting = scheduler.ready.waiting ++ [slot] ∧
      ready.capacity = scheduler.ready.capacity ∧ ready.Faithful := by
  obtain ⟨ready, pushed, waiting, capacity, next⟩ := faithful.push bound absent
  refine ⟨ready, ?_, waiting, capacity, next⟩
  simp [enqueue, pushed]

theorem Occupied.bound (occupied : scheduler.Occupied slot process) :
    slot < scheduler.table.capacity := ProcessTable.get?_lt occupied.holds

theorem Occupied.absent (occupied : scheduler.Occupied slot process) (lined : scheduler.Lined) :
    slot ∉ scheduler.ready.waiting := by
  intro waits
  obtain ⟨other, held, ready⟩ := (lined.waiting slot).mp waits
  obtain rfl : process = other := Option.some.inj (occupied.holds.symm.trans held)
  rcases occupied.departs with state | state | state <;> rw [state] at ready <;> cases ready

theorem Occupied.returning_eq (occupied : scheduler.Occupied slot process) :
    scheduler.returning = if process.state = .running then [slot] else [] := by
  simp [returning, currentProcess?, occupied.current, occupied.holds]

theorem makeWay_empty (current : scheduler.current = some slot)
    (vacant : scheduler.table.get? slot = none) (saved : Registers) :
    scheduler.makeWay saved = .fatal { scheduler with current := none } (.currentSlotEmpty slot) := by
  simp only [makeWay, current, vacant]

theorem makeWay_held (current : scheduler.current = some slot)
    (held : scheduler.table.get? slot = some process) {saved : Registers} {stopped : Scheduler}
    (stops : stopped = { scheduler with
      current := none, table := scheduler.table.put slot (process.stop saved) }) :
    scheduler.makeWay saved = match process.state with
      | .running => stopped.enqueue slot
      | .sleeping => .done stopped ()
      | .zombie => .done stopped ()
      | state => .fatal stopped (.outgoingState process.pid state) := by
  subst stops
  unfold ControlBlock.stop
  cases state : process.state <;>
    simp only [makeWay, current, held, state, ProcessTable.put_self held]

theorem makeWay_eq (scheduler : Scheduler) (lined : scheduler.Lined)
    (occupied : scheduler.Occupied slot process) (saved : Registers) :
    ∃ ready, scheduler.makeWay saved = .done
        { scheduler with
          current := none, table := scheduler.table.put slot (process.stop saved), ready } () ∧
      ready.waiting = scheduler.ready.waiting ++ scheduler.returning ∧
      ready.capacity = scheduler.ready.capacity ∧ ready.Faithful := by
  have bound : slot < scheduler.ready.capacity := lined.capacity ▸ occupied.bound
  rw [occupied.returning_eq, makeWay_held occupied.current occupied.holds rfl]
  rcases occupied.departs with state | state | state <;> rw [state]
  · obtain ⟨ready, enqueued, waiting, capacity, faithful⟩ := enqueue_eq
      { scheduler with current := none, table := scheduler.table.put slot (process.stop saved) }
      slot lined.faithful bound (occupied.absent lined)
    exact ⟨ready, enqueued, by simpa using waiting, capacity, faithful⟩
  · exact ⟨scheduler.ready, rfl, by simp, rfl, lined.faithful⟩
  · exact ⟨scheduler.ready, rfl, by simp, rfl, lined.faithful⟩

/-! The sleepers wake. -/

theorem perm_insertSleeper (sleeper : Nat × Nat) (sleepers : List (Nat × Nat)) :
    (insertSleeper sleeper sleepers).Perm (sleeper :: sleepers) := by
  induction sleepers with
  | nil => exact List.Perm.refl _
  | cons first rest ih =>
      rw [insertSleeper]
      split
      · exact List.Perm.refl _
      · exact (ih.cons first).trans (List.Perm.swap sleeper first rest)

theorem perm_foldr_insertSleeper (sleepers : List (Nat × Nat)) :
    (sleepers.foldr insertSleeper []).Perm sleepers := by
  induction sleepers with
  | nil => exact List.Perm.refl _
  | cons first rest ih => exact (perm_insertSleeper first _).trans (ih.cons first)

theorem perm_elapsed (scheduler : Scheduler) (now : Nat) :
    (scheduler.elapsed now).Perm ((scheduler.due now).map Prod.snd) :=
  (perm_foldr_insertSleeper _).map Prod.snd

theorem due_eq_range (scheduler : Scheduler) (now : Nat) :
    scheduler.due now = (List.range scheduler.table.capacity).filterMap fun slot =>
      (scheduler.table.get? slot).bind fun process =>
        if process.state = .sleeping ∧ process.wakeTick ≤ now then some (process.wakeTick, slot)
        else none := by
  rw [due, ProcessTable.processes_eq_range, List.filterMap_filterMap]
  congr 1
  funext slot
  rw [Option.bind_map]
  rfl

theorem mem_elapsed {now : Nat} : slot ∈ scheduler.elapsed now ↔
    ∃ process, scheduler.table.get? slot = some process ∧ process.state = .sleeping ∧
      process.wakeTick ≤ now := by
  rw [(perm_elapsed scheduler now).mem_iff, due_eq_range, List.mem_map]
  constructor
  · rintro ⟨⟨tick, other⟩, member, rfl⟩
    obtain ⟨found, -, listed⟩ := List.mem_filterMap.mp member
    obtain ⟨process, held, due⟩ := Option.bind_eq_some_iff.mp listed
    split at due
    · rename_i sleeping
      cases due
      exact ⟨process, held, sleeping⟩
    · cases due
  · rintro ⟨process, held, sleeping⟩
    refine ⟨(process.wakeTick, slot), List.mem_filterMap.mpr ⟨slot, ?_, ?_⟩, rfl⟩
    · exact List.mem_range.mpr (ProcessTable.get?_lt held)
    · simp [held, sleeping]

theorem nodup_elapsed (scheduler : Scheduler) (now : Nat) : (scheduler.elapsed now).Nodup := by
  rw [(perm_elapsed scheduler now).nodup_iff, due_eq_range, List.nodup_iff_pairwise_ne,
    List.pairwise_map, List.pairwise_filterMap]
  apply List.pairwise_lt_range.imp
  intro left right before leftPair leftEq rightPair rightEq
  obtain ⟨leftProcess, -, leftDue⟩ := Option.bind_eq_some_iff.mp leftEq
  obtain ⟨rightProcess, -, rightDue⟩ := Option.bind_eq_some_iff.mp rightEq
  split at leftDue <;> cases leftDue
  split at rightDue <;> cases rightDue
  exact Nat.ne_of_lt before

theorem elapsed_congr {left right : Scheduler} (capacity : left.table.capacity = right.table.capacity)
    {now : Nat} (same : ∀ slot, (left.table.get? slot).bind ControlBlock.alarm? =
      (right.table.get? slot).bind ControlBlock.alarm?) : left.elapsed now = right.elapsed now := by
  have rung : ∀ (slot : Nat) (process : ControlBlock),
      (if process.state = .sleeping ∧ process.wakeTick ≤ now then some (process.wakeTick, slot)
        else none) =
      process.alarm?.bind fun tick => if tick ≤ now then some (tick, slot) else none := by
    intro slot process
    by_cases sleeping : process.state = .sleeping <;> simp [ControlBlock.alarm?, sleeping]
  have due : left.due now = right.due now := by
    simp only [due_eq_range, rung, ← Option.bind_assoc, same, capacity]
  rw [elapsed, elapsed, due]

end Scheduler

def ProcessTable.readyAll (table : ProcessTable) (slots : List Nat) : ProcessTable :=
  slots.foldl (fun table slot => table.modify slot fun process => { process with state := .ready })
    table

theorem ProcessTable.readyAll_frame (table : ProcessTable) (slots : List Nat) :
    table.readyAll slots = { table with slots := (table.readyAll slots).slots } ∧
      (table.readyAll slots).capacity = table.capacity := by
  induction slots generalizing table with
  | nil => exact ⟨rfl, rfl⟩
  | cons slot slots ih =>
      obtain ⟨frame, capacity⟩ :=
        ih (table.modify slot fun process => { process with state := .ready })
      refine ⟨?_, capacity.trans (ProcessTable.capacity_modify ..)⟩
      rw [readyAll, List.foldl_cons, ← readyAll, frame]
      rfl

theorem ProcessTable.get?_readyAll (table : ProcessTable) (slots : List Nat) (other : Nat) :
    (table.readyAll slots).get? other = (table.get? other).map fun process =>
      if other ∈ slots then { process with state := .ready } else process := by
  induction slots generalizing table with
  | nil => simp [readyAll]
  | cons slot slots ih =>
      rw [readyAll, List.foldl_cons, ← readyAll, ih, get?_modify, Option.map_map]
      congr 1
      funext process
      by_cases first : other = slot <;> by_cases later : other ∈ slots <;> simp [first, later]

namespace Scheduler

variable {scheduler : Scheduler} {slot : Nat} {process : ControlBlock}

theorem wake_eq (scheduler : Scheduler) (slots : List Nat) (distinct : slots.Nodup)
    (faithful : scheduler.ready.Faithful) (bound : ∀ slot ∈ slots, slot < scheduler.ready.capacity)
    (absent : ∀ slot ∈ slots, slot ∉ scheduler.ready.waiting) :
    ∃ ready, scheduler.wake slots =
        .done { scheduler with table := scheduler.table.readyAll slots, ready } () ∧
      ready.waiting = scheduler.ready.waiting ++ slots ∧
      ready.capacity = scheduler.ready.capacity ∧ ready.Faithful := by
  induction slots generalizing scheduler with
  | nil => exact ⟨scheduler.ready, rfl, by simp, rfl, faithful⟩
  | cons slot slots ih =>
      obtain ⟨fresh, distinct⟩ := List.nodup_cons.mp distinct
      let table := scheduler.table.modify slot fun process => { process with state := .ready }
      obtain ⟨joined, enqueued, waiting, capacity, joinedFaithful⟩ := enqueue_eq
        { scheduler with table } slot faithful
        (bound slot List.mem_cons_self) (absent slot List.mem_cons_self)
      obtain ⟨ready, woken, readyWaiting, readyCapacity, readyFaithful⟩ := ih
        { scheduler with table, ready := joined } distinct joinedFaithful
        (fun other member => capacity ▸ bound other (List.mem_cons_of_mem _ member))
        (by
          intro other member waits
          rw [waiting, List.mem_append, List.mem_singleton] at waits
          rcases waits with waits | rfl
          · exact absent other (List.mem_cons_of_mem _ member) waits
          · exact fresh member)
      refine ⟨ready, ?_, ?_, readyCapacity.trans capacity, readyFaithful⟩
      · rw [wake]
        change (enqueue { scheduler with table } slot).andThen _ = _
        rw [enqueued, Outcome.done_andThen, woken]
        rfl
      · rw [readyWaiting, waiting, List.append_assoc, List.singleton_append]

theorem switchesAfter_cases (scheduler : Scheduler) (previous : Option Nat) (next : Nat) :
    scheduler.switchesAfter previous next =
        .ok (if previous = some next then scheduler.switches else scheduler.switches + 1) ∨
      scheduler.switchesAfter previous next = .error .addOverflow ∧
        Word.max < scheduler.switches + 1 := by
  unfold switchesAfter Word.add
  by_cases same : previous = some next
  · simp [same]
  · by_cases room : scheduler.switches + 1 ≤ Word.max
    · simp [same, room]
    · simp [same, room, Nat.lt_of_not_le room]

theorem runHead_ensures {rest : List Nat} (faithful : scheduler.ready.Faithful)
    (waiting : scheduler.ready.waiting = slot :: rest) (held : scheduler.table.get? slot = some process)
    (state : process.state = .ready) (previous : Option Nat) :
    (scheduler.runHead previous).Ensures
      (fun registers next => registers = process.context ∧ ∃ ready,
        next = { scheduler with
          table := scheduler.table.put slot { process with state := .running }
          ready
          current := some slot
          switches := if previous = some slot then scheduler.switches else scheduler.switches + 1 } ∧
        ready.waiting = rest ∧ ready.capacity = scheduler.ready.capacity ∧ ready.Faithful)
      fun failure next => failure = .trapped .addOverflow ∧ Word.max < scheduler.switches + 1 ∧
        next.switches = scheduler.switches ∧ next.current = scheduler.current := by
  obtain ⟨ready, popped, readyWaiting, capacity, readyFaithful⟩ := faithful.pop waiting
  unfold runHead
  simp only [popped, held, state, if_true]
  rcases switchesAfter_cases { scheduler with ready } previous slot with counted | ⟨counted, full⟩
  · rw [counted]
    exact ⟨rfl, ready, rfl, readyWaiting, capacity, readyFaithful⟩
  · rw [counted]
    exact ⟨rfl, full, rfl, rfl⟩

/-! The three steps together. -/

theorem mem_line (lined : scheduler.Lined) (occupied : scheduler.Occupied slot process)
    (saved : Registers) (now other : Nat) :
    other ∈ scheduler.line now ↔ ∃ rival, scheduler.table.get? other = some rival ∧
      (scheduler.settle saved now other rival).state = .ready := by
  rw [line, List.mem_append, List.mem_append, lined.waiting, occupied.returning_eq, mem_elapsed]
  constructor
  · rintro ((⟨rival, held, state⟩ | returns) | ⟨rival, held, state, due⟩)
    · exact ⟨rival, held, by simp [settle_eq, state]⟩
    · split at returns
      · rename_i state
        obtain rfl := List.mem_singleton.mp returns
        exact ⟨process, occupied.holds, by simp [settle_eq, state, occupied.current]⟩
      · cases returns
    · exact ⟨rival, held, by simp [settle_eq, state, due]⟩
  · rintro ⟨rival, held, ready⟩
    rw [settle_eq] at ready
    split at ready
    · rename_i outgoing
      obtain rfl : slot = other := Option.some.inj (occupied.current.symm.trans outgoing.2)
      obtain rfl : process = rival := Option.some.inj (occupied.holds.symm.trans held)
      exact Or.inl (Or.inr (by simp [outgoing.1]))
    · split at ready
      · rename_i due
        exact Or.inr ⟨rival, held, due⟩
      · exact Or.inl (Or.inl ⟨rival, held, ready⟩)

theorem nodup_line (lined : scheduler.Lined) (occupied : scheduler.Occupied slot process) (now : Nat) :
    (scheduler.line now).Nodup := by
  have notReady : ∀ other ∈ scheduler.elapsed now, other ∉ scheduler.ready.waiting := by
    intro other elapses waits
    obtain ⟨sleeper, held, sleeping, -⟩ := mem_elapsed.mp elapses
    obtain ⟨rival, rivalHeld, ready⟩ := (lined.waiting other).mp waits
    obtain rfl : sleeper = rival := Option.some.inj (held.symm.trans rivalHeld)
    rw [sleeping] at ready
    cases ready
  have notReturning : ∀ other ∈ scheduler.elapsed now, other ∉ scheduler.returning := by
    intro other elapses returns
    obtain ⟨sleeper, held, sleeping, -⟩ := mem_elapsed.mp elapses
    rw [occupied.returning_eq] at returns
    split at returns
    · rename_i running
      obtain rfl := List.mem_singleton.mp returns
      obtain rfl : process = sleeper := Option.some.inj (occupied.holds.symm.trans held)
      rw [sleeping] at running
      cases running
    · cases returns
  have returningDistinct : scheduler.returning.Nodup := by
    rw [occupied.returning_eq]
    split <;> simp
  rw [line, List.nodup_append, List.nodup_append]
  refine ⟨⟨lined.faithful.distinct, returningDistinct, ?_⟩, nodup_elapsed scheduler now, ?_⟩
  · rintro waiting waits returned returns rfl
    rw [occupied.returning_eq] at returns
    split at returns
    · obtain rfl := List.mem_singleton.mp returns
      exact occupied.absent lined waits
    · cases returns
  · rintro other earlier elapsed elapses rfl
    rcases List.mem_append.mp earlier with waits | returns
    · exact notReady other elapses waits
    · exact notReturning other elapses returns

theorem get?_settled (occupied : scheduler.Occupied slot process) (saved : Registers)
    (now other : Nat) :
    ((scheduler.table.put slot (process.stop saved)).readyAll (scheduler.elapsed now)).get? other =
      (scheduler.table.get? other).map (scheduler.settle saved now other) := by
  have elapses : ∀ rival, scheduler.table.get? other = some rival →
      (other ∈ scheduler.elapsed now ↔ rival.state = .sleeping ∧ rival.wakeTick ≤ now) := by
    intro rival held
    rw [mem_elapsed, held]
    simp
  rw [ProcessTable.get?_readyAll, ProcessTable.get?_put occupied.bound]
  by_cases outgoing : other = slot
  · subst other
    rw [if_pos rfl, occupied.holds, Option.map_some, Option.map_some, settle, if_pos occupied.current,
      ControlBlock.wakeBy]
    simp only [elapses process occupied.holds, ControlBlock.stop_state_sleeping,
      ControlBlock.stop_wakeTick]
  · have waits : scheduler.current ≠ some other := by
      rw [occupied.current]
      exact fun same => outgoing (Option.some.inj same).symm
    rw [if_neg outgoing]
    cases held : scheduler.table.get? other with
    | none => rfl
    | some rival =>
        simp only [Option.map_some, elapses rival held, settle, waits, if_false, ControlBlock.wakeBy]

/-- Waking looks past the process that made way: its registers do not matter, and it does not sleep
any more or less than before. -/
theorem elapsed_makeWay (occupied : scheduler.Occupied slot process) (saved : Registers) (now tick : Nat)
    (ready : ReadyQueue) :
    elapsed { scheduler with
        lastTick := tick, current := none
        table := scheduler.table.put slot (process.stop saved), ready } now =
      scheduler.elapsed now := by
  apply elapsed_congr (ProcessTable.capacity_put ..)
  intro other
  rw [ProcessTable.get?_put occupied.bound]
  by_cases same : other = slot
  · subst other
    simp [occupied.holds]
  · simp [same]

theorem lineUp_eq (lined : scheduler.Lined) (occupied : scheduler.Occupied slot process)
    (saved : Registers) (now : Nat) :
    ∃ waiting ready, makeWay { scheduler with lastTick := now } saved = .done waiting () ∧
      waiting.wakeSleepers now = .done
        { scheduler with
          lastTick := now, current := none
          table := (scheduler.table.put slot (process.stop saved)).readyAll (scheduler.elapsed now)
          ready } () ∧
      ready.waiting = scheduler.line now ∧ ready.capacity = scheduler.ready.capacity ∧
      ready.Faithful := by
  obtain ⟨waited, madeWay, waitedLine, waitedCapacity, waitedFaithful⟩ := makeWay_eq
    { scheduler with lastTick := now } ⟨lined.faithful, lined.capacity, lined.waiting⟩
    ⟨occupied.current, occupied.holds, occupied.departs, occupied.alone⟩ saved
  change waited.waiting = scheduler.ready.waiting ++ scheduler.returning at waitedLine
  have distinct := nodup_line lined occupied now
  rw [line, ← waitedLine] at distinct
  obtain ⟨-, elapsedDistinct, apart⟩ := List.nodup_append.mp distinct
  obtain ⟨ready, woken, readyLine, readyCapacity, readyFaithful⟩ := wake_eq
    { scheduler with
      lastTick := now, current := none
      table := scheduler.table.put slot (process.stop saved), ready := waited }
    (scheduler.elapsed now) elapsedDistinct waitedFaithful
    (by
      intro other elapses
      obtain ⟨sleeper, held, -⟩ := mem_elapsed.mp elapses
      have bound := ProcessTable.get?_lt held
      rw [waitedCapacity]
      exact lined.capacity ▸ bound)
    (fun other elapses waits => apart other waits other elapses rfl)
  refine ⟨_, ready, madeWay, ?_, ?_, readyCapacity.trans waitedCapacity, readyFaithful⟩
  · rw [wakeSleepers]
    exact (congrArg _ (elapsed_makeWay occupied saved now now waited)).trans woken
  · rw [readyLine, line, ← waitedLine]

/-- A dispatch returns unless the switch counter is exhausted. -/
theorem dispatch_ensures (lined : scheduler.Lined) (occupied : scheduler.Occupied slot process)
    (saved : Registers) (now : Nat) (nonempty : scheduler.line now ≠ []) :
    (scheduler.dispatch saved now).Ensures
      (fun registers next => ∃ chosen, scheduler.Dispatched saved now chosen registers next)
      scheduler.Overflowed := by
  obtain ⟨chosen, rest, line⟩ := List.exists_cons_of_ne_nil nonempty
  obtain ⟨waiting, queued, madeWay, woken, queuedLine, queuedCapacity, queuedFaithful⟩ :=
    lineUp_eq lined occupied saved now
  obtain ⟨rival, held, ready⟩ := (mem_line lined occupied saved now chosen).mp
    (line ▸ List.mem_cons_self)
  have settled := get?_settled occupied saved now
  obtain ⟨frame, capacity⟩ := ProcessTable.readyAll_frame
    (scheduler.table.put slot (process.stop saved)) (scheduler.elapsed now)
  generalize (scheduler.table.put slot (process.stop saved)).readyAll (scheduler.elapsed now) = table
    at woken settled frame capacity
  have chosenHeld := settled chosen
  rw [held, Option.map_some] at chosenHeld
  have bound := ProcessTable.get?_lt chosenHeld
  rw [dispatch, madeWay, Outcome.done_andThen, woken, Outcome.done_andThen]
  refine (runHead_ensures queuedFaithful (queuedLine.trans line) chosenHeld ready
    scheduler.current).imp ?_ ?_
  swap
  · rintro failure next ⟨rfl, full, switches, current⟩
    exact ⟨rfl, full, current, switches ▸ full⟩
  rintro registers next ⟨same, popped, rfl, poppedLine, poppedCapacity, poppedFaithful⟩
  refine ⟨chosen, ?_, poppedFaithful, poppedCapacity.trans queuedCapacity, ?_, ?_, ?_, ?_, rfl, rfl,
    rfl, rfl, rfl⟩
  · rw [line, ← poppedLine]
  · intro other
    rw [ProcessTable.get?_put bound, settled]
    by_cases run : other = chosen
    · subst other
      rw [if_pos rfl, held, Option.map_some, turn, if_pos rfl]
    · rw [if_neg run]
      congr 1
      funext rival
      rw [turn, if_neg run]
  · change table.put chosen _ = _
    rw [frame]
    rfl
  · exact (ProcessTable.capacity_put ..).trans (capacity.trans (ProcessTable.capacity_put ..))
  · refine ⟨{ scheduler.settle saved now chosen rival with state := .running }, ?_, same.symm⟩
    rw [ProcessTable.get?_put bound, if_pos rfl]

end Scheduler

end MiniKernel
