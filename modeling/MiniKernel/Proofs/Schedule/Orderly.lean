import MiniKernel.Proofs.Schedule.Request
import MiniKernel.Proofs.Schedule.Steady

/-! Whoever waits in the queue is ready to run. This much of the shape of a scheduler survives every
operation and every failure, also the loss of a switch, so a new process always finds its place. -/

namespace MiniKernel.Scheduler

variable {scheduler next : Scheduler} {slot : Nat} {process changed : ControlBlock}

theorem Orderly.put (orderly : scheduler.Orderly) (bound : slot < scheduler.table.capacity)
    (waits : slot ∈ scheduler.ready.waiting → changed.state = .ready) :
    { scheduler with table := scheduler.table.put slot changed }.Orderly := by
  refine ⟨orderly.faithful, orderly.capacity.trans (ProcessTable.capacity_put ..).symm, ?_⟩
  intro other waiting
  change ∃ process, (scheduler.table.put slot changed).get? other = some process ∧ _
  rw [ProcessTable.get?_put bound]
  by_cases own : other = slot
  · subst other
    exact ⟨changed, if_pos rfl, waits waiting⟩
  · rw [if_neg own]
    exact orderly.waiting other waiting

theorem Orderly.makeReady (orderly : scheduler.Orderly) (slot : Nat) :
    { scheduler with table := scheduler.table.modify slot fun process =>
      { process with state := .ready } }.Orderly := by
  refine ⟨orderly.faithful, orderly.capacity.trans (ProcessTable.capacity_modify ..).symm, ?_⟩
  intro other waiting
  obtain ⟨process, held, ready⟩ := orderly.waiting other waiting
  refine ⟨_, by rw [ProcessTable.get?_modify, held, Option.map_some], ?_⟩
  split
  · rfl
  · exact ready

theorem Orderly.enqueue_ensures (orderly : scheduler.Orderly)
    (held : scheduler.table.get? slot = some process) (ready : process.state = .ready) :
    (scheduler.enqueue slot).Ensures (fun _ next => next.Orderly ∧ next.table = scheduler.table)
      fun _ => Orderly := by
  have bound : slot < scheduler.ready.capacity := orderly.capacity ▸ ProcessTable.get?_lt held
  by_cases waits : slot ∈ scheduler.ready.waiting
  · rw [enqueue, orderly.faithful.push_refused (Or.inr waits)]
    exact orderly
  · obtain ⟨queue, enqueued, waiting, capacity, faithful⟩ :=
      enqueue_eq scheduler slot orderly.faithful bound waits
    rw [enqueued, Outcome.ensures_done]
    refine ⟨⟨faithful, capacity.trans orderly.capacity, ?_⟩, rfl⟩
    intro other member
    rw [waiting, List.mem_append, List.mem_singleton] at member
    rcases member with before | rfl
    · exact orderly.waiting other before
    · exact ⟨process, held, ready⟩

theorem Orderly.makeWay_ensures (orderly : scheduler.Orderly) (saved : Registers) :
    (scheduler.makeWay saved).Ensures (fun _ => Orderly) fun _ => Orderly := by
  cases current : scheduler.current with
  | none =>
      simp only [makeWay, current]
      exact orderly
  | some slot =>
      cases held : scheduler.table.get? slot with
      | none =>
          rw [makeWay_empty current held]
          exact orderly
      | some process =>
          have bound := ProcessTable.get?_lt held
          -- A process that waits although it is on the processor is ready and stays so.
          have stopped : { scheduler with
              current := none
              table := scheduler.table.put slot (process.stop saved) }.Orderly := by
            refine orderly.put bound fun waits => ?_
            obtain ⟨same, sameHeld, ready⟩ := orderly.waiting slot waits
            obtain rfl := Option.some.inj (held.symm.trans sameHeld)
            simp [ControlBlock.stop, ready]
          rw [makeWay_held current held rfl]
          cases state : process.state with
          | running =>
              have entry : (scheduler.table.put slot (process.stop saved)).get? slot = _ :=
                (ProcessTable.get?_put bound slot).trans (if_pos rfl)
              exact (stopped.enqueue_ensures entry (by simp [ControlBlock.stop, state])).imp
                (fun _ _ joined => joined.1) fun _ _ kept => kept
          | _ => exact stopped

theorem Orderly.wake_ensures {slots : List Nat} (orderly : scheduler.Orderly)
    (held : ∀ slot ∈ slots, ∃ process, scheduler.table.get? slot = some process) :
    (scheduler.wake slots).Ensures (fun _ => Orderly) fun _ => Orderly := by
  induction slots generalizing scheduler with
  | nil => exact orderly
  | cons slot slots ih =>
      obtain ⟨process, slotHeld⟩ := held slot List.mem_cons_self
      let table := scheduler.table.modify slot fun process => { process with state := .ready }
      have entries : ∀ other, table.get? other = _ := ProcessTable.get?_modify scheduler.table slot _
      have woken : { scheduler with table }.Orderly := orderly.makeReady slot
      have entry : table.get? slot = some { process with state := .ready } := by
        rw [entries, slotHeld, Option.map_some, if_pos rfl]
      rw [wake, Outcome.ensures_andThen]
      refine (woken.enqueue_ensures entry rfl).imp ?_ fun _ _ kept => kept
      rintro _ queued ⟨kept, same⟩
      refine ih kept fun other later => ?_
      obtain ⟨rival, rivalHeld⟩ := held other (List.mem_cons_of_mem _ later)
      exact ⟨_, by rw [same, entries, rivalHeld, Option.map_some]⟩

theorem Orderly.runHead_ensures (orderly : scheduler.Orderly) (previous : Option Nat) :
    (scheduler.runHead previous).Ensures (fun _ => Orderly) fun _ => Orderly := by
  unfold runHead
  cases waiting : scheduler.ready.waiting with
  | nil =>
      rw [ReadyQueue.pop, waiting]
      exact orderly
  | cons slot rest =>
      have distinct := orderly.faithful.distinct
      rw [waiting, List.nodup_cons] at distinct
      obtain ⟨process, held, ready⟩ := orderly.waiting slot (waiting ▸ List.mem_cons_self)
      obtain ⟨queue, popped, queueWaiting, capacity, faithful⟩ := orderly.faithful.pop waiting
      have served : { scheduler with ready := queue }.Orderly := by
        refine ⟨faithful, capacity.trans orderly.capacity, fun other waits => ?_⟩
        refine orderly.waiting other (waiting ▸ List.mem_cons_of_mem _ ?_)
        exact queueWaiting ▸ waits
      have runs : { scheduler with
          ready := queue
          table := scheduler.table.put slot { process with state := .running } }.Orderly :=
        served.put (ProcessTable.get?_lt held) fun waits => absurd (queueWaiting ▸ waits) distinct.1
      simp only [popped, held, if_pos ready]
      rw [Outcome.ensures_andThen, Outcome.ensures_ofMachine]
      exact ⟨fun _ _ => runs, fun _ _ => runs⟩

theorem Orderly.dispatch_ensures (orderly : scheduler.Orderly) (saved : Registers) (now : Nat) :
    (scheduler.dispatch saved now).Ensures (fun _ => Orderly) fun _ => Orderly := by
  have ticked : { scheduler with lastTick := now }.Orderly := orderly
  rw [dispatch, Outcome.ensures_andThen]
  refine (ticked.makeWay_ensures saved).imp ?_ fun _ _ kept => kept
  intro _ queued madeWay
  rw [Outcome.ensures_andThen]
  refine (madeWay.wake_ensures fun slot elapses => ?_).imp ?_ fun _ _ kept => kept
  · obtain ⟨process, held, -⟩ := mem_elapsed.mp elapses
    exact ⟨process, held⟩
  · exact fun _ _ woken => woken.runHead_ensures _

/-! The operations. -/

theorem Orderly.depart (orderly : scheduler.Orderly)
    (held : scheduler.table.get? slot = some process) (running : process.state = .running)
    (departure : Departure) : (scheduler.depart slot process departure).Orderly := by
  rw [depart_frame]
  refine ⟨orderly.faithful, orderly.capacity.trans (capacity_depart ..).symm, fun other waits => ?_⟩
  obtain ⟨rival, rivalHeld, ready⟩ := orderly.waiting other waits
  have apart : other ≠ slot := by
    rintro rfl
    obtain rfl := Option.some.inj (held.symm.trans rivalHeld)
    simp [running] at ready
  refine ⟨_, by rw [get?_depart held, rivalHeld, Option.map_some], ?_⟩
  exact (departure.mark_state_other _ ⟨slot, process.pid⟩ apart rival).trans ready

theorem Orderly.sleep_ensures (orderly : scheduler.Orderly) (ms : Nat) (saved : Registers)
    (now : Nat) : (scheduler.sleep ms saved now).Ensures (fun _ => Orderly) fun _ => Orderly := by
  rw [sleep, Outcome.ensures_andThen, Outcome.ensures_ofMachine]
  refine ⟨fun delta _ => ?_, fun _ _ => orderly⟩
  rw [Outcome.ensures_andThen, Outcome.ensures_ofContract]
  refine ⟨?_, fun _ _ => orderly⟩
  rintro ⟨slot, process⟩ runs
  obtain ⟨-, held, running⟩ := running_ok runs
  dsimp only
  split
  · exact orderly
  · exact (orderly.depart held running (.sleeps (Word.satAdd now delta))).dispatch_ensures saved now

theorem Orderly.exit_ensures (orderly : scheduler.Orderly) (code : Int) (saved : Registers)
    (now : Nat) : (scheduler.exit code saved now).Ensures (fun _ => Orderly) fun _ => Orderly := by
  rw [exit, Outcome.ensures_andThen, Outcome.ensures_ofContract]
  refine ⟨?_, fun _ _ => orderly⟩
  rintro ⟨slot, process⟩ runs
  obtain ⟨-, held, running⟩ := running_ok runs
  dsimp only
  split
  · exact orderly
  · exact (orderly.depart held running (.exits code)).dispatch_ensures saved now

theorem Orderly.serve_ensures (orderly : scheduler.Orderly) (request : Request) (saved : Registers)
    (now : Nat) :
    (scheduler.serve saved now request).Ensures (fun _ => Orderly) fun _ => Orderly := by
  cases request with
  | dispatch => exact orderly.dispatch_ensures saved now
  | yieldNow => exact orderly.dispatch_ensures saved now
  | sleep ms => exact orderly.sleep_ensures ms saved now
  | exit code => exact orderly.exit_ensures code saved now

theorem Orderly.clear (orderly : scheduler.Orderly) (held : scheduler.table.get? slot = some process)
    (zombie : process.state = .zombie) :
    { scheduler with table := scheduler.table.clear slot }.Orderly := by
  refine ⟨orderly.faithful, orderly.capacity.trans (ProcessTable.capacity_clear ..).symm,
    fun other waits => ?_⟩
  obtain ⟨rival, rivalHeld, ready⟩ := orderly.waiting other waits
  refine ⟨rival, ProcessTable.get?_clear_some.mpr ⟨?_, rivalHeld⟩, ready⟩
  rintro rfl
  obtain rfl := Option.some.inj (held.symm.trans rivalHeld)
  simp [zombie] at ready

theorem Orderly.reap (orderly : scheduler.Orderly) (memory : PageAllocator) (pid : Pid) :
    (scheduler.reap memory pid).outcome.state.1.Orderly := by
  suffices ensured : (scheduler.reap memory pid).outcome.Ensures (fun _ next => next.1.Orderly)
      fun _ next => next.1.Orderly from ensured.state
  rcases scheduler.reap_ensures memory pid with ⟨slot, process, exited, -, ensured⟩ | ⟨-, ensured⟩
  · have cleared := orderly.clear exited.holds exited.zombie
    refine ensured.imp ?_ ?_
    · rintro _ _ ⟨rfl, -⟩
      exact cleared
    · rintro _ _ ⟨rfl, -⟩
      exact cleared
  · refine ensured.imp (fun _ _ impossible => impossible.elim) ?_
    rintro _ _ ⟨rfl, -⟩
    exact orderly

theorem Orderly.withFiles {α : Type} (orderly : scheduler.Orderly) (pid : Pid)
    (change : Descriptors → α × Descriptors) : (scheduler.withFiles pid change).2.Orderly := by
  obtain ⟨frame, -, capacity⟩ := withFiles_frame scheduler pid change
  rw [frame]
  refine ⟨orderly.faithful, orderly.capacity.trans capacity.symm, fun other waits => ?_⟩
  obtain ⟨rival, held, ready⟩ := orderly.waiting other waits
  have entry := get?_withFiles scheduler pid change other
  rw [held, Option.map_some] at entry
  exact ⟨_, entry, ready⟩

end MiniKernel.Scheduler
