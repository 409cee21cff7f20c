import MiniKernel.Proofs.Process.Lifecycle
import MiniKernel.Proofs.Process.Numbered
import MiniKernel.Proofs.Schedule.Departure

/-! The shape of a scheduler between two operations. A departure breaks it for a moment, and the
dispatch that follows restores it. -/

namespace MiniKernel.Scheduler

variable {scheduler next : Scheduler} {slot : Nat} {process : ControlBlock}

/-- The shape that also holds while the process on the processor is about to leave it. The idle
process always wants to run, so a dispatch finds somebody. -/
structure Coherent (scheduler : Scheduler) (slot : Nat) (process : ControlBlock) : Prop where
  lined : scheduler.Lined
  occupied : scheduler.Occupied slot process
  alive : ∀ other rival, scheduler.table.get? other = some rival → rival.state ≠ .dead
  idleSlot : scheduler.idleSlot = 0
  idle : ∃ idle, scheduler.table.get? 0 = some idle ∧ idle.pid = idlePid ∧
    (idle.state = .ready ∨ idle.state = .running)
  numbered : scheduler.table.Numbered
  quantum : scheduler.config.quantum ≠ 0
  stackSizes : scheduler.table.kernelStackPages = scheduler.config.kernelStackPages ∧
    scheduler.table.userStackPages = scheduler.config.userStackPages

/-- The processor belongs to a running process, and all else is in order. -/
def WellFormed (scheduler : Scheduler) : Prop :=
  ∃ slot process, scheduler.Coherent slot process ∧ process.state = .running

theorem WellFormed.orderly (wellFormed : scheduler.WellFormed) : scheduler.Orderly := by
  obtain ⟨slot, process, coherent, -⟩ := wellFormed
  exact coherent.lined.orderly

/-- The idle process is among those who stand ahead of the ones that wake. -/
theorem Coherent.ahead_ne_nil (coherent : scheduler.Coherent slot process) :
    scheduler.ready.waiting ++ scheduler.returning ≠ [] := by
  obtain ⟨idle, held, -, state⟩ := coherent.idle
  rcases state with ready | running
  · exact List.ne_nil_of_mem
      (List.mem_append_left _ ((coherent.lined.waiting 0).mpr ⟨idle, held, ready⟩))
  · obtain rfl := coherent.occupied.alone 0 idle held running
    obtain rfl := Option.some.inj (held.symm.trans coherent.occupied.holds)
    rw [coherent.occupied.returning_eq, if_pos running]
    simp

theorem Coherent.line_ne_nil (coherent : scheduler.Coherent slot process) (now : Nat) :
    scheduler.line now ≠ [] :=
  fun empty => coherent.ahead_ne_nil (List.append_eq_nil_iff.mp empty).1

theorem turn_state (scheduler : Scheduler) (saved : Registers) (now chosen other : Nat)
    (rival : ControlBlock) :
    (scheduler.turn saved now chosen other rival).state =
      if other = chosen then .running else (scheduler.settle saved now other rival).state := by
  unfold turn
  split <;> rfl

theorem settle_fixed (scheduler : Scheduler) (saved : Registers) (now slot : Nat)
    (process : ControlBlock) : (scheduler.settle saved now slot process).fixed = process.fixed := by
  rw [settle_eq]
  rfl

theorem turn_fixed (scheduler : Scheduler) (saved : Registers) (now chosen other : Nat)
    (rival : ControlBlock) :
    (scheduler.turn saved now chosen other rival).fixed = rival.fixed := by
  rw [← settle_fixed scheduler saved now other rival, turn]
  split <;> rfl

theorem turn_pid (scheduler : Scheduler) (saved : Registers) (now chosen other : Nat)
    (rival : ControlBlock) : (scheduler.turn saved now chosen other rival).pid = rival.pid :=
  (ControlBlock.fixed_inj.mp (turn_fixed scheduler saved now chosen other rival)).1

theorem turn_dead {saved : Registers} {now chosen other : Nat} {rival : ControlBlock}
    (dead : (scheduler.turn saved now chosen other rival).state = .dead) : rival.state = .dead := by
  rw [turn_state, settle_eq] at dead
  split at dead
  · cases dead
  · split at dead
    · cases dead
    · split at dead
      · cases dead
      · exact dead

theorem turn_eager (saved : Registers) (now chosen other : Nat) {rival : ControlBlock}
    (state : rival.state = .ready ∨ rival.state = .running) :
    (scheduler.turn saved now chosen other rival).state = .ready ∨
      (scheduler.turn saved now chosen other rival).state = .running := by
  rw [turn_state, settle_eq]
  split
  · exact Or.inr rfl
  · split
    · exact Or.inl rfl
    · split
      · exact Or.inl rfl
      · exact state

section

variable {saved : Registers} {now chosen : Nat} {registers : Registers}

theorem Coherent.dispatched_lined (coherent : scheduler.Coherent slot process)
    (dispatched : scheduler.Dispatched saved now chosen registers next) : next.Lined := by
  have distinct := nodup_line coherent.lined coherent.occupied now
  have inLine := mem_line coherent.lined coherent.occupied saved now
  rw [dispatched.line] at distinct inLine
  have fresh := (List.nodup_cons.mp distinct).1
  refine ⟨dispatched.faithful, ?_, ?_⟩
  · rw [dispatched.capacity, dispatched.slots, coherent.lined.capacity]
  · intro other
    constructor
    · intro waits
      obtain ⟨waiting, waitingHeld, ready⟩ := (inLine other).mp (List.mem_cons_of_mem _ waits)
      have notChosen : other ≠ chosen := fun same => fresh (same ▸ waits)
      refine ⟨_, by rw [dispatched.entries, waitingHeld, Option.map_some], ?_⟩
      rw [turn_state, if_neg notChosen, ready]
    · rintro ⟨after, afterHeld, ready⟩
      rw [dispatched.entries] at afterHeld
      obtain ⟨waiting, waitingHeld, rfl⟩ := Option.map_eq_some_iff.mp afterHeld
      rw [turn_state] at ready
      split at ready
      · cases ready
      · rename_i notChosen
        have waits := (inLine other).mpr ⟨waiting, waitingHeld, ready⟩
        exact (List.mem_cons.mp waits).resolve_left notChosen

theorem Coherent.dispatched_alone (coherent : scheduler.Coherent slot process)
    (dispatched : scheduler.Dispatched saved now chosen registers next) {other : Nat}
    {after : ControlBlock} (held : next.table.get? other = some after)
    (running : after.state = .running) : other = chosen := by
  rw [dispatched.entries] at held
  obtain ⟨before, beforeHeld, rfl⟩ := Option.map_eq_some_iff.mp held
  rw [turn_state] at running
  by_contra notChosen
  rw [if_neg notChosen, settle_eq] at running
  split at running
  · cases running
  · rename_i stays
    split at running
    · cases running
    · -- Only the process on the processor could still be running, and it has made way.
      obtain rfl := coherent.occupied.alone other before beforeHeld running
      exact stays ⟨running, coherent.occupied.current⟩

theorem Coherent.dispatched (coherent : scheduler.Coherent slot process)
    (dispatched : scheduler.Dispatched saved now chosen registers next) : next.WellFormed := by
  have entries := dispatched.entries
  have inLine := mem_line coherent.lined coherent.occupied saved now chosen
  rw [dispatched.line] at inLine
  obtain ⟨rival, held, -⟩ := inLine.mp List.mem_cons_self
  have chosenHeld := entries chosen
  rw [held, Option.map_some] at chosenHeld
  have runs : (scheduler.turn saved now chosen chosen rival).state = .running := by
    rw [turn_state, if_pos rfl]
  have occupied : next.Occupied chosen (scheduler.turn saved now chosen chosen rival) :=
    ⟨dispatched.current, chosenHeld, Or.inl runs, fun other after afterHeld running =>
      coherent.dispatched_alone dispatched afterHeld running⟩
  refine ⟨chosen, _, ⟨coherent.dispatched_lined dispatched, occupied, ?_, ?_, ?_, ?_, ?_, ?_⟩, runs⟩
  · intro other after afterHeld dead
    rw [entries] at afterHeld
    obtain ⟨before, beforeHeld, rfl⟩ := Option.map_eq_some_iff.mp afterHeld
    exact coherent.alive other before beforeHeld (turn_dead dead)
  · rw [dispatched.idleSlot, coherent.idleSlot]
  · obtain ⟨idle, idleHeld, pid, state⟩ := coherent.idle
    refine ⟨_, by rw [entries, idleHeld, Option.map_some], ?_, turn_eager saved now chosen 0 state⟩
    rw [turn_pid, pid]
  · refine coherent.numbered.congr ?_ ?_
    · intro other
      rw [entries, Option.map_map]
      congr 1
      funext before
      exact turn_pid ..
    · rw [dispatched.table]
  · rw [dispatched.config]
    exact coherent.quantum
  · rw [dispatched.table, dispatched.config]
    exact coherent.stackSizes

end

theorem Coherent.chosen (coherent : scheduler.Coherent slot process) {saved : Registers}
    {now chosen : Nat} {registers : Registers}
    (dispatched : scheduler.Dispatched saved now chosen registers next) :
    ∃ rival, scheduler.table.get? chosen = some rival ∧
      (scheduler.settle saved now chosen rival).state = .ready ∧
      (scheduler.settle saved now chosen rival).context = registers ∧
      next.currentPid = (scheduler.settle saved now chosen rival).pid := by
  obtain ⟨rival, held, ready⟩ := (mem_line coherent.lined coherent.occupied saved now chosen).mp
    (dispatched.line ▸ List.mem_cons_self)
  have entry : next.table.get? chosen = some (scheduler.turn saved now chosen chosen rival) := by
    rw [dispatched.entries, held, Option.map_some]
  refine ⟨rival, held, ready, ?_, ?_⟩
  · obtain ⟨after, afterHeld, context⟩ := dispatched.registers
    obtain rfl := Option.some.inj (entry.symm.trans afterHeld)
    rw [← context, turn, if_pos rfl]
  · simp [currentPid, currentProcess?, dispatched.current, entry, turn]

section

variable {table : ProcessTable}

/-- Only the process on the processor may change its state, and it may not start to wait. -/
theorem Lined.retable (lined : scheduler.Lined) (occupied : scheduler.Occupied slot process)
    {change : Nat → ControlBlock → ControlBlock}
    (capacity : table.capacity = scheduler.table.capacity)
    (entries : ∀ other, table.get? other = (scheduler.table.get? other).map (change other))
    (states : ∀ other rival, other ≠ slot → (change other rival).state = rival.state)
    (departs : (change slot process).state ≠ .ready) : { scheduler with table }.Lined := by
  refine ⟨lined.faithful, lined.capacity.trans capacity.symm, ?_⟩
  intro other
  refine (lined.waiting other).trans ?_
  constructor
  · rintro ⟨rival, held, ready⟩
    refine ⟨change other rival, by rw [entries, held, Option.map_some], ?_⟩
    have away : other ≠ slot := by
      rintro rfl
      exact occupied.absent lined ((lined.waiting other).mpr ⟨rival, held, ready⟩)
    exact (states other rival away).trans ready
  · rintro ⟨after, held, ready⟩
    rw [entries] at held
    obtain ⟨rival, rivalHeld, rfl⟩ := Option.map_eq_some_iff.mp held
    refine ⟨rival, rivalHeld, ?_⟩
    have away : other ≠ slot := by
      rintro rfl
      obtain rfl := Option.some.inj (occupied.holds.symm.trans rivalHeld)
      exact departs ready
    exact (states other rival away).symm.trans ready

theorem Occupied.retable (occupied : scheduler.Occupied slot process)
    {change : Nat → ControlBlock → ControlBlock}
    (entries : ∀ other, table.get? other = (scheduler.table.get? other).map (change other))
    (states : ∀ other rival, other ≠ slot → (change other rival).state = rival.state)
    (departs : (change slot process).state = .running ∨ (change slot process).state = .sleeping ∨
      (change slot process).state = .zombie) :
    { scheduler with table }.Occupied slot (change slot process) := by
  refine ⟨occupied.current, by rw [entries, occupied.holds, Option.map_some], departs, ?_⟩
  intro other after held running
  by_contra away
  rw [entries] at held
  obtain ⟨rival, rivalHeld, rfl⟩ := Option.map_eq_some_iff.mp held
  exact away (occupied.alone other rival rivalHeld ((states other rival away).symm.trans running))

theorem Coherent.retable (coherent : scheduler.Coherent slot process)
    (frame : table = { scheduler.table with slots := table.slots })
    (capacity : table.capacity = scheduler.table.capacity)
    (change : Nat → ControlBlock → ControlBlock)
    (entries : ∀ other, table.get? other = (scheduler.table.get? other).map (change other))
    (pids : ∀ other rival, (change other rival).pid = rival.pid)
    (states : ∀ other rival, other ≠ slot → (change other rival).state = rival.state)
    (departs : (change slot process).state = .running ∨ (change slot process).state = .sleeping ∨
      (change slot process).state = .zombie)
    (stays : slot = 0 → (change slot process).state = process.state) :
    { scheduler with table }.Coherent slot (change slot process) := by
  have notReady : (change slot process).state ≠ .ready := by
    rcases departs with state | state | state <;> simp [state]
  constructor
  · exact coherent.lined.retable coherent.occupied capacity entries states notReady
  · exact coherent.occupied.retable entries states departs
  · intro other after held dead
    rw [entries] at held
    obtain ⟨rival, rivalHeld, rfl⟩ := Option.map_eq_some_iff.mp held
    by_cases own : other = slot
    · subst other
      obtain rfl := Option.some.inj (coherent.occupied.holds.symm.trans rivalHeld)
      rcases departs with state | state | state <;> simp [state] at dead
    · exact coherent.alive other rival rivalHeld ((states other rival own).symm.trans dead)
  · exact coherent.idleSlot
  · obtain ⟨idle, held, pid, state⟩ := coherent.idle
    refine ⟨change 0 idle, by rw [entries, held, Option.map_some], (pids 0 idle).trans pid, ?_⟩
    have same : (change 0 idle).state = idle.state := by
      by_cases own : 0 = slot
      · subst slot
        obtain rfl := Option.some.inj (held.symm.trans coherent.occupied.holds)
        exact stays rfl
      · exact states 0 idle own
    rwa [same]
  · refine coherent.numbered.congr ?_ ?_
    · intro other
      rw [entries, Option.map_map]
      congr 1
      funext rival
      exact pids other rival
    · rw [frame]
  · exact coherent.quantum
  · rw [frame]
    exact coherent.stackSizes

end

theorem Coherent.depart (coherent : scheduler.Coherent slot process)
    (running : process.state = .running) {departure : Departure}
    (leaves : departure = .yields ∨ slot ≠ 0) :
    (scheduler.depart slot process departure).Coherent slot
      (departure.mark ⟨scheduler.idleSlot, idlePid⟩ ⟨slot, process.pid⟩ slot process) := by
  have own := departure.mark_state_self ⟨scheduler.idleSlot, idlePid⟩ ⟨slot, process.pid⟩ running
  rw [depart_frame]
  refine coherent.retable (table_depart ..) (capacity_depart ..)
    (departure.mark ⟨scheduler.idleSlot, idlePid⟩ ⟨slot, process.pid⟩)
    (get?_depart coherent.occupied.holds departure) ?_ ?_ ?_ ?_
  · intro other rival
    rw [Departure.mark_frame]
  · intro other rival away
    exact departure.mark_state_other _ _ away rival
  · rw [own]
    cases departure <;> simp [Departure.state]
  · -- The idle process wants to run again, for it may do nothing but yield.
    rintro rfl
    obtain rfl := leaves.resolve_right (fun away => away rfl)
    rfl

theorem Coherent.pid_ne_idle (coherent : scheduler.Coherent slot process) {other : Nat}
    {rival : ControlBlock} (held : scheduler.table.get? other = some rival)
    (zombie : rival.state = .zombie) : rival.pid ≠ idlePid := by
  intro same
  obtain ⟨idle, idleHeld, pid, state⟩ := coherent.idle
  obtain rfl := coherent.numbered.distinct other 0 rival idle held idleHeld (same.trans pid.symm)
  obtain rfl := Option.some.inj (held.symm.trans idleHeld)
  rw [zombie] at state
  rcases state with state | state <;> cases state

theorem Coherent.currentPid_eq (coherent : scheduler.Coherent slot process) :
    scheduler.currentPid = process.pid := by
  simp [currentPid, currentProcess?, coherent.occupied.current, coherent.occupied.holds]

theorem Coherent.lookup_eq (coherent : scheduler.Coherent slot process) {other : Nat}
    {rival : ControlBlock} (held : scheduler.table.get? other = some rival) :
    scheduler.table.lookup rival.pid = some other ∧
      scheduler.lookup rival.pid = some (scheduler.table.snapshotOf rival) := by
  have found := (coherent.numbered.lookup_iff rival.pid).mpr ⟨rival, held, rfl⟩
  exact ⟨found, by simp [lookup, found, ProcessTable.snapshot?, held]⟩

theorem Coherent.currentPid_eq_iff (coherent : scheduler.Coherent slot process) {other : Nat}
    {rival : ControlBlock} (held : scheduler.table.get? other = some rival) :
    scheduler.currentPid = rival.pid ↔ scheduler.current = some other := by
  rw [coherent.currentPid_eq, coherent.occupied.current, Option.some.injEq]
  constructor
  · exact coherent.numbered.distinct slot other process rival coherent.occupied.holds held
  · rintro rfl
    rw [Option.some.inj (held.symm.trans coherent.occupied.holds)]

theorem mem_processes {info : Snapshot} : info ∈ scheduler.processes ↔
    ∃ slot process, scheduler.table.get? slot = some process ∧
      scheduler.table.snapshotOf process = info := by
  simp only [processes, List.mem_map, Prod.exists, ProcessTable.mem_processes]

theorem processes_eq_range (scheduler : Scheduler) :
    scheduler.processes =
      (List.range scheduler.table.capacity).filterMap scheduler.table.snapshot? := by
  rw [processes, ProcessTable.processes_eq_range, List.map_filterMap]
  simp only [Option.map_map]
  rfl

theorem WellFormed.nodup_pids (wellFormed : scheduler.WellFormed) :
    (scheduler.processes.map Snapshot.pid).Nodup := by
  obtain ⟨current, runner, coherent, -⟩ := wellFormed
  rw [List.nodup_iff_pairwise_ne, processes, List.map_map, List.pairwise_map]
  refine (ProcessTable.processes_pairwise scheduler.table).imp_of_mem ?_
  rintro ⟨left, process⟩ ⟨right, rival⟩ leftListed rightListed before same
  exact Nat.ne_of_lt before (coherent.numbered.distinct left right process rival
    (ProcessTable.mem_processes.mp leftListed) (ProcessTable.mem_processes.mp rightListed) same)

theorem lookup_some {pid : Pid} {info : Snapshot} (found : scheduler.lookup pid = some info) :
    ∃ slot process, scheduler.table.lookup pid = some slot ∧
      scheduler.table.get? slot = some process ∧ process.pid = pid ∧
      scheduler.table.snapshotOf process = info := by
  obtain ⟨slot, hit, shown⟩ := Option.bind_eq_some_iff.mp found
  obtain ⟨⟨process, held, named⟩, -⟩ := ProcessTable.lookup_some hit
  rw [ProcessTable.snapshot?, held, Option.map_some, Option.some.injEq] at shown
  exact ⟨slot, process, hit, held, named, shown⟩

theorem lookup_eq_none {pid : Pid} : scheduler.lookup pid = none ↔
    ∀ slot process, scheduler.table.get? slot = some process → process.pid ≠ pid := by
  rw [← ProcessTable.lookup_none_iff]
  cases found : scheduler.table.lookup pid with
  | none => simp [lookup, found]
  | some slot =>
      obtain ⟨⟨process, held, -⟩, -⟩ := ProcessTable.lookup_some found
      simp [lookup, found, ProcessTable.snapshot?, held]

theorem WellFormed.lookup_iff (wellFormed : scheduler.WellFormed) (pid : Pid) (info : Snapshot) :
    scheduler.lookup pid = some info ↔ info ∈ scheduler.processes ∧ info.pid = pid := by
  obtain ⟨current, runner, coherent, -⟩ := wellFormed
  constructor
  · intro found
    obtain ⟨slot, process, -, held, rfl, rfl⟩ := lookup_some found
    exact ⟨mem_processes.mpr ⟨slot, process, held, rfl⟩, rfl⟩
  · rintro ⟨listed, rfl⟩
    obtain ⟨slot, process, held, rfl⟩ := mem_processes.mp listed
    exact (coherent.lookup_eq held).2

theorem WellFormed.info_unique (wellFormed : scheduler.WellFormed) {info other : Snapshot}
    (listed : info ∈ scheduler.processes) (otherListed : other ∈ scheduler.processes)
    (same : info.pid = other.pid) : info = other := by
  have found := (wellFormed.lookup_iff other.pid info).mpr ⟨listed, same⟩
  have otherFound := (wellFormed.lookup_iff other.pid other).mpr ⟨otherListed, rfl⟩
  exact Option.some.inj (found.symm.trans otherFound)

theorem Coherent.settled_context (coherent : scheduler.Coherent slot process)
    (running : process.state = .running) (departure : Departure) (saved : Registers) (now : Nat)
    {other : Nat} {rival settled : ControlBlock} (held : scheduler.table.get? other = some rival)
    (eq : settled = (scheduler.depart slot process departure).settle saved now other
      (departure.mark ⟨scheduler.idleSlot, idlePid⟩ ⟨slot, process.pid⟩ other rival))
    (waits : settled.state = .ready ∨ settled.state = .sleeping) :
    other = slot ∧ settled.context = saved ∨
      other ≠ slot ∧ settled.context = rival.context ∧
        (rival.state = .ready ∨ rival.state = .sleeping) := by
  have current : (scheduler.depart slot process departure).current = some slot := by
    rw [depart_frame]
    exact coherent.occupied.current
  rw [settle_eq, current] at eq
  subst eq
  by_cases own : other = slot
  · subst other
    obtain rfl := Option.some.inj (coherent.occupied.holds.symm.trans held)
    have state := departure.mark_state_self ⟨scheduler.idleSlot, idlePid⟩ ⟨slot, process.pid⟩ running
    refine Or.inl ⟨rfl, ?_⟩
    cases departure <;> simp_all [Departure.state]
  · have elsewhere : some slot ≠ some other := fun same => own (Option.some.inj same).symm
    have state := departure.mark_state_other ⟨scheduler.idleSlot, idlePid⟩ ⟨slot, process.pid⟩ own rival
    refine Or.inr ⟨own, ?_, ?_⟩
    · dsimp only
      rw [if_neg (fun outgoing => elsewhere outgoing.1), Departure.mark_frame]
    · dsimp only at waits
      rw [if_neg (fun outgoing => elsewhere outgoing.2), state] at waits
      split at waits
      · rename_i asleep
        exact Or.inr asleep.1
      · exact waits

def Switched (before : Scheduler) (departure : Departure) (saved : Registers) (now : Nat)
    (registers : Registers) (after : Scheduler) : Prop :=
  ∃ slot process chosen, before.Coherent slot process ∧ process.state = .running ∧
    (departure = .yields ∨ slot ≠ 0) ∧
    (before.depart slot process departure).Dispatched saved now chosen registers after

theorem Switched.wellFormed {departure : Departure} {saved registers : Registers} {now : Nat}
    (switched : scheduler.Switched departure saved now registers next) : next.WellFormed := by
  obtain ⟨slot, process, chosen, coherent, running, leaves, dispatched⟩ := switched
  exact (coherent.depart running leaves).dispatched dispatched

theorem Switched.fixed {departure : Departure} {saved registers : Registers} {now : Nat}
    (switched : scheduler.Switched departure saved now registers next) (other : Nat) :
    (next.table.get? other).map ControlBlock.fixed =
      (scheduler.table.get? other).map ControlBlock.fixed := by
  obtain ⟨slot, process, chosen, coherent, -, -, dispatched⟩ := switched
  rw [dispatched.entries, get?_depart coherent.occupied.holds, Option.map_map, Option.map_map]
  congr 1
  funext rival
  exact (turn_fixed ..).trans (Departure.mark_fixed ..)

theorem Switched.table {departure : Departure} {saved registers : Registers} {now : Nat}
    (switched : scheduler.Switched departure saved now registers next) :
    next.table = { scheduler.table with slots := next.table.slots } := by
  obtain ⟨slot, process, chosen, -, -, -, dispatched⟩ := switched
  rw [dispatched.table, table_depart]

theorem Switched.config {departure : Departure} {saved registers : Registers} {now : Nat}
    (switched : scheduler.Switched departure saved now registers next) :
    next.config = scheduler.config := by
  obtain ⟨slot, process, chosen, -, -, -, dispatched⟩ := switched
  rw [dispatched.config, depart_frame]

theorem Coherent.switch_ensures (coherent : scheduler.Coherent slot process)
    (running : process.state = .running) {departure : Departure}
    (leaves : departure = .yields ∨ slot ≠ 0) (saved : Registers) (now : Nat) :
    ((scheduler.depart slot process departure).dispatch saved now).Ensures
      (scheduler.Switched departure saved now) scheduler.Overflowed := by
  have departed := coherent.depart running leaves
  refine (Scheduler.dispatch_ensures departed.lined departed.occupied saved now
    (departed.line_ne_nil now)).imp ?_ ?_
  · rintro registers next ⟨chosen, dispatched⟩
    exact ⟨slot, process, chosen, coherent, running, leaves, dispatched⟩
  · rintro failure next ⟨trapped, full, stalled⟩
    rw [depart_frame] at full
    exact ⟨trapped, full, stalled⟩

/-! Every operation keeps a scheduler in shape. -/

theorem WellFormed.dispatch_ensures (wellFormed : scheduler.WellFormed) (saved : Registers) (now : Nat) :
    (scheduler.dispatch saved now).Ensures (scheduler.Switched .yields saved now)
      scheduler.Overflowed := by
  obtain ⟨slot, process, coherent, running⟩ := wellFormed
  exact coherent.switch_ensures running (Or.inl rfl) saved now

theorem WellFormed.sleep_ensures (wellFormed : scheduler.WellFormed) (ms : Nat) (saved : Registers)
    (now : Nat) :
    (scheduler.sleep ms saved now).Ensures
      (scheduler.Switched (.sleeps (Word.satAdd now (scheduler.config.ticksFor ms))) saved now)
      fun failure next => scheduler.Overflowed failure next ∨
        failure = .fatal .idleSleeps ∧ scheduler.current = some 0 ∧ next = scheduler := by
  obtain ⟨slot, process, coherent, running⟩ := wellFormed
  by_cases idle : slot = 0
  · rw [sleep_idle coherent.occupied.current coherent.occupied.holds running coherent.quantum
      (idle.trans coherent.idleSlot.symm)]
    exact Or.inr ⟨rfl, idle ▸ coherent.occupied.current, rfl⟩
  · rw [sleep_eq coherent.occupied.current coherent.occupied.holds running coherent.quantum
      (by rwa [coherent.idleSlot]), Outcome.ensures_after]
    exact (coherent.switch_ensures running (Or.inr idle) saved now).imp
      (fun _ _ switched => switched) fun _ _ full => Or.inl full

theorem WellFormed.exit_ensures (wellFormed : scheduler.WellFormed) (code : Int) (saved : Registers)
    (now : Nat) :
    (scheduler.exit code saved now).Ensures (scheduler.Switched (.exits code) saved now)
      fun failure next => scheduler.Overflowed failure next ∨
        failure = .fatal .idleExits ∧ scheduler.current = some 0 ∧ next = scheduler := by
  obtain ⟨slot, process, coherent, running⟩ := wellFormed
  by_cases idle : slot = 0
  · rw [exit_idle coherent.occupied.current coherent.occupied.holds running
      (idle.trans coherent.idleSlot.symm)]
    exact Or.inr ⟨rfl, idle ▸ coherent.occupied.current, rfl⟩
  · rw [exit_eq coherent.occupied.current coherent.occupied.holds running
      (by rwa [coherent.idleSlot]), Outcome.ensures_after]
    exact (coherent.switch_ensures running (Or.inr idle) saved now).imp
      (fun _ _ switched => switched) fun _ _ full => Or.inl full

/-! The start. -/

def initial (config : Config) : Scheduler :=
  { config, table := (ProcessTable.empty config).put 0 .idle, ready := .empty config.capacity
    idleSlot := 0, current := some 0, lastTick := 0, switches := 0 }

theorem validate_ok {config : Config} (valid : config.validate = .ok ()) :
    config.capacity ≠ 0 ∧ config.quantum ≠ 0 ∧ 1000 % config.quantum = 0 ∧
      config.kernelStackPages ≠ 0 := by
  unfold Config.validate at valid
  split at valid
  · cases valid
  · split at valid
    · cases valid
    · split at valid
      · cases valid
      · exact ⟨‹_›, by omega, by omega, ‹_›⟩

theorem registerIdle_empty {config : Config} (capacity : config.capacity ≠ 0) :
    (ProcessTable.empty config).registerIdle = .done ((ProcessTable.empty config).put 0 .idle) 0 := by
  have populated : (ProcessTable.empty config).slots.all Option.isNone = true := by
    simp [ProcessTable.empty]
  have room : (ProcessTable.empty config).capacity ≠ 0 := by
    simpa [ProcessTable.empty, ProcessTable.capacity] using capacity
  rw [ProcessTable.registerIdle, if_pos populated, if_neg room]

theorem start_ensures (config : Config) :
    (start config).Ensures
      (fun scheduler _ => config.validate = .ok () ∧ scheduler = initial config) fun _ _ => True := by
  rw [start, Outcome.ensures_andThen, Outcome.ensures_ofContract]
  refine ⟨fun _ valid => ?_, fun _ _ => trivial⟩
  obtain ⟨capacity, quantum, -, -⟩ := validate_ok valid
  rw [Outcome.ensures_andThen, Outcome.ensures_ofMachine]
  refine ⟨fun table allotted => ?_, fun _ _ => trivial⟩
  obtain rfl : ProcessTable.empty config = table := by
    unfold ProcessTable.ofConfig at allotted
    cases found : Word.buffer config.capacity ProcessTable.entryBytes <;> rw [found] at allotted <;>
      cases allotted
    rfl
  simp only [registerIdle_empty capacity, Outcome.within_done, Outcome.done_andThen,
    Config.tickRate_ok quantum, Outcome.ofMachine, Outcome.ensures_after, Outcome.ensures_map]
  change (Outcome.ofMachine () _).Ensures _ _
  rw [Outcome.ensures_ofMachine]
  refine ⟨fun ready allotted => ⟨valid, ?_⟩, fun _ _ => trivial⟩
  obtain rfl : ReadyQueue.empty config.capacity = ready := by
    rw [ReadyQueue.create, if_neg capacity] at allotted
    cases found : Word.buffer config.capacity ReadyQueue.entryBytes <;> rw [found] at allotted <;>
      cases allotted
    rfl
  rfl

theorem get?_initial {config : Config} (capacity : config.capacity ≠ 0) {slot : Nat}
    {process : ControlBlock} :
    (initial config).table.get? slot = some process ↔ slot = 0 ∧ process = .idle := by
  have bound : 0 < (ProcessTable.empty config).capacity := by
    simpa [ProcessTable.empty, ProcessTable.capacity] using Nat.pos_of_ne_zero capacity
  rw [initial, ProcessTable.get?_put bound, ProcessTable.get?_empty]
  by_cases first : slot = 0
  · simp [first, eq_comm]
  · simp [first]

theorem wellFormed_initial {config : Config} (valid : config.validate = .ok ()) :
    (initial config).WellFormed := by
  obtain ⟨capacity, quantum, -, -⟩ := validate_ok valid
  have only : ∀ {slot process}, (initial config).table.get? slot = some process →
      slot = 0 ∧ process = .idle := (get?_initial capacity).mp
  have idle : (initial config).table.get? 0 = some .idle := (get?_initial capacity).mpr ⟨rfl, rfl⟩
  refine ⟨0, .idle, ⟨⟨ReadyQueue.faithful_empty _, ?_, ?_⟩, ⟨rfl, idle, Or.inl rfl, ?_⟩, ?_, rfl,
    ⟨.idle, idle, rfl, Or.inr rfl⟩, ⟨?_, ?_⟩, quantum, rfl, rfl⟩, rfl⟩
  · simp [initial, ProcessTable.empty, ProcessTable.capacity, ProcessTable.put]
  · intro slot
    constructor
    · intro waits
      cases waits
    · rintro ⟨process, held, ready⟩
      obtain ⟨-, rfl⟩ := only held
      cases ready
  · intro other rival held _
    exact (only held).1
  · intro other rival held dead
    obtain ⟨-, rfl⟩ := only held
    cases dead
  · intro left right leftProcess rightProcess leftHeld rightHeld _
    rw [(only leftHeld).1, (only rightHeld).1]
  · intro slot process held
    obtain ⟨-, rfl⟩ := only held
    exact Nat.zero_lt_one

end MiniKernel.Scheduler
