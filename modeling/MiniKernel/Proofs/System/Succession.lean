import MiniKernel.Proofs.System.History

/-! The scheduler after a switch, computed at one stroke from the scheduler before it. It names neither the
steps of a dispatch nor the states between them, and every field that it does not name stays. -/

namespace MiniKernel

def ReadyQueue.holding (capacity : Nat) (waiting : List Nat) : ReadyQueue :=
  ⟨waiting, Array.ofFn fun slot : Fin capacity => decide (slot.val ∈ waiting)⟩

theorem ReadyQueue.Faithful.eq_holding {queue : ReadyQueue} (faithful : queue.Faithful) :
    queue = .holding queue.capacity queue.waiting := by
  have queued : queue.queued =
      Array.ofFn fun slot : Fin queue.capacity => decide (slot.val ∈ queue.waiting) := by
    apply Array.ext
    · simp [ReadyQueue.capacity]
    · intro slot bound _
      have flag : queue.contains slot = queue.queued[slot] := by simp [contains, bound]
      rw [← flag, Bool.eq_iff_iff, faithful.flagged]
      simp
  rw [holding, ← queued]

namespace ProcessTable

def mapEach (table : ProcessTable) (change : Nat → ControlBlock → ControlBlock) : ProcessTable :=
  { table with slots := table.slots.mapIdx fun slot entry => entry.map (change slot) }

@[simp]
theorem capacity_mapEach (table : ProcessTable) (change : Nat → ControlBlock → ControlBlock) :
    (table.mapEach change).capacity = table.capacity := List.length_mapIdx

theorem get?_mapEach (table : ProcessTable) (change : Nat → ControlBlock → ControlBlock) (slot : Nat) :
    (table.mapEach change).get? slot = (table.get? slot).map (change slot) := by
  simp only [get?, mapEach, List.getElem?_mapIdx]
  rcases table.slots[slot]? with _ | _ | process <;> rfl

theorem eq_mapEach {table next : ProcessTable} {change : Nat → ControlBlock → ControlBlock}
    (frame : next = { table with slots := next.slots }) (capacity : next.capacity = table.capacity)
    (entries : ∀ slot, next.get? slot = (table.get? slot).map (change slot)) :
    next = table.mapEach change := by
  refine ext_get? frame (capacity.trans (capacity_mapEach ..).symm) fun slot => ?_
  rw [entries, get?_mapEach]

def wakers (table : ProcessTable) (now : Nat) : List Nat :=
  let due := table.processes.filter fun (_, process) =>
    process.state = .sleeping ∧ process.wakeTick ≤ now
  let sorted := due.mergeSort fun (slot, process) (other, rival) =>
    process.wakeTick < rival.wakeTick ∨ process.wakeTick = rival.wakeTick ∧ slot ≤ other
  sorted.map Prod.fst

end ProcessTable

namespace Scheduler

variable {before next : Scheduler} {departure : Departure} {saved registers : Registers} {now : Nat}

/-- What the process that runs hands over when it departs: the registers of the next one, and the
scheduler in which that one runs. There is none only if nobody runs or nobody is in line. -/
def handOver (before : Scheduler) (departure : Departure) (saved : Registers) (now : Nat) :
    Option (Registers × Scheduler) :=
  before.currentProcess?.bind fun (slot, process) =>
    let mark := departure.mark ⟨before.idleSlot, idlePid⟩ ⟨slot, process.pid⟩
    let returning := if departure = .yields then [slot] else []
    match before.ready.waiting ++ returning ++ (before.table.mapEach mark).wakers now with
    | [] => none
    | chosen :: waiting =>
        let table := before.table.mapEach fun other rival =>
          { mark other rival with
            context := if other = slot ∧ departure.state ≠ .zombie then saved else rival.context
            state :=
              if other = chosen then .running
              else if other ∈ waiting then .ready
              else (mark other rival).state }
        (table.get? chosen).map fun runner => (runner.context,
          { before with
            table
            ready := .holding before.table.capacity waiting
            current := some chosen
            lastTick := now
            switches := if slot = chosen then before.switches else before.switches + 1 })

/-! The sleepers are sorted by insertion, and any other sort gives the same list. -/

theorem wakesNoLater_iff {left right : Nat × Nat} : wakesNoLater left right = true ↔
    left.1 < right.1 ∨ left.1 = right.1 ∧ left.2 ≤ right.2 := by
  simp [wakesNoLater]

theorem wakesNoLater_trans {left middle right : Nat × Nat} (first : wakesNoLater left middle = true)
    (second : wakesNoLater middle right = true) : wakesNoLater left right = true := by
  rw [wakesNoLater_iff] at *
  omega

theorem wakesNoLater_total (left right : Nat × Nat) :
    (wakesNoLater left right || wakesNoLater right left) = true := by
  rw [Bool.or_eq_true, wakesNoLater_iff, wakesNoLater_iff]
  omega

theorem wakesNoLater_antisymm {left right : Nat × Nat} (first : wakesNoLater left right = true)
    (second : wakesNoLater right left = true) : left = right := by
  rw [wakesNoLater_iff] at *
  exact Prod.ext (by omega) (by omega)

theorem sorted_insertSleeper {sleeper : Nat × Nat} {sleepers : List (Nat × Nat)}
    (sorted : sleepers.Pairwise fun left right => wakesNoLater left right = true) :
    (insertSleeper sleeper sleepers).Pairwise fun left right => wakesNoLater left right = true := by
  induction sleepers with
  | nil => exact List.pairwise_singleton ..
  | cons first rest ih =>
      obtain ⟨ahead, sortedRest⟩ := List.pairwise_cons.mp sorted
      rw [insertSleeper]
      split
      · rename_i earlier
        refine List.pairwise_cons.mpr ⟨?_, sorted⟩
        intro other member
        rcases List.mem_cons.mp member with rfl | later
        · exact earlier
        · exact wakesNoLater_trans earlier (ahead other later)
      · rename_i notEarlier
        refine List.pairwise_cons.mpr ⟨?_, ih sortedRest⟩
        intro other member
        rcases List.mem_cons.mp ((perm_insertSleeper sleeper rest).mem_iff.mp member) with rfl | later
        · exact (Bool.or_eq_true_iff.mp (wakesNoLater_total other first)).resolve_left notEarlier
        · exact ahead other later

theorem foldr_insertSleeper (sleepers : List (Nat × Nat)) :
    sleepers.foldr insertSleeper [] = sleepers.mergeSort wakesNoLater := by
  have inserted : (sleepers.foldr insertSleeper []).Pairwise fun left right =>
      wakesNoLater left right = true := by
    induction sleepers with
    | nil => exact List.Pairwise.nil
    | cons first rest ih => exact sorted_insertSleeper ih
  have merged : (sleepers.mergeSort wakesNoLater).Pairwise fun left right =>
      wakesNoLater left right = true := by
    apply List.pairwise_mergeSort
    · exact fun _ _ _ => wakesNoLater_trans
    · exact wakesNoLater_total
  exact List.Perm.eq_of_pairwise (fun _ _ _ _ => wakesNoLater_antisymm) inserted merged
    ((perm_foldr_insertSleeper sleepers).trans (List.mergeSort_perm ..).symm)

theorem elapsed_eq_wakers (scheduler : Scheduler) (now : Nat) :
    scheduler.elapsed now = scheduler.table.wakers now := by
  let entry (item : Nat × ControlBlock) : Nat × Nat := (item.2.wakeTick, item.1)
  have due : scheduler.due now = (scheduler.table.processes.filter fun item =>
      item.2.state = .sleeping ∧ item.2.wakeTick ≤ now).map entry := by
    rw [Scheduler.due, ← List.filterMap_eq_map, List.filterMap_filter]
    congr 1
    funext item
    simp [entry]
  rw [elapsed, foldr_insertSleeper, due, ProcessTable.wakers, ← List.map_mergeSort, List.map_map]
  · rfl
  · intro item _ other _
    rw [Bool.eq_iff_iff, wakesNoLater_iff]
    simp [entry]

/-! A switch is a hand-over. -/

/-- Before a dispatch chooses somebody, whoever does not stand in line is as the departure left it. -/
theorem settle_state_of_ne_ready {scheduler : Scheduler} {other : Nat} {rival : ControlBlock}
    (waits : (scheduler.settle saved now other rival).state ≠ .ready) :
    (scheduler.settle saved now other rival).state = rival.state := by
  rw [settle_eq] at waits ⊢
  dsimp only at waits ⊢
  split at waits
  · exact absurd rfl waits
  · split at waits
    · exact absurd rfl waits
    · rename_i stays awake
      rw [if_neg stays, if_neg awake]

theorem turn_context (scheduler : Scheduler) (saved : Registers) (now chosen other : Nat)
    (rival : ControlBlock) :
    (scheduler.turn saved now chosen other rival).context =
      (scheduler.settle saved now other rival).context := by
  unfold turn
  split <;> rfl

theorem Dispatched.frame {chosen : Nat}
    (dispatched : before.Dispatched saved now chosen registers next) :
    next = { before with
      table := next.table
      ready := next.ready
      current := some chosen
      lastTick := now
      switches := if before.current = some chosen then before.switches else before.switches + 1 } := by
  rw [← dispatched.switches, ← dispatched.current, ← dispatched.tick, ← dispatched.config,
    ← dispatched.idleSlot]

theorem Coherent.turn_mark {slot chosen other : Nat} {process rival : ControlBlock}
    (coherent : before.Coherent slot process) (running : process.state = .running)
    (leaves : departure = .yields ∨ slot ≠ 0)
    (dispatched : (before.depart slot process departure).Dispatched saved now chosen registers next)
    (held : before.table.get? other = some rival) :
    let marked := departure.mark ⟨before.idleSlot, idlePid⟩ ⟨slot, process.pid⟩ other rival
    (before.depart slot process departure).turn saved now chosen other marked =
      { marked with
        context := if other = slot ∧ departure.state ≠ .zombie then saved else rival.context
        state :=
          if other = chosen then .running
          else if other ∈ next.ready.waiting then .ready
          else marked.state } := by
  intro marked
  have departed := coherent.depart running leaves
  have entry : (before.depart slot process departure).table.get? other = some marked := by
    rw [get?_depart coherent.occupied.holds, held, Option.map_some]
  have inLine := mem_line departed.lined departed.occupied saved now other
  rw [dispatched.line, List.mem_cons, entry] at inLine
  simp only [Option.some.injEq, exists_eq_left'] at inLine
  have state : ((before.depart slot process departure).turn saved now chosen other marked).state =
      if other = chosen then .running else if other ∈ next.ready.waiting then .ready
      else marked.state := by
    rw [turn_state]
    split
    · rfl
    · rename_i notChosen
      split
      · rename_i waits
        exact inLine.mp (Or.inr waits)
      · rename_i absent
        exact settle_state_of_ne_ready fun ready => (inLine.mpr ready).elim notChosen absent
  have context : ((before.depart slot process departure).turn saved now chosen other marked).context =
      if other = slot ∧ departure.state ≠ .zombie then saved else rival.context := by
    have current : (before.depart slot process departure).current = some slot :=
      departed.occupied.current
    have kept : marked.context = rival.context := by
      simp only [marked]
      rw [Departure.mark_frame]
    simp only [turn_context, settle_eq, current, Option.some.injEq, kept]
    by_cases own : other = slot
    · subst other
      obtain rfl := Option.some.inj (coherent.occupied.holds.symm.trans held)
      have left : marked.state = departure.state := departure.mark_state_self _ _ running
      rw [left]
      cases departure <;> simp [Departure.state]
    · simp [own, Ne.symm own]
  have rest : (before.depart slot process departure).turn saved now chosen other marked =
      { marked with
        context := ((before.depart slot process departure).turn saved now chosen other marked).context
        state := ((before.depart slot process departure).turn saved now chosen other marked).state } := by
    unfold turn
    split <;> rw [settle_eq]
  rw [rest, state, context]

theorem Switched.handOver (switched : before.Switched departure saved now registers next) :
    before.handOver departure saved now = some (registers, next) := by
  obtain ⟨slot, process, chosen, coherent, running, leaves, dispatched⟩ := switched
  have occupied := coherent.occupied
  have departed := coherent.depart running leaves
  let mark := departure.mark ⟨before.idleSlot, idlePid⟩ ⟨slot, process.pid⟩
  have own : (mark slot process).state = departure.state := departure.mark_state_self _ _ running
  have marked : (before.depart slot process departure).table = before.table.mapEach mark :=
    ProcessTable.eq_mapEach (table_depart ..) (capacity_depart ..) (get?_depart occupied.holds departure)
  have returning : (before.depart slot process departure).returning =
      if departure = .yields then [slot] else [] := by
    rw [departed.occupied.returning_eq]
    change (if (mark slot process).state = .running then [slot] else []) = _
    rw [own]
    cases departure <;> rfl
  have line : before.ready.waiting ++ (if departure = .yields then [slot] else []) ++
      (before.table.mapEach mark).wakers now = chosen :: next.ready.waiting := by
    rw [← dispatched.line, Scheduler.line, returning, elapsed_eq_wakers, marked, depart_frame]
  have table : next.table = before.table.mapEach fun other rival =>
      { mark other rival with
        context := if other = slot ∧ departure.state ≠ .zombie then saved else rival.context
        state :=
          if other = chosen then .running
          else if other ∈ next.ready.waiting then .ready
          else (mark other rival).state } := by
    refine ProcessTable.eq_mapEach ?_ ?_ fun other => ?_
    · rw [dispatched.table, table_depart]
    · rw [dispatched.slots, capacity_depart]
    · rw [dispatched.entries, get?_depart occupied.holds, Option.map_map]
      exact Option.map_congr fun rival held =>
        coherent.turn_mark running leaves dispatched held
  have ready : next.ready = .holding before.table.capacity next.ready.waiting := by
    rw [← coherent.lined.capacity]
    have capacity := dispatched.capacity
    rw [depart_frame] at capacity
    rw [← capacity]
    exact dispatched.faithful.eq_holding
  obtain ⟨runner, held, context⟩ := dispatched.registers
  have shell : next = { before with
      table := next.table
      ready := next.ready
      current := some chosen
      lastTick := now
      switches := if slot = chosen then before.switches else before.switches + 1 } := by
    have frame := dispatched.frame
    rw [depart_frame] at frame
    simpa only [occupied.current, Option.some.injEq] using frame
  rw [Scheduler.handOver, currentProcess?, occupied.current, Option.bind_some, occupied.holds,
    Option.map_some, Option.bind_some]
  simp only [mark] at line table
  simp only [line, ← table, ← ready, held, Option.map_some, context]
  rw [← shell]

theorem WellFormed.serve_handOver (wellFormed : before.WellFormed) (room : before.switches < Word.max)
    (request : Request) (allowed : request.Stops → before.currentPid ≠ idlePid) (saved : Registers)
    (now : Nat) :
    ∃ registers, (before.serve saved now request).result = .ok registers ∧
      before.handOver (request.departure before.config now) saved now =
        some (registers, (before.serve saved now request).state) := by
  rcases wellFormed.serve_cases request saved now with
    ⟨registers, served, -, switched⟩ | ⟨failure, -, overflowed | ⟨-, stops, idle, -⟩⟩
  · exact ⟨registers, served, switched.handOver⟩
  · have full := overflowed.full
    omega
  · exact absurd idle (allowed stops)

end Scheduler

namespace System

/-- In every state that a run reaches, whoever asks to yield, to sleep or to exit hands over what the
specification computes, to the last field of every process. -/
theorem after_handOver {config : Config} {scheduler : Scheduler}
    (started : (Scheduler.start config).result = .ok scheduler) (memory : PageAllocator)
    (calls : List Call)
    (room : (System.after ⟨scheduler, memory⟩ calls).scheduler.switches < Word.max)
    (request : Request)
    (allowed : request.Stops →
      (System.after ⟨scheduler, memory⟩ calls).scheduler.currentPid ≠ idlePid)
    (saved : Registers) (now : Nat) :
    let before := (System.after ⟨scheduler, memory⟩ calls).scheduler
    ∃ registers, (before.serve saved now request).result = .ok registers ∧
      before.handOver (request.departure before.config now) saved now =
        some (registers, (before.serve saved now request).state) := by
  obtain ⟨valid, rfl⟩ := (Scheduler.start_ensures config).of_ok started
  have initially : (Scheduler.initial config).WellFormed := Scheduler.wellFormed_initial valid
  have counted := counted_of_room initially room
  exact (after_wellFormed initially calls counted).serve_handOver room request allowed saved now

/-- Two threads sleep, the first one longer than the second. Both wake in one dispatch, behind the idle
process that ran, in the order of their ticks. -/
theorem after_handOver_latecomers :
    let before := (System.after ⟨.initial {}, .unstarted⟩ [.switch (.sleep 20) {} 2,
      .switch (.sleep 60) {} 1, .switch .dispatch {} 1, .spawn ⟨4096, by decide⟩,
      .spawn ⟨4096, by decide⟩, .page (.start 65536 ⟨4096, by decide⟩)]).scheduler
    (∃ registers, (before.serve { rax := 7 } 5 .dispatch).result = .ok registers ∧
      before.handOver .yields { rax := 7 } 5 =
        some (registers, (before.serve { rax := 7 } 5 .dispatch).state)) ∧
      (before.serve { rax := 7 } 5 .dispatch).state.ready.waiting = [2, 1] := by
  have started : (Scheduler.start {}).result = .ok (.initial {}) := rfl
  exact ⟨after_handOver started .unstarted _ (by decide +kernel) .dispatch (fun stops => stops.elim)
    { rax := 7 } 5, by decide +kernel⟩

end System

end MiniKernel
