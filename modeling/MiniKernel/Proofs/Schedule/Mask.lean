import MiniKernel.Proofs.Schedule.Request
import MiniKernel.Proofs.Schedule.Steady

/-! A scheduler behind a mask. The mask replaces all data of the processes that scheduling passes over,
and it may hide processes that have exited. What happens is the same with and without it. -/

namespace MiniKernel

structure Mask where
  name : String → String
  kind : ProcessKind → ProcessKind
  context : Registers → Registers
  kernelStack : Nat → Nat
  userStack : Nat → Nat
  files : Descriptors → Descriptors
  exitCode : Int → Int
  hides : Nat → Bool

namespace Mask

def blank : Mask where
  name _ := ""
  kind _ := .kernelThread
  context _ := {}
  kernelStack _ := 0
  userStack _ := 0
  files _ := .empty
  exitCode _ := 0
  hides _ := false

def gap (slot : Nat) : Mask where
  name := id
  kind := id
  context := id
  kernelStack := id
  userStack := id
  files := id
  exitCode := id
  hides other := other == slot

variable (mask : Mask)

def process (process : ControlBlock) : ControlBlock :=
  { process with
    name := mask.name process.name
    kind := mask.kind process.kind
    context := mask.context process.context
    kernelStack := mask.kernelStack process.kernelStack
    userStack := mask.userStack process.userStack
    files := mask.files process.files
    exitCode := process.exitCode.map mask.exitCode }

def departure : Departure → Departure
  | .yields => .yields
  | .sleeps wakeTick => .sleeps wakeTick
  | .exits code => .exits (mask.exitCode code)

def request : Request → Request
  | .exit code => .exit (mask.exitCode code)
  | request => request

def table (table : ProcessTable) : ProcessTable :=
  { table with
    slots := table.slots.mapIdx fun slot entry =>
      if mask.hides slot then none else entry.map mask.process }

def scheduler (scheduler : Scheduler) : Scheduler :=
  { scheduler with table := mask.table scheduler.table }

@[simp]
theorem capacity_table (table : ProcessTable) : (mask.table table).capacity = table.capacity :=
  List.length_mapIdx

theorem get?_table (table : ProcessTable) (slot : Nat) :
    (mask.table table).get? slot =
      if mask.hides slot then none else (table.get? slot).map mask.process := by
  simp only [ProcessTable.get?, Mask.table, List.getElem?_mapIdx]
  rcases table.slots[slot]? with _ | _ | process <;> simp

variable {mask} {table : ProcessTable} {slot : Nat} {process : ControlBlock}

theorem get?_open (seen : mask.hides slot = false) :
    (mask.table table).get? slot = (table.get? slot).map mask.process := by
  rw [get?_table, seen]
  rfl

theorem process_stop (process : ControlBlock) (saved : Registers) :
    (mask.process process).stop (mask.context saved) = mask.process (process.stop saved) := by
  obtain ⟨pid, name, kind, state, context, kernelStack, userStack, wakeTick, parent, files, exitCode⟩ :=
    process
  cases state <;> rfl

/-! What the scheduler writes, it may write before or after the mask is put on. -/

theorem table_put (table : ProcessTable) (seen : mask.hides slot = false) (process : ControlBlock) :
    mask.table (table.put slot process) = (mask.table table).put slot (mask.process process) := by
  simp [Mask.table, ProcessTable.put, List.mapIdx_set, seen]

theorem table_modify (table : ProcessTable) {change : ControlBlock → ControlBlock}
    (blind : ∀ process, mask.process (change process) = change (mask.process process)) (slot : Nat) :
    mask.table (table.modify slot change) = (mask.table table).modify slot change := by
  refine ProcessTable.ext_get? rfl (by simp) fun other => ?_
  rw [get?_table, ProcessTable.get?_modify, ProcessTable.get?_modify, get?_table]
  split
  · rfl
  · cases table.get? other with
    | none => rfl
    | some process => by_cases own : other = slot <;> simp [own, blind]

theorem table_modifyAll (table : ProcessTable) {change : ControlBlock → ControlBlock}
    (blind : ∀ process, mask.process (change process) = change (mask.process process)) :
    mask.table (table.modifyAll change) = (mask.table table).modifyAll change := by
  refine ProcessTable.ext_get? rfl (by simp) fun other => ?_
  rw [get?_table, ProcessTable.get?_modifyAll, ProcessTable.get?_modifyAll, get?_table]
  split
  · rfl
  · cases table.get? other <;> simp [blind]

def Covers (mask : Mask) (table : ProcessTable) : Prop :=
  ∀ slot process, mask.hides slot = true → table.get? slot = some process → process.state = .zombie

theorem Covers.put (covers : mask.Covers table) (bound : slot < table.capacity)
    (seen : mask.hides slot = false) (process : ControlBlock) : mask.Covers (table.put slot process) := by
  intro other rival hidden held
  have away : other ≠ slot := by
    rintro rfl
    simp [hidden] at seen
  rw [ProcessTable.get?_put bound, if_neg away] at held
  exact covers other rival hidden held

theorem Covers.modify (covers : mask.Covers table) (seen : mask.hides slot = false)
    (change : ControlBlock → ControlBlock) : mask.Covers (table.modify slot change) := by
  intro other rival hidden held
  have away : other ≠ slot := by
    rintro rfl
    simp [hidden] at seen
  rw [ProcessTable.get?_modify] at held
  simp only [if_neg away, Option.map_id'] at held
  exact covers other rival hidden held

end Mask

namespace Scheduler

open Outcome (Mirrors mirrors_done mirrors_fail mirrors_ofMachine mirrors_ofContract)

variable {mask : Mask} {scheduler : Scheduler} {slot : Nat}

/-! The steps of a dispatch. -/

theorem enqueue_mirrors (mask : Mask) (scheduler : Scheduler) (slot : Nat) :
    Mirrors mask.scheduler id (scheduler.enqueue slot) ((mask.scheduler scheduler).enqueue slot) := by
  unfold enqueue
  rw [Mask.scheduler]
  dsimp only
  split
  · exact mirrors_done ..
  · exact mirrors_fail ..

theorem makeWay_mirrors (scheduler : Scheduler)
    (away : ∀ slot, scheduler.current = some slot → mask.hides slot = false) (saved : Registers) :
    Mirrors mask.scheduler id (scheduler.makeWay saved)
      ((mask.scheduler scheduler).makeWay (mask.context saved)) := by
  cases current : scheduler.current with
  | none =>
      have maskedCurrent : (mask.scheduler scheduler).current = none := current
      simp only [makeWay, current, maskedCurrent]
      exact mirrors_done scheduler ()
  | some slot =>
      have maskedCurrent : (mask.scheduler scheduler).current = some slot := current
      have seen := away slot current
      have entry : (mask.scheduler scheduler).table.get? slot = _ := Mask.get?_open seen
      cases held : scheduler.table.get? slot with
      | none =>
          rw [held] at entry
          rw [makeWay_empty current held, makeWay_empty maskedCurrent entry]
          exact mirrors_fail { scheduler with current := none } _
      | some process =>
          rw [held, Option.map_some] at entry
          let stopped := { scheduler with
            current := none, table := scheduler.table.put slot (process.stop saved) }
          have stops : stopped = _ := rfl
          have maskedStops : mask.scheduler stopped = { mask.scheduler scheduler with
              current := none
              table := (mask.table scheduler.table).put slot
                ((mask.process process).stop (mask.context saved)) } := by
            rw [Mask.process_stop, ← Mask.table_put _ seen]
            rfl
          rw [makeWay_held current held stops, makeWay_held maskedCurrent entry maskedStops, Mask.process]
          -- The mask leaves the state alone, so both sides take the same branch.
          cases process.state with
          | running => exact enqueue_mirrors mask stopped slot
          | sleeping => exact mirrors_done stopped ()
          | zombie => exact mirrors_done stopped ()
          | _ => exact mirrors_fail stopped _

theorem wake_mirrors (mask : Mask) (scheduler : Scheduler) (slots : List Nat) :
    Mirrors mask.scheduler id (scheduler.wake slots) ((mask.scheduler scheduler).wake slots) := by
  induction slots generalizing scheduler with
  | nil => exact mirrors_done scheduler ()
  | cons slot slots ih =>
      let makeReady := fun process : ControlBlock => { process with state := .ready }
      have blind : ∀ process, mask.process (makeReady process) = makeReady (mask.process process) :=
        fun _ => rfl
      have woken := Mask.table_modify scheduler.table blind slot
      rw [wake, wake]
      refine Mirrors.andThen (g := id) ?_ fun _ _ => ih _
      dsimp only [Mask.scheduler]
      rw [← woken]
      exact enqueue_mirrors mask { scheduler with table := _ } slot

theorem runHead_mirrors (covers : mask.Covers scheduler.table) (previous : Option Nat) :
    Mirrors mask.scheduler mask.context (scheduler.runHead previous)
      ((mask.scheduler scheduler).runHead previous) := by
  have maskedReady : (mask.scheduler scheduler).ready = scheduler.ready := rfl
  have entry := mask.get?_table scheduler.table
  change ∀ slot, (mask.scheduler scheduler).table.get? slot = _ at entry
  unfold runHead
  rw [maskedReady]
  cases scheduler.ready.pop with
  | none => exact mirrors_fail scheduler _
  | some head =>
      obtain ⟨slot, ready⟩ := head
      let popped := { scheduler with ready }
      dsimp only
      rw [entry]
      by_cases hidden : mask.hides slot = true
      · -- A hidden slot does not run, nor does an empty one.
        rw [if_pos hidden]
        cases held : scheduler.table.get? slot with
        | none => exact mirrors_fail popped _
        | some process =>
            dsimp only
            rw [if_neg (by simp [covers slot process hidden held])]
            exact mirrors_fail popped _
      · rw [if_neg hidden]
        cases held : scheduler.table.get? slot with
        | none => exact mirrors_fail popped _
        | some process =>
            dsimp only [Option.map_some]
            rw [Mask.process]
            by_cases state : process.state = .ready
            · let chosen := { popped with
                table := popped.table.put slot { process with state := .running } }
              have image : mask.scheduler chosen = { mask.scheduler popped with
                  table := (mask.table popped.table).put slot
                    { mask.process process with state := .running } } := by
                rw [Mask.scheduler, Mask.table_put _ (Bool.eq_false_iff.mpr hidden)]
                rfl
              have counted := mirrors_ofMachine (f := mask.scheduler) chosen
                (popped.switchesAfter previous slot)
              rw [image] at counted
              rw [if_pos state, if_pos state]
              exact counted.andThen fun switches _ => mirrors_done
                { (Outcome.ofMachine chosen _).state with switches, current := some slot } process.context
            · rw [if_neg state, if_neg state]
              exact mirrors_fail popped _

/-! Who keeps out of sight. -/

theorem makeWay_covers (covers : mask.Covers scheduler.table)
    (away : ∀ slot, scheduler.current = some slot → mask.hides slot = false) (saved : Registers) :
    (scheduler.makeWay saved).Ensures (fun _ next => mask.Covers next.table) fun _ _ => True := by
  cases current : scheduler.current with
  | none =>
      simp only [makeWay, current]
      exact covers
  | some slot =>
      cases held : scheduler.table.get? slot with
      | none =>
          rw [makeWay_empty current held]
          trivial
      | some process =>
          have stopped := covers.put (ProcessTable.get?_lt held) (away slot current) (process.stop saved)
          rw [makeWay_held current held rfl]
          cases process.state with
          | running =>
              refine (enqueue_frame _ slot).imp ?_ fun _ _ _ => trivial
              rintro _ _ ⟨ready, rfl⟩
              exact stopped
          | sleeping => exact stopped
          | zombie => exact stopped
          | _ => trivial

theorem wake_covers {slots : List Nat} (covers : mask.Covers scheduler.table)
    (seen : ∀ slot ∈ slots, mask.hides slot = false) :
    (scheduler.wake slots).Ensures (fun _ next => mask.Covers next.table) fun _ _ => True := by
  induction slots generalizing scheduler with
  | nil => exact covers
  | cons slot slots ih =>
      rw [wake, Outcome.ensures_andThen]
      refine (enqueue_frame _ slot).imp ?_ fun _ _ _ => trivial
      rintro _ _ ⟨ready, rfl⟩
      exact ih (covers.modify (seen slot List.mem_cons_self) _) fun other later =>
        seen other (List.mem_cons_of_mem _ later)

theorem elapsed_mask (covers : mask.Covers scheduler.table) (now : Nat) :
    (mask.scheduler scheduler).elapsed now = scheduler.elapsed now := by
  refine elapsed_congr (mask.capacity_table _) fun slot => ?_
  change ((mask.table scheduler.table).get? slot).bind _ = _
  rw [mask.get?_table]
  cases held : scheduler.table.get? slot with
  | none => simp
  | some process =>
      by_cases hidden : mask.hides slot = true
      · simp [hidden, ControlBlock.alarm?, covers slot process hidden held]
      · simp [hidden, ControlBlock.alarm?, Mask.process]

theorem elapsed_seen (covers : mask.Covers scheduler.table) {now slot : Nat}
    (elapses : slot ∈ scheduler.elapsed now) : mask.hides slot = false := by
  obtain ⟨process, held, sleeping, -⟩ := mem_elapsed.mp elapses
  refine Bool.eq_false_iff.mpr fun hidden => ?_
  simp [covers slot process hidden held] at sleeping

/-! The operations. -/

theorem dispatch_mirrors (covers : mask.Covers scheduler.table)
    (away : ∀ slot, scheduler.current = some slot → mask.hides slot = false) (saved : Registers)
    (now : Nat) :
    Mirrors mask.scheduler mask.context (scheduler.dispatch saved now)
      ((mask.scheduler scheduler).dispatch (mask.context saved) now) := by
  have ticked : mask.Covers { scheduler with lastTick := now }.table := covers
  rw [dispatch, dispatch]
  refine (makeWay_mirrors { scheduler with lastTick := now } away saved).andThen fun _ madeWay => ?_
  have waiting := (makeWay_covers ticked away saved).of_ok madeWay
  generalize (makeWay { scheduler with lastTick := now } saved).state = queued at waiting
  -- The mask hides nobody who sleeps, so the same slots wake behind it.
  rw [wakeSleepers, wakeSleepers, elapsed_mask waiting]
  refine (wake_mirrors mask queued _).andThen fun _ woken => ?_
  exact runHead_mirrors ((wake_covers waiting fun _ => elapsed_seen waiting).of_ok woken) _

theorem currentProcess?_mask
    (away : ∀ slot, scheduler.current = some slot → mask.hides slot = false) :
    (mask.scheduler scheduler).currentProcess? =
      scheduler.currentProcess?.map fun (slot, process) => (slot, mask.process process) := by
  have maskedCurrent : (mask.scheduler scheduler).current = scheduler.current := rfl
  unfold currentProcess?
  rw [maskedCurrent]
  cases current : scheduler.current with
  | none => rfl
  | some slot =>
      have entry : (mask.scheduler scheduler).table.get? slot = _ := Mask.get?_open (away slot current)
      simp only [Option.bind_some, entry, Option.map_map]
      rfl

theorem running_mask (away : ∀ slot, scheduler.current = some slot → mask.hides slot = false) :
    (mask.scheduler scheduler).running =
      scheduler.running.map fun (slot, process) => (slot, mask.process process) := by
  unfold running
  rw [currentProcess?_mask away]
  cases scheduler.currentProcess? with
  | none => rfl
  | some entry =>
      have state : (mask.process entry.2).state = entry.2.state := rfl
      simp only [Option.map_some, state]
      split <;> rfl

theorem depart_mask (seen : mask.hides slot = false) (process : ControlBlock) (departure : Departure) :
    (mask.scheduler scheduler).depart slot (mask.process process) (mask.departure departure) =
      mask.scheduler (scheduler.depart slot process departure) := by
  have put := Mask.table_put scheduler.table seen
  cases departure with
  | yields => rfl
  | sleeps wakeTick =>
      have asleep := put { process with wakeTick, state := .sleeping }
      exact congrArg (fun table => { mask.scheduler scheduler with table }) asleep.symm
  | exits code =>
      -- Who is handed to the idle process depends on the parent links, and the mask keeps these.
      let adopt := fun child : ControlBlock => if child.parent = some ⟨slot, process.pid⟩ then
        { child with parent := some ⟨scheduler.idleSlot, idlePid⟩ } else child
      have blind : ∀ child, mask.process (adopt child) = adopt (mask.process child) := by
        intro child
        simp only [adopt, Mask.process]
        split <;> rfl
      have adopted := Mask.table_modifyAll
        (scheduler.table.put slot { process with state := .zombie, exitCode := some code }) blind
      rw [put] at adopted
      exact congrArg (fun table => { mask.scheduler scheduler with table }) adopted.symm

theorem departed_mirrors (covers : mask.Covers scheduler.table)
    (away : ∀ slot, scheduler.current = some slot → mask.hides slot = false) {process : ControlBlock}
    (runs : scheduler.running = .ok (slot, process)) (departure : Departure) (saved : Registers)
    (now : Nat) :
    Mirrors mask.scheduler mask.context ((scheduler.depart slot process departure).dispatch saved now)
      (((mask.scheduler scheduler).depart slot (mask.process process)
        (mask.departure departure)).dispatch (mask.context saved) now) := by
  obtain ⟨current, held, -⟩ := running_ok runs
  have seen := away slot current
  rw [depart_mask seen]
  refine dispatch_mirrors ?_ ?_ saved now
  · intro other after hidden afterHeld
    have apart : other ≠ slot := by
      rintro rfl
      simp [hidden] at seen
    rw [get?_depart held] at afterHeld
    obtain ⟨rival, rivalHeld, rfl⟩ := Option.map_eq_some_iff.mp afterHeld
    rw [departure.mark_state_other _ _ apart]
    exact covers other rival hidden rivalHeld
  · rw [depart_frame]
    exact away

theorem sleep_mirrors (covers : mask.Covers scheduler.table)
    (away : ∀ slot, scheduler.current = some slot → mask.hides slot = false) (ms : Nat)
    (saved : Registers) (now : Nat) :
    Mirrors mask.scheduler mask.context (scheduler.sleep ms saved now)
      ((mask.scheduler scheduler).sleep ms (mask.context saved) now) := by
  rw [sleep, sleep, running_mask away]
  refine (mirrors_ofMachine scheduler _).andThen fun delta _ => ?_
  refine (mirrors_ofContract scheduler _).andThen ?_
  rintro ⟨slot, process⟩ returned
  have runs := Outcome.ofContract_ok_iff.mp returned
  change Mirrors _ _ (if slot = scheduler.idleSlot then _ else _)
    (if slot = scheduler.idleSlot then _ else _)
  split
  · exact mirrors_fail scheduler _
  · exact (departed_mirrors covers away runs (.sleeps (Word.satAdd now delta)) saved now).after _ _

theorem exit_mirrors (covers : mask.Covers scheduler.table)
    (away : ∀ slot, scheduler.current = some slot → mask.hides slot = false) (code : Int)
    (saved : Registers) (now : Nat) :
    Mirrors mask.scheduler mask.context (scheduler.exit code saved now)
      ((mask.scheduler scheduler).exit (mask.exitCode code) (mask.context saved) now) := by
  rw [exit, exit, running_mask away]
  refine (mirrors_ofContract scheduler _).andThen ?_
  rintro ⟨slot, process⟩ returned
  have runs := Outcome.ofContract_ok_iff.mp returned
  change Mirrors _ _ (if slot = scheduler.idleSlot then _ else _)
    (if slot = scheduler.idleSlot then _ else _)
  split
  · exact mirrors_fail scheduler _
  · exact (departed_mirrors covers away runs (.exits code) saved now).after _ _

theorem serve_mirrors (covers : mask.Covers scheduler.table)
    (away : ∀ slot, scheduler.current = some slot → mask.hides slot = false) (request : Request)
    (saved : Registers) (now : Nat) :
    Mirrors mask.scheduler mask.context (scheduler.serve saved now request)
      ((mask.scheduler scheduler).serve (mask.context saved) now (mask.request request)) := by
  cases request with
  | dispatch => exact dispatch_mirrors covers away saved now
  | yieldNow => exact dispatch_mirrors covers away saved now
  | sleep ms => exact sleep_mirrors covers away ms saved now
  | exit code => exact exit_mirrors covers away code saved now

theorem scheduler_gap (scheduler : Scheduler) (slot : Nat) :
    (Mask.gap slot).scheduler scheduler =
      { scheduler with table := scheduler.table.clear slot } := by
  have same : (Mask.gap slot).table scheduler.table = scheduler.table.clear slot := by
    refine ProcessTable.ext_get? rfl (by simp) fun other => ?_
    rw [Mask.get?_table, ProcessTable.get?_clear]
    by_cases own : other = slot
    · simp [Mask.gap, own]
    · cases scheduler.table.get? other <;> simp [Mask.gap, Mask.process, own]
  rw [Mask.scheduler, same]

/-- A process that has exited may leave the table before a request is served or afterwards. -/
theorem serve_clear {process : ControlBlock} (held : scheduler.table.get? slot = some process)
    (zombie : process.state = .zombie) (away : scheduler.current ≠ some slot) (request : Request)
    (saved : Registers) (now : Nat) :
    let cleared := { scheduler with table := scheduler.table.clear slot }
    let served := scheduler.serve saved now request
    (cleared.serve saved now request).result = served.result ∧
      (cleared.serve saved now request).state =
        { served.state with table := served.state.table.clear slot } := by
  have covers : (Mask.gap slot).Covers scheduler.table := by
    intro other rival hidden rivalHeld
    obtain rfl : other = slot := by simpa [Mask.gap] using hidden
    obtain rfl := Option.some.inj (held.symm.trans rivalHeld)
    exact zombie
  have seen : ∀ other, scheduler.current = some other → (Mask.gap slot).hides other = false := by
    intro other current
    have apart : other ≠ slot := fun own => away (own ▸ current)
    simpa [Mask.gap] using apart
  have mirrors := serve_mirrors covers seen request saved now
  have same : (Mask.gap slot).request request = request := by
    cases request <;> rfl
  rw [scheduler_gap, same] at mirrors
  refine ⟨mirrors.result.trans ?_, mirrors.state.trans (scheduler_gap _ slot)⟩
  cases (scheduler.serve saved now request).result <;> rfl

end Scheduler

end MiniKernel
