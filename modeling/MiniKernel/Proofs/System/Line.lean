import MiniKernel.Proofs.System.History

/-! First come, first served. A dispatch takes the head of the queue, and whatever else happens only
appends to it, so those who wait run in the order in which they wait. -/

namespace MiniKernel

namespace Scheduler

variable {before after : Scheduler}

def pidAt (scheduler : Scheduler) (slot : Nat) : Option Pid :=
  (scheduler.table.get? slot).map ControlBlock.pid

/-- Whoever waits keeps its slot through a lull, since it is no zombie. -/
theorem Lull.pidAt (lull : before.Lull after) (wellFormed : before.WellFormed) {slot : Nat}
    (waits : slot ∈ before.ready.waiting) : after.pidAt slot = before.pidAt slot := by
  obtain ⟨current, runner, coherent, -⟩ := wellFormed
  obtain ⟨process, held, ready⟩ := (coherent.lined.waiting slot).mp waits
  obtain ⟨files, kept⟩ := lull.kept slot process held (by simp [ready])
  rw [Scheduler.pidAt, Scheduler.pidAt, kept, held]
  rfl

section

variable {departure : Departure} {saved registers : Registers} {now : Nat}

theorem Switched.pidAt (switched : before.Switched departure saved now registers after) (slot : Nat) :
    after.pidAt slot = before.pidAt slot := by
  have fixed := congrArg (Option.map ControlBlock.pid) (switched.fixed slot)
  rwa [Option.map_map, Option.map_map] at fixed

/-- A dispatch runs the head of the queue. Those who join the queue first stand behind the rest. -/
theorem Switched.line (switched : before.Switched departure saved now registers after) :
    ∃ chosen joined, before.ready.waiting ++ joined = chosen :: after.ready.waiting ∧
      after.current = some chosen := by
  obtain ⟨slot, process, chosen, -, -, -, dispatched⟩ := switched
  have line := dispatched.line
  rw [depart_frame, Scheduler.line, List.append_assoc] at line
  exact ⟨chosen, _, line, dispatched.current⟩

end

theorem WellFormed.distinct (wellFormed : before.WellFormed) : before.ready.waiting.Nodup := by
  obtain ⟨current, runner, coherent, -⟩ := wellFormed
  exact coherent.lined.faithful.distinct

theorem WellFormed.currentPid_eq (wellFormed : before.WellFormed) {slot : Nat}
    (current : before.current = some slot) : before.pidAt slot = some before.currentPid := by
  obtain ⟨own, process, coherent, -⟩ := wellFormed
  obtain rfl := Option.some.inj (coherent.occupied.current.symm.trans current)
  rw [pidAt, coherent.occupied.holds, coherent.currentPid_eq, Option.map_some]

end Scheduler

namespace System

variable {start : System} {call : Call} {later : List Call}

/-- What the calls in `later` made of the queue that they found: as many slots as there were
dispatching calls are gone from its head, the others wait as they did, each for the same process, and the
call that took the last one that is gone let its process run. -/
structure InTurn (before : System) (later : List Call) : Prop where
  answers : ∀ latest rest, later = latest :: rest → (before.after rest).Answered latest
  queue : ∃ joined, (before.after later).scheduler.ready.waiting =
    before.scheduler.ready.waiting.drop (before.ticks later).length ++ joined
  distinct : (before.after later).scheduler.ready.waiting.Nodup
  owners : ∀ slot ∈ before.scheduler.ready.waiting.drop (before.ticks later).length,
    (before.after later).scheduler.pidAt slot = before.scheduler.pidAt slot
  served : ∀ latest rest slot, later = latest :: rest →
    (before.ticks later).length = (before.ticks rest).length + 1 →
    before.scheduler.ready.waiting[(before.ticks rest).length]? = some slot →
    (before.after later).scheduler.current = some slot ∧
      before.scheduler.pidAt slot = some (before.after later).scheduler.currentPid

theorem inTurn_nil (wellFormed : start.scheduler.WellFormed) : start.InTurn [] :=
  ⟨nofun, ⟨[], (List.append_nil _).symm⟩, wellFormed.distinct, fun _ _ => rfl, nofun⟩

theorem InTurn.dispatched (inTurn : start.InTurn later)
    (answers : ∀ latest rest, call :: later = latest :: rest → (start.after rest).Answered latest)
    (shape : (start.after (call :: later)).scheduler.WellFormed) {departure : Departure}
    {saved registers : Registers} {now : Nat}
    (ticked : start.ticks (call :: later) = now :: start.ticks later)
    (switched : (start.after later).scheduler.Switched departure saved now registers
      (start.after (call :: later)).scheduler) : start.InTurn (call :: later) := by
  obtain ⟨joined, queue⟩ := inTurn.queue
  obtain ⟨chosen, behind, line, current⟩ := switched.line
  have owners := inTurn.owners
  have length : (start.ticks (call :: later)).length = (start.ticks later).length + 1 := by
    rw [ticked, List.length_cons]
  have head : (start.scheduler.ready.waiting.drop (start.ticks later).length).head? =
      start.scheduler.ready.waiting[(start.ticks later).length]? := List.head?_drop
  have tail : start.scheduler.ready.waiting.drop (start.ticks (call :: later)).length =
      (start.scheduler.ready.waiting.drop (start.ticks later).length).tail := by
    rw [length, List.tail_drop]
  rw [queue, List.append_assoc] at line
  -- What is left of the queue that was found may be empty: then somebody who joined later runs.
  generalize start.scheduler.ready.waiting.drop (start.ticks later).length = queued at *
  constructor
  · exact answers
  · rw [tail]
    cases queued with
    | nil => exact ⟨_, rfl⟩
    | cons first rest => exact ⟨_, (List.cons.inj line).2.symm⟩
  · exact shape.distinct
  · intro other waits
    rw [switched.pidAt]
    exact owners other (List.mem_of_mem_tail (tail ▸ waits))
  · rintro latest rest other same - found
    obtain ⟨rfl, rfl⟩ := List.cons.inj same
    rw [← head] at found
    cases queued with
    | nil => cases found
    | cons first queued =>
        obtain rfl := Option.some.inj found
        obtain ⟨rfl, -⟩ := List.cons.inj line
        refine ⟨current, ?_⟩
        rw [← owners first List.mem_cons_self, ← switched.pidAt]
        exact shape.currentPid_eq current

theorem InTurn.lull (inTurn : start.InTurn later)
    (answers : ∀ latest rest, call :: later = latest :: rest → (start.after rest).Answered latest)
    (before : (start.after later).scheduler.WellFormed)
    (shape : (start.after (call :: later)).scheduler.WellFormed)
    (quiet : start.ticks (call :: later) = start.ticks later)
    (lull : (start.after later).scheduler.Lull (start.after (call :: later)).scheduler) :
    start.InTurn (call :: later) := by
  obtain ⟨joined, queue⟩ := inTurn.queue
  obtain ⟨appended, line⟩ := lull.line
  constructor
  · exact answers
  · rw [line, quiet, queue, List.append_assoc]
    exact ⟨_, rfl⟩
  · exact shape.distinct
  · intro slot waits
    rw [quiet] at waits
    rw [lull.pidAt before (queue ▸ List.mem_append_left joined waits)]
    exact inTurn.owners slot waits
  · rintro latest rest slot same dispatched -
    obtain ⟨rfl, rfl⟩ := List.cons.inj same
    rw [quiet] at dispatched
    exact absurd dispatched (Nat.ne_of_lt (Nat.lt_succ_self _))

theorem InTurn.step (inTurn : start.InTurn later) (wellFormed : start.scheduler.WellFormed)
    (counted : start.Counted Call.Switches (call :: later)) : start.InTurn (call :: later) := by
  have shape := after_wellFormed wellFormed (call :: later) counted
  have answers := answered wellFormed counted
  rcases dispatches_or_lull wellFormed counted with
    ⟨_, _, _, _, -, dispatches, -, switched⟩ | ⟨quiet, -, lull⟩
  · exact inTurn.dispatched answers shape (ticks_some dispatches) switched
  · exact inTurn.lull answers (after_wellFormed wellFormed later counted.1) shape (ticks_none quiet) lull

/-- The queue of every state that a run reaches is served in its order, whatever calls follow. -/
theorem after_inTurn {config : Config} {scheduler : Scheduler}
    (started : (Scheduler.start config).result = .ok scheduler) (memory : PageAllocator)
    (later earlier : List Call)
    (counted : System.Counted ⟨scheduler, memory⟩ Call.Switches (later ++ earlier)) :
    (System.after ⟨scheduler, memory⟩ earlier).InTurn later := by
  obtain ⟨valid, rfl⟩ := (Scheduler.start_ensures config).of_ok started
  have initially : (Scheduler.initial config).WellFormed := Scheduler.wellFormed_initial valid
  rw [counted_append] at counted
  obtain ⟨past, counted⟩ := counted
  have shape := after_wellFormed initially earlier past
  generalize System.after ⟨.initial config, memory⟩ earlier = before at *
  induction later with
  | nil => exact inTurn_nil shape
  | cons call later ih => exact (ih counted.1).step shape counted

theorem after_inTurn_twoThreads :
    (System.after ⟨.initial {}, .unstarted⟩ [.spawn ⟨4096, by decide⟩, .spawn ⟨4096, by decide⟩,
      .page (.start 65536 ⟨4096, by decide⟩)]).InTurn
        [.switch (.exit 7) {} 2, .spawn ⟨4096, by decide⟩, .switch .dispatch {} 1] := by
  have started : (Scheduler.start {}).result = .ok (.initial {}) := rfl
  refine after_inTurn started .unstarted _ _ ⟨⟨⟨⟨⟨⟨trivial, ?_⟩, ?_⟩, ?_⟩, ?_⟩, ?_⟩, ?_⟩ <;> intro _
  all_goals decide +kernel

end System

end MiniKernel
