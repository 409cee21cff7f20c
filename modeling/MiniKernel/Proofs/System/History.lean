import MiniKernel.Proofs.System.Basic

/-! What happened in a run: the calls that returned, what they answered, and who was running when they
were made. A run is a sequence of dispatches with lulls between them. -/

namespace MiniKernel

structure Step where
  runner : Pid
  call : Call
  answer : Answer

/-- The tick of a call that dispatches, whoever runs. Every dispatch and every yield does, and so does
every sleep and exit, unless it is the idle process that asks. -/
def Call.tick (runner : Pid) : Call → Option Nat
  | .switch request _ now => if request.Stops ∧ runner = idlePid then none else some now
  | _ => none

namespace Step

def birth : Step → Option (Pid × String)
  | ⟨_, call, .created pid⟩ => call.creates.map fun (_, _, name) => (pid, name)
  | _ => none

def exit : Step → Option (Pid × Int)
  | ⟨runner, .switch (.exit code) _ _, _⟩ => some (runner, code)
  | _ => none

def burial : Step → Option (Pid × Snapshot)
  | ⟨_, .reap pid, .reaped info⟩ => some (pid, info)
  | _ => none

end Step

namespace System

variable {start : System} {call : Call} {earlier : List Call}

def steps (start : System) : List Call → List Step
  | [] => []
  | call :: earlier =>
      match ((start.after earlier).perform call).result with
      | .ok answer => ⟨(start.after earlier).scheduler.currentPid, call, answer⟩ :: start.steps earlier
      | .error _ => start.steps earlier

def ticks (start : System) : List Call → List Nat
  | [] => []
  | call :: earlier =>
      match call.tick (start.after earlier).scheduler.currentPid with
      | some now => now :: start.ticks earlier
      | none => start.ticks earlier

theorem steps_ok {answer : Answer} (returned : ((start.after earlier).perform call).result = .ok answer) :
    start.steps (call :: earlier) =
      ⟨(start.after earlier).scheduler.currentPid, call, answer⟩ :: start.steps earlier := by
  simp [steps, returned]

theorem steps_error {failure : Failure}
    (failed : ((start.after earlier).perform call).result = .error failure) :
    start.steps (call :: earlier) = start.steps earlier := by
  simp [steps, failed]

theorem ticks_some {now : Nat}
    (dispatches : call.tick (start.after earlier).scheduler.currentPid = some now) :
    start.ticks (call :: earlier) = now :: start.ticks earlier := by
  rw [ticks, dispatches]

theorem ticks_none (quiet : call.tick (start.after earlier).scheduler.currentPid = none) :
    start.ticks (call :: earlier) = start.ticks earlier := by
  rw [ticks, quiet]

theorem mem_ticks_cons {tick : Nat} (past : tick ∈ start.ticks earlier) (call : Call) :
    tick ∈ start.ticks (call :: earlier) := by
  rw [ticks]
  split
  · exact List.mem_cons_of_mem _ past
  · exact past

/-! A run after a run. -/

theorem after_append (start : System) (later earlier : List Call) :
    start.after (later ++ earlier) = (start.after earlier).after later := by
  induction later with
  | nil => rfl
  | cons call later ih => rw [List.cons_append, after, after, ih]

theorem counted_append (start : System) (kind : Call → Prop) (later earlier : List Call) :
    start.Counted kind (later ++ earlier) ↔
      start.Counted kind earlier ∧ (start.after earlier).Counted kind later := by
  induction later with
  | nil => exact (and_iff_left trivial).symm
  | cons call later ih => rw [List.cons_append, Counted, Counted, ih, after_append, and_assoc]

end System

namespace Scheduler

/-- Nobody was dispatched. Whoever has not exited is as before, up to its files, and the queue has
only grown. -/
structure Lull (before after : Scheduler) : Prop where
  kept : ∀ slot process, before.table.get? slot = some process → process.state ≠ .zombie →
    ∃ files, after.table.get? slot = some { process with files }
  known : ∀ slot process, after.table.get? slot = some process → process.state = .ready ∨
    ∃ files, before.table.get? slot = some { process with files }
  line : ∃ joined, after.ready.waiting = before.ready.waiting ++ joined
  current : after.current = before.current
  tick : after.lastTick = before.lastTick
  config : after.config = before.config

variable {before after : Scheduler}

theorem Lull.refl (scheduler : Scheduler) : scheduler.Lull scheduler where
  kept := fun _ process held _ => ⟨process.files, held⟩
  known := fun _ process held => Or.inr ⟨process.files, held⟩
  line := ⟨[], (List.append_nil _).symm⟩
  current := rfl
  tick := rfl
  config := rfl

theorem Created.lull {memory left : PageAllocator} {entry : VirtAddr} {kind : ProcessKind}
    {name : String} {slot : Nat} {process : ControlBlock}
    (created : before.Created memory entry kind name slot process after left) : before.Lull after := by
  constructor
  · intro other rival held _
    exact ⟨rival.files, created.kept held⟩
  · intro other rival held
    rcases created.cases held with ⟨-, ready⟩ | older
    · exact Or.inl ready
    · exact Or.inr ⟨rival.files, older⟩
  · exact ⟨[slot], created.line⟩
  · rw [created.rest]
  · rw [created.rest]
  · rw [created.rest]

theorem lull_clear {slot : Nat} {process : ControlBlock}
    (held : before.table.get? slot = some process) (zombie : process.state = .zombie) :
    before.Lull { before with table := before.table.clear slot } := by
  constructor
  · intro other rival rivalHeld lives
    refine ⟨rival.files, ProcessTable.get?_clear_some.mpr ⟨?_, rivalHeld⟩⟩
    rintro rfl
    obtain rfl := Option.some.inj (held.symm.trans rivalHeld)
    exact lives zombie
  · intro other rival rivalHeld
    exact Or.inr ⟨rival.files, (ProcessTable.get?_clear_some.mp rivalHeld).2⟩
  · exact ⟨[], (List.append_nil _).symm⟩
  · rfl
  · rfl
  · rfl

theorem lull_withFiles {α : Type} (before : Scheduler) (pid : Pid)
    (change : Descriptors → α × Descriptors) : before.Lull (before.withFiles pid change).2 := by
  obtain ⟨frame, -, -⟩ := withFiles_frame before pid change
  constructor
  · intro slot process held _
    exact ⟨_, by rw [get?_withFiles, held, Option.map_some]⟩
  · intro slot process held
    rw [get?_withFiles] at held
    obtain ⟨older, olderHeld, rfl⟩ := Option.map_eq_some_iff.mp held
    exact Or.inr ⟨older.files, olderHeld⟩
  · rw [frame]
    exact ⟨[], (List.append_nil _).symm⟩
  · rw [frame]
  · rw [frame]
  · rw [frame]

end Scheduler

namespace System

variable {start before after : System} {call : Call} {earlier : List Call}

theorem Performed.lull {answer : Answer} (performed : before.Performed call answer after)
    (quiet : ¬ call.Switches) : before.scheduler.Lull after.scheduler := by
  cases performed with
  | created _ created => exact created.lull
  | switched => exact absurd trivial quiet
  | reaped exited _ => exact Scheduler.lull_clear exited.holds exited.zombie
  | edited pid change => exact Scheduler.lull_withFiles before.scheduler pid _
  | page => exact .refl _

theorem Failed.lull {failure : Failure} (failed : before.Failed call failure after)
    (counted : call.Switches → failure ≠ .trapped .addOverflow) :
    before.scheduler.Lull after.scheduler := by
  cases failed with
  | overflowed overflowed => exact absurd overflowed.trapped (counted trivial)
  | lost exited _ => exact Scheduler.lull_clear exited.holds exited.zombie
  | _ => exact .refl _

theorem after_cases (wellFormed : start.scheduler.WellFormed)
    (counted : start.Counted Call.Switches (call :: earlier)) :
    (∃ answer, ((start.after earlier).perform call).result = .ok answer ∧
      (start.after earlier).Performed call answer (start.after (call :: earlier))) ∨
    ∃ failure, ((start.after earlier).perform call).result = .error failure ∧
      (call.Switches → failure ≠ .trapped .addOverflow) ∧
      (start.after earlier).Failed call failure (start.after (call :: earlier)) := by
  have ensured := perform_ensures (after_wellFormed wellFormed earlier counted.1) call
  cases found : ((start.after earlier).perform call).result with
  | ok answer => exact Or.inl ⟨answer, rfl, ensured.of_ok found⟩
  | error failure =>
      refine Or.inr ⟨failure, rfl, fun switches trapped => ?_, ensured.of_error found⟩
      exact counted.2 switches (trapped ▸ found)

/-- A call that dispatches returns, and any other one belongs to a lull. A switch among those escalates. -/
theorem dispatches_or_lull (wellFormed : start.scheduler.WellFormed)
    (counted : start.Counted Call.Switches (call :: earlier)) :
    (∃ request saved now registers, call = .switch request saved now ∧
      call.tick (start.after earlier).scheduler.currentPid = some now ∧
      ((start.after earlier).perform call).result = .ok (.resumed registers) ∧
      (start.after earlier).scheduler.Switched
        (request.departure (start.after earlier).scheduler.config now) saved now registers
        (start.after (call :: earlier)).scheduler) ∨
    call.tick (start.after earlier).scheduler.currentPid = none ∧
      (call.Switches → ((start.after earlier).perform call).Escalates) ∧
      (start.after earlier).scheduler.Lull (start.after (call :: earlier)).scheduler := by
  cases call with
  | switch request saved now =>
      rcases switch_cases (after_wellFormed wellFormed earlier counted.1) request saved now with
        ⟨registers, returned, allowed, switched⟩ | ⟨failure, lost, overflowed⟩ |
          ⟨escalates, turned, same⟩
      · exact Or.inl ⟨request, saved, now, registers, rfl, if_neg allowed, returned, switched⟩
      · exact absurd (overflowed.trapped ▸ lost) (counted.2 trivial)
      · -- The idle process was turned down, and nothing has happened.
        refine Or.inr ⟨if_pos turned, fun _ => escalates, ?_⟩
        rw [after, same]
        exact .refl _
  | _ =>
      refine Or.inr ⟨rfl, False.elim, ?_⟩
      rcases after_cases wellFormed counted with
        ⟨answer, -, performed⟩ | ⟨failure, -, untrapped, failed⟩
      · exact performed.lull id
      · exact failed.lull untrapped

structure Answered (before : System) (call : Call) : Prop where
  returns : ∀ now, call.tick before.scheduler.currentPid = some now →
    ∃ registers, (before.perform call).result = .ok (.resumed registers)
  escalates : call.Switches → call.tick before.scheduler.currentPid = none →
    (before.perform call).Escalates

theorem answered (wellFormed : start.scheduler.WellFormed) {calls : List Call}
    (counted : start.Counted Call.Switches calls) (latest : Call) (rest : List Call)
    (last : calls = latest :: rest) : (start.after rest).Answered latest := by
  subst last
  rcases dispatches_or_lull wellFormed counted with
    ⟨_, _, now, registers, -, dispatches, returned, -⟩ | ⟨quiet, escalates, -⟩
  · refine ⟨fun _ _ => ⟨registers, returned⟩, fun _ quiet => ?_⟩
    cases dispatches.symm.trans quiet
  · refine ⟨fun _ dispatches => ?_, fun switches _ => escalates switches⟩
    cases dispatches.symm.trans quiet

/-- A run that can still count a switch has counted all of them. -/
theorem counted_of_room (wellFormed : start.scheduler.WellFormed) {calls : List Call}
    (room : (start.after calls).scheduler.switches < Word.max) :
    start.Counted Call.Switches calls := by
  have reached := after_induction wellFormed (start.Counted Call.Switches) trivial
    (fun call answer earlier counted _ found _ => ⟨counted, fun _ => by simp [found]⟩)
    (fun call failure earlier counted _ found untrapped _ =>
      ⟨counted, fun switches trapped => untrapped switches (Except.error.inj (found.symm.trans trapped))⟩)
    calls
  rcases reached with ⟨-, counted⟩ | ⟨stalled, -⟩
  · exact counted
  · -- A scheduler that lost a switch has a full counter from then on.
    exact absurd stalled.full (Nat.not_lt.mpr room)

theorem after_config (wellFormed : start.scheduler.WellFormed) {calls : List Call}
    (counted : start.Counted Call.Switches calls) :
    (start.after calls).scheduler.config = start.scheduler.config := by
  induction calls with
  | nil => rfl
  | cons call earlier ih =>
      rw [← ih counted.1]
      rcases dispatches_or_lull wellFormed counted with
        ⟨_, _, _, _, -, -, -, switched⟩ | ⟨-, -, lull⟩
      · exact switched.config
      · exact lull.config

end System

end MiniKernel
