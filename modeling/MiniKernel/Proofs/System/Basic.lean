import MiniKernel.Proofs.Page.Run
import MiniKernel.Proofs.Schedule.Request

/-! Runs of the scheduler and the page allocator together. Any call may follow any other one, and a
call that fails is a step of the run like every other. -/

namespace MiniKernel

structure System where
  scheduler : Scheduler
  memory : PageAllocator

inductive Call
  | spawn (entry : VirtAddr)
  | create (entry : VirtAddr) (kind : ProcessKind) (name : String)
  | switch (request : Request) (saved : Registers) (now : Nat)
  | reap (pid : Pid)
  | editFiles (pid : Pid) (change : Descriptors → Descriptors)
  | page (call : PageCall)

inductive Answer
  | created (pid : Pid)
  | resumed (registers : Registers)
  | reaped (info : Snapshot)
  | edited (found : Bool)
  | page (base : Option PhysAddr)
  deriving DecidableEq, Repr

def Call.creates : Call → Option (VirtAddr × ProcessKind × String)
  | spawn entry => some (entry, .kernelThread, "kthread")
  | create entry kind name => some (entry, kind, name)
  | _ => none

namespace System

def perform (system : System) : Call → Outcome System Answer
  | .spawn entry =>
      ((system.scheduler.spawn system.memory entry).within fun (scheduler, memory) =>
        ⟨scheduler, memory⟩).map .created
  | .create entry kind name =>
      ((system.scheduler.create system.memory entry kind name).within fun (scheduler, memory) =>
        ⟨scheduler, memory⟩).map .created
  | .switch request saved now =>
      ((system.scheduler.serve saved now request).within fun scheduler =>
        { system with scheduler }).map .resumed
  | .reap pid =>
      ((system.scheduler.reap system.memory pid).outcome.within fun (scheduler, memory) =>
        ⟨scheduler, memory⟩).map .reaped
  | .editFiles pid change =>
      let (value, scheduler) := system.scheduler.withFiles pid fun files => ((), change files)
      .done { system with scheduler } (.edited value.isSome)
  | .page call =>
      ((system.memory.perform call).within fun memory => { system with memory }).map .page

inductive Performed (before : System) : Call → Answer → System → Prop
  | created {call entry kind name slot process} {after : System}
      (creates : call.creates = some (entry, kind, name))
      (created : before.scheduler.Created before.memory entry kind name slot process
        after.scheduler after.memory) :
      Performed before call (.created process.pid) after
  | switched {request saved now registers scheduler}
      (switched : before.scheduler.Switched (request.departure before.scheduler.config now) saved now
        registers scheduler) :
      Performed before (.switch request saved now) (.resumed registers) { before with scheduler }
  | reaped {pid slot process} (exited : before.scheduler.table.Exited pid slot process)
      (freed : (before.scheduler.table.freeStacks before.memory process).result = .ok ()) :
      Performed before (.reap pid)
        (.reaped { before.scheduler.table.snapshotOf process with state := .dead })
        { scheduler := { before.scheduler with table := before.scheduler.table.clear slot }
          memory := (before.scheduler.table.freeStacks before.memory process).state }
  | edited (pid change) : Performed before (.editFiles pid change)
      (.edited (before.scheduler.withFiles pid fun files => ((), change files)).1.isSome)
      { before with
        scheduler := (before.scheduler.withFiles pid fun files => ((), change files)).2 }
  | page {call base} (performed : (before.memory.perform call).result = .ok base) :
      Performed before (.page call) (.page base)
        { before with memory := (before.memory.perform call).state }

/-- What a call that failed left. Only a reap that lost the stacks, and a creation that ran out of
something on its way, may have changed anything. -/
inductive Failed (before : System) : Call → Failure → System → Prop
  | uncreated {call entry kind name failure left} (creates : call.creates = some (entry, kind, name))
      (uncreated : before.scheduler.table.Uncreated before.memory entry kind failure left) :
      Failed before call failure { before with memory := left }
  | overflowed {request saved now failure scheduler}
      (overflowed : before.scheduler.Overflowed failure scheduler) :
      Failed before (.switch request saved now) failure { before with scheduler }
  | refused {request saved now failure} (refused : request.Refused failure)
      (idle : before.scheduler.current = some 0) :
      Failed before (.switch request saved now) failure before
  | unreaped {pid failure} (unreaped : before.scheduler.table.Unreaped pid failure) :
      Failed before (.reap pid) failure before
  | lost {pid slot process failure} (exited : before.scheduler.table.Exited pid slot process)
      (stuck : (before.scheduler.table.freeStacks before.memory process).result = .error failure) :
      Failed before (.reap pid) failure
        { scheduler := { before.scheduler with table := before.scheduler.table.clear slot }
          memory := (before.scheduler.table.freeStacks before.memory process).state }
  | page {call failure} (failed : (before.memory.perform call).result = .error failure) :
      Failed before (.page call) failure
        { before with memory := (before.memory.perform call).state }

theorem perform_creates {system : System} (orderly : system.scheduler.Orderly) {call : Call}
    {entry : VirtAddr} {kind : ProcessKind} {name : String}
    (creates : call.creates = some (entry, kind, name)) :
    (system.perform call).Ensures
      (fun answer next => ∃ slot process, answer = .created process.pid ∧
        system.scheduler.Created system.memory entry kind name slot process next.scheduler next.memory)
      fun failure next => next.scheduler = system.scheduler ∧
        system.scheduler.table.Uncreated system.memory entry kind failure next.memory := by
  have performed : system.perform call =
      ((system.scheduler.create system.memory entry kind name).within fun (scheduler, memory) =>
        (⟨scheduler, memory⟩ : System)).map .created := by
    cases call <;> cases creates <;> rfl
  rw [performed, Outcome.ensures_map, Outcome.ensures_within]
  refine (orderly.create_ensures system.memory entry kind name).imp ?_ fun _ _ failed => failed
  rintro pid ⟨scheduler, memory⟩ ⟨rfl, slot, process, created⟩
  exact ⟨slot, process, congrArg Answer.created created.pid.symm, created⟩

theorem create_ensures {system : System} (orderly : system.scheduler.Orderly) {call : Call}
    {entry : VirtAddr} {kind : ProcessKind} {name : String}
    (creates : call.creates = some (entry, kind, name)) :
    (system.perform call).Ensures (system.Performed call) (system.Failed call) := by
  refine (perform_creates orderly creates).imp ?_ ?_
  · rintro _ ⟨scheduler, memory⟩ ⟨slot, process, rfl, created⟩
    exact .created creates created
  · rintro failure ⟨scheduler, memory⟩ ⟨rfl, uncreated⟩
    exact .uncreated creates uncreated

theorem perform_ensures {system : System} (wellFormed : system.scheduler.WellFormed) (call : Call) :
    (system.perform call).Ensures (system.Performed call) (system.Failed call) := by
  cases call with
  | spawn entry => exact create_ensures wellFormed.orderly rfl
  | create entry kind name => exact create_ensures wellFormed.orderly rfl
  | switch request saved now =>
      rw [perform, Outcome.ensures_map, Outcome.ensures_within]
      refine (wellFormed.serve_ensures request saved now).imp ?_ ?_
      · intro registers scheduler switched
        exact .switched switched
      · rintro failure scheduler (overflowed | ⟨refused, idle, rfl⟩)
        · exact .overflowed overflowed
        · exact .refused refused idle
  | reap pid =>
      rw [perform, Outcome.ensures_map, Outcome.ensures_within]
      rcases system.scheduler.reap_ensures system.memory pid with
        ⟨slot, process, exited, -, ensured⟩ | ⟨-, ensured⟩
      · refine ensured.imp ?_ ?_
        · rintro info next ⟨rfl, freed, rfl⟩
          exact .reaped exited freed
        · rintro failure next ⟨rfl, stuck⟩
          exact .lost exited stuck
      · refine ensured.imp (fun _ _ impossible => impossible.elim) ?_
        rintro failure next ⟨rfl, unreaped⟩
        exact .unreaped unreaped
  | editFiles pid change => exact .edited pid change
  | page call =>
      rw [perform, Outcome.ensures_map, Outcome.ensures_within]
      rw [Outcome.ensures_iff]
      exact ⟨fun base performed => .page performed, fun failure failed => .page failed⟩

/-- A switch returns, cannot be counted, or escalates since the idle process would stop. -/
theorem switch_cases {system : System} (wellFormed : system.scheduler.WellFormed) (request : Request)
    (saved : Registers) (now : Nat) :
    (∃ registers, (system.perform (.switch request saved now)).result = .ok (.resumed registers) ∧
      ¬ (request.Stops ∧ system.scheduler.currentPid = idlePid) ∧
      system.scheduler.Switched (request.departure system.scheduler.config now) saved now registers
        (system.perform (.switch request saved now)).state.scheduler) ∨
    (∃ failure, (system.perform (.switch request saved now)).result = .error failure ∧
      system.scheduler.Overflowed failure
        (system.perform (.switch request saved now)).state.scheduler) ∨
    (system.perform (.switch request saved now)).Escalates ∧
      (request.Stops ∧ system.scheduler.currentPid = idlePid) ∧
      (system.perform (.switch request saved now)).state = system := by
  have answer : (system.perform (.switch request saved now)).result =
      (system.scheduler.serve saved now request).result.map .resumed := rfl
  rcases wellFormed.serve_cases request saved now with
    ⟨registers, served, willing, switched⟩ |
      ⟨failure, unserved, overflowed | ⟨refused, stops, idle, same⟩⟩
  · rw [answer, served]
    exact Or.inl ⟨registers, rfl, fun ⟨stops, idle⟩ => willing stops idle, switched⟩
  · rw [answer, unserved]
    exact Or.inr (Or.inl ⟨failure, rfl, overflowed⟩)
  · obtain ⟨violation, rfl⟩ := refused.fatal
    refine Or.inr (Or.inr ⟨⟨violation, ?_⟩, ⟨stops, idle⟩, ?_⟩)
    · rw [answer, unserved]
      rfl
    · exact congrArg (fun scheduler => { system with scheduler }) same

def after (start : System) : List Call → System
  | [] => start
  | call :: earlier => ((start.after earlier).perform call).state

/-- None of the calls of a kind drove a counter out of its range. -/
def Counted (start : System) (kind : Call → Prop) : List Call → Prop
  | [] => True
  | call :: earlier => start.Counted kind earlier ∧
      (kind call → ((start.after earlier).perform call).result ≠ .error (.trapped .addOverflow))

end System

def Call.Switches : Call → Prop
  | switch .. => True
  | _ => False

def Call.Creates (call : Call) : Prop := call.creates.isSome = true

namespace System

theorem Performed.wellFormed {before after : System} {call : Call} {answer : Answer}
    (performed : before.Performed call answer after) (wellFormed : before.scheduler.WellFormed) :
    after.scheduler.WellFormed := by
  cases performed with
  | created _ created => exact created.wellFormed wellFormed
  | switched switched => exact switched.wellFormed
  | reaped exited _ => exact wellFormed.clear exited.holds exited.zombie
  | edited pid change => exact wellFormed.withFiles pid _
  | page _ => exact wellFormed

theorem Failed.wellFormed {before after : System} {call : Call} {failure : Failure}
    (failed : before.Failed call failure after) (wellFormed : before.scheduler.WellFormed)
    (counted : call.Switches → failure ≠ .trapped .addOverflow) : after.scheduler.WellFormed := by
  cases failed with
  | uncreated => exact wellFormed
  | overflowed overflowed => exact absurd overflowed.trapped (counted trivial)
  | refused => exact wellFormed
  | unreaped => exact wellFormed
  | lost exited _ => exact wellFormed.clear exited.holds exited.zombie
  | page => exact wellFormed

theorem Failed.stalled {before after : System} {call : Call} {failure : Failure}
    (failed : before.Failed call failure after) (switches : call.Switches)
    (trapped : failure = .trapped .addOverflow) : after.scheduler.Stalled := by
  cases call with
  | switch request saved now =>
      cases failed with
      | uncreated creates => cases creates
      | overflowed overflowed => exact overflowed.stalled
      | refused refused =>
          subst trapped
          cases request <;> cases refused
  | _ => cases switches

theorem perform_stalled {system : System} (stalled : system.scheduler.Stalled) (call : Call) :
    (system.perform call).Ensures (fun _ next => ¬ call.Switches ∧ next.scheduler.Stalled)
      fun _ next => next.scheduler.Stalled := by
  cases call with
  | spawn entry =>
      rw [perform, Outcome.ensures_map, Outcome.ensures_within]
      exact (stalled.create_ensures ..).imp (fun _ _ kept => ⟨id, kept⟩) fun _ _ kept => kept
  | create entry kind name =>
      rw [perform, Outcome.ensures_map, Outcome.ensures_within]
      exact (stalled.create_ensures ..).imp (fun _ _ kept => ⟨id, kept⟩) fun _ _ kept => kept
  | switch request saved now =>
      rw [perform, Outcome.ensures_map, Outcome.ensures_within]
      exact (stalled.serve_ensures request saved now).imp (fun _ _ impossible => impossible.elim)
        fun _ _ kept => kept
  | reap pid =>
      rw [perform, Outcome.ensures_map, Outcome.ensures_within]
      exact (stalled.reap_ensures ..).imp (fun _ _ kept => ⟨id, kept⟩) fun _ _ kept => kept
  | editFiles pid change => exact ⟨id, stalled.withFiles pid fun files => ((), change files)⟩
  | page call =>
      rw [perform, Outcome.ensures_map, Outcome.ensures_within]
      exact Outcome.ensures_iff.mpr ⟨fun _ _ => ⟨id, stalled⟩, fun _ _ => stalled⟩

/-- What holds at the start and is kept by every step that finds the scheduler in shape holds after
every run, unless a switch on the way could not be counted. -/
theorem after_induction {start : System} (wellFormed : start.scheduler.WellFormed)
    (property : List Call → Prop) (initially : property [])
    (performed : ∀ call answer earlier, property earlier →
      (start.after earlier).scheduler.WellFormed →
      ((start.after earlier).perform call).result = .ok answer →
      (start.after earlier).Performed call answer (start.after (call :: earlier)) →
      property (call :: earlier))
    (failed : ∀ call failure earlier, property earlier →
      (start.after earlier).scheduler.WellFormed →
      ((start.after earlier).perform call).result = .error failure →
      (call.Switches → failure ≠ .trapped .addOverflow) →
      (start.after earlier).Failed call failure (start.after (call :: earlier)) →
      property (call :: earlier))
    (calls : List Call) :
    (start.after calls).scheduler.WellFormed ∧ property calls ∨
      (start.after calls).scheduler.Stalled ∧ ¬ start.Counted Call.Switches calls := by
  induction calls with
  | nil => exact Or.inl ⟨wellFormed, initially⟩
  | cons call earlier ih =>
      rcases ih with ⟨shape, held⟩ | ⟨stalled, uncounted⟩
      · have ensured := perform_ensures shape call
        cases found : ((start.after earlier).perform call).result with
        | ok answer =>
            have step := ensured.of_ok found
            exact Or.inl ⟨step.wellFormed shape, performed call answer earlier held shape found step⟩
        | error failure =>
            have step := ensured.of_error found
            by_cases overflow : call.Switches ∧ failure = .trapped .addOverflow
            · refine Or.inr ⟨step.stalled overflow.1 overflow.2, fun counted => ?_⟩
              exact counted.2 overflow.1 (overflow.2 ▸ found)
            · have counts : call.Switches → failure ≠ .trapped .addOverflow :=
                fun switches trapped => overflow ⟨switches, trapped⟩
              exact Or.inl ⟨step.wellFormed shape counts,
                failed call failure earlier held shape found counts step⟩
      · have ensured := (perform_stalled stalled call).imp (fun _ _ kept => kept.2) fun _ _ kept => kept
        exact Or.inr ⟨ensured.state, fun counted => uncounted counted.1⟩

/-- Every run leaves the scheduler in shape, or without a processor if a switch could not be counted. -/
theorem after_shape {start : System} (wellFormed : start.scheduler.WellFormed) (calls : List Call) :
    (start.after calls).scheduler.WellFormed ∨
      (start.after calls).scheduler.Stalled ∧ ¬ start.Counted Call.Switches calls := by
  have reached := after_induction wellFormed (fun _ => True) trivial (fun _ _ _ _ _ _ _ => trivial)
    (fun _ _ _ _ _ _ _ _ => trivial) calls
  exact reached.imp And.left id

theorem after_wellFormed {start : System} (wellFormed : start.scheduler.WellFormed)
    (calls : List Call) (counted : start.Counted Call.Switches calls) :
    (start.after calls).scheduler.WellFormed :=
  (after_shape wellFormed calls).resolve_right fun stalled => stalled.2 counted

end System

end MiniKernel
