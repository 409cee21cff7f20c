import MiniKernel.Proofs.Schedule.Stalled

/-! What the running process may ask the scheduler for. Every request ends in a dispatch, unless the idle
process would stop, or the switch could not be counted. -/

namespace MiniKernel

inductive Request
  | dispatch
  | yieldNow
  | sleep (ms : Nat)
  | exit (code : Int)
  deriving DecidableEq, Repr

namespace Request

def departure (config : Config) (now : Nat) : Request → Departure
  | dispatch => .yields
  | yieldNow => .yields
  | sleep ms => .sleeps (Word.satAdd now (config.ticksFor ms))
  | exit code => .exits code

/-- Whether the process that asks gives up more than its quantum, which the idle process may not. -/
def Stops : Request → Prop
  | sleep _ => True
  | exit _ => True
  | _ => False

instance : DecidablePred Stops
  | dispatch => isFalse id
  | yieldNow => isFalse id
  | sleep _ => isTrue trivial
  | exit _ => isTrue trivial

def Refused : Request → Failure → Prop
  | sleep _, failure => failure = .fatal .idleSleeps
  | exit _, failure => failure = .fatal .idleExits
  | _, _ => False

theorem Refused.fatal {request : Request} {failure : Failure} (refused : request.Refused failure) :
    ∃ violation, failure = .fatal violation := by
  cases request <;> first | exact ⟨_, refused⟩ | exact refused.elim

theorem Refused.stops {request : Request} {failure : Failure} (refused : request.Refused failure) :
    request.Stops := by
  cases request <;> trivial

end Request

namespace Scheduler

def serve (scheduler : Scheduler) (saved : Registers) (now : Nat) :
    Request → Outcome Scheduler Registers
  | .dispatch => scheduler.dispatch saved now
  | .yieldNow => scheduler.yieldNow saved now
  | .sleep ms => scheduler.sleep ms saved now
  | .exit code => scheduler.exit code saved now

/-- Every request is served, unless it comes from the idle process and would stop it. -/
theorem WellFormed.serve_ensures {scheduler : Scheduler} (wellFormed : scheduler.WellFormed)
    (request : Request) (saved : Registers) (now : Nat) :
    (scheduler.serve saved now request).Ensures
      (scheduler.Switched (request.departure scheduler.config now) saved now)
      fun failure next => scheduler.Overflowed failure next ∨
        request.Refused failure ∧ scheduler.current = some 0 ∧ next = scheduler := by
  cases request with
  | dispatch =>
      exact (wellFormed.dispatch_ensures saved now).imp (fun _ _ switched => switched)
        fun _ _ full => Or.inl full
  | yieldNow =>
      exact (wellFormed.dispatch_ensures saved now).imp (fun _ _ switched => switched)
        fun _ _ full => Or.inl full
  | sleep ms => exact wellFormed.sleep_ensures ms saved now
  | exit code => exact wellFormed.exit_ensures code saved now

theorem WellFormed.serve_cases {scheduler : Scheduler} (wellFormed : scheduler.WellFormed)
    (request : Request) (saved : Registers) (now : Nat) :
    (∃ registers, (scheduler.serve saved now request).result = .ok registers ∧
      (request.Stops → scheduler.currentPid ≠ idlePid) ∧
      scheduler.Switched (request.departure scheduler.config now) saved now registers
        (scheduler.serve saved now request).state) ∨
    ∃ failure, (scheduler.serve saved now request).result = .error failure ∧
      (scheduler.Overflowed failure (scheduler.serve saved now request).state ∨
        request.Refused failure ∧ request.Stops ∧ scheduler.currentPid = idlePid ∧
          (scheduler.serve saved now request).state = scheduler) := by
  have ensured := wellFormed.serve_ensures request saved now
  cases found : (scheduler.serve saved now request).result with
  | ok registers =>
      refine Or.inl ⟨registers, rfl, fun stops idle => ?_, ensured.of_ok found⟩
      obtain ⟨slot, process, chosen, coherent, -, leaves, -⟩ := ensured.of_ok found
      obtain ⟨idler, held, pid, -⟩ := coherent.idle
      have current := (coherent.currentPid_eq_iff held).mp (idle.trans pid.symm)
      rw [coherent.occupied.current, Option.some.injEq] at current
      have yields := leaves.resolve_right fun away => away current
      cases request <;> first | exact False.elim stops | cases yields
  | error failure =>
      refine Or.inr ⟨failure, rfl, (ensured.of_error found).imp id ?_⟩
      rintro ⟨refused, current, same⟩
      obtain ⟨slot, process, coherent, -⟩ := wellFormed
      obtain ⟨idler, held, pid, -⟩ := coherent.idle
      exact ⟨refused, refused.stops, ((coherent.currentPid_eq_iff held).mpr current).trans pid, same⟩

theorem Stalled.serve_ensures {scheduler : Scheduler} (stalled : scheduler.Stalled)
    (request : Request) (saved : Registers) (now : Nat) :
    (scheduler.serve saved now request).Ensures (fun _ _ => False) fun _ => Stalled := by
  cases request with
  | dispatch => exact stalled.dispatch_ensures saved now
  | yieldNow => exact stalled.dispatch_ensures saved now
  | sleep ms => exact stalled.sleep_ensures ms saved now
  | exit code => exact stalled.exit_ensures code saved now

end Scheduler

end MiniKernel
