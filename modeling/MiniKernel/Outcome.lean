import MiniKernel.Failure
import MiniKernel.Log.Event

/-!
What an operation leaves: the state, also when it failed, its result, and the events it logged on
the way. A failure is not a rollback. The state of a failed operation is the one it had reached.
-/

namespace MiniKernel

structure Outcome (σ α : Type) where
  state : σ
  result : Except Failure α
  log : List Event

namespace Outcome

variable {σ τ α β : Type}

def done (state : σ) (value : α) : Outcome σ α := ⟨state, .ok value, []⟩

def fail (state : σ) (failure : Failure) : Outcome σ α := ⟨state, .error failure, []⟩

def refuse (state : σ) (refusal : Refusal) : Outcome σ α := fail state (.refused refusal)

def fatal (state : σ) (violation : Violation) : Outcome σ α := fail state (.fatal violation)

def trap (state : σ) (trap : Trap) : Outcome σ α := fail state (.trapped trap)

def ofMachine (state : σ) : Except Trap α → Outcome σ α
  | .ok value => done state value
  | .error cause => trap state cause

def ofContract (state : σ) : Except Violation α → Outcome σ α
  | .ok value => done state value
  | .error violation => fatal state violation

def after (event : Event) (rest : Outcome σ α) : Outcome σ α :=
  { rest with log := event :: rest.log }

/-- Goes on from the reached state with the value; a failure ends the operation there. -/
def andThen (first : Outcome σ α) (next : α → σ → Outcome σ β) : Outcome σ β :=
  match first.result with
  | .ok value =>
      let rest := next value first.state
      { rest with log := first.log ++ rest.log }
  | .error failure => ⟨first.state, .error failure, first.log⟩

def map (f : α → β) (outcome : Outcome σ α) : Outcome σ β :=
  ⟨outcome.state, outcome.result.map f, outcome.log⟩

/-- Sees the state of a part as a state of the whole. -/
def within (f : σ → τ) (outcome : Outcome σ α) : Outcome τ α :=
  ⟨f outcome.state, outcome.result, outcome.log⟩

/-! An outcome that is known is unfolded step by step. -/

@[simp]
theorem done_andThen (state : σ) (value : α) (next : α → σ → Outcome σ β) :
    (done state value).andThen next = next value state := rfl

@[simp]
theorem fail_andThen (state : σ) (failure : Failure) (next : α → σ → Outcome σ β) :
    (fail state failure).andThen next = fail state failure := rfl

@[simp]
theorem after_andThen (event : Event) (rest : Outcome σ α) (next : α → σ → Outcome σ β) :
    (after event rest).andThen next = after event (rest.andThen next) := by
  obtain ⟨state, result, log⟩ := rest
  cases result <;> rfl

@[simp]
theorem map_done (f : α → β) (state : σ) (value : α) :
    (done state value).map f = done state (f value) := rfl

@[simp]
theorem map_fail (f : α → β) (state : σ) (failure : Failure) :
    (fail state failure : Outcome σ α).map f = fail state failure := rfl

@[simp]
theorem within_done (f : σ → τ) (state : σ) (value : α) :
    (done state value).within f = done (f state) value := rfl

@[simp]
theorem within_fail (f : σ → τ) (state : σ) (failure : Failure) :
    (fail state failure : Outcome σ α).within f = fail (f state) failure := rfl

@[simp]
theorem state_after (event : Event) (rest : Outcome σ α) : (after event rest).state = rest.state := rfl

@[simp]
theorem result_after (event : Event) (rest : Outcome σ α) :
    (after event rest).result = rest.result := rfl

end Outcome

end MiniKernel
