import MiniKernel.Outcome

/-! What an operation guarantees, whether it returns or fails: the reached state is described in
both cases, and a chain of operations is described link by link. -/

namespace MiniKernel.Outcome

variable {σ τ α β : Type}

/-- The reached state satisfies `returned` together with the value, or `failed` together with the
failure. -/
def Ensures (outcome : Outcome σ α) (returned : α → σ → Prop) (failed : Failure → σ → Prop) : Prop :=
  match outcome.result with
  | .ok value => returned value outcome.state
  | .error failure => failed failure outcome.state

variable {returned returned' : α → σ → Prop} {failed failed' : Failure → σ → Prop}

@[simp]
theorem ensures_done (state : σ) (value : α) :
    (done state value).Ensures returned failed ↔ returned value state := Iff.rfl

@[simp]
theorem ensures_fail (state : σ) (failure : Failure) :
    (fail state failure : Outcome σ α).Ensures returned failed ↔ failed failure state := Iff.rfl

@[simp]
theorem ensures_refuse (state : σ) (refusal : Refusal) :
    (refuse state refusal : Outcome σ α).Ensures returned failed ↔ failed (.refused refusal) state :=
  Iff.rfl

@[simp]
theorem ensures_fatal (state : σ) (violation : Violation) :
    (fatal state violation : Outcome σ α).Ensures returned failed ↔ failed (.fatal violation) state :=
  Iff.rfl

@[simp]
theorem ensures_trap (state : σ) (cause : Trap) :
    (trap state cause : Outcome σ α).Ensures returned failed ↔ failed (.trapped cause) state :=
  Iff.rfl

@[simp]
theorem ensures_after (event : Event) (rest : Outcome σ α) :
    (after event rest).Ensures returned failed ↔ rest.Ensures returned failed := Iff.rfl

theorem ensures_andThen (first : Outcome σ α) (next : α → σ → Outcome σ β)
    {returned : β → σ → Prop} {failed : Failure → σ → Prop} :
    (first.andThen next).Ensures returned failed ↔
      first.Ensures (fun value state => (next value state).Ensures returned failed) failed := by
  obtain ⟨state, result, log⟩ := first
  cases result <;> rfl

theorem ensures_andThen_of_ok {first : Outcome σ α} {value : α} (found : first.result = .ok value)
    (next : α → σ → Outcome σ β) {returned : β → σ → Prop} {failed : Failure → σ → Prop} :
    (first.andThen next).Ensures returned failed ↔
      (next value first.state).Ensures returned failed := by
  rw [ensures_andThen, Ensures, found]

@[simp]
theorem ensures_map (f : α → β) (outcome : Outcome σ α)
    {returned : β → σ → Prop} {failed : Failure → σ → Prop} :
    (outcome.map f).Ensures returned failed ↔
      outcome.Ensures (fun value state => returned (f value) state) failed := by
  obtain ⟨state, result, log⟩ := outcome
  cases result <;> rfl

@[simp]
theorem ensures_within (f : σ → τ) (outcome : Outcome σ α)
    {returned : α → τ → Prop} {failed : Failure → τ → Prop} :
    (outcome.within f).Ensures returned failed ↔
      outcome.Ensures (fun value state => returned value (f state))
        (fun failure state => failed failure (f state)) := Iff.rfl

theorem ensures_ofMachine (state : σ) (computed : Except Trap α) :
    (ofMachine state computed).Ensures returned failed ↔
      (∀ value, computed = .ok value → returned value state) ∧
        ∀ cause, computed = .error cause → failed (.trapped cause) state := by
  cases computed <;> simp [ofMachine]

theorem ensures_ofContract (state : σ) (checked : Except Violation α) :
    (ofContract state checked).Ensures returned failed ↔
      (∀ value, checked = .ok value → returned value state) ∧
        ∀ violation, checked = .error violation → failed (.fatal violation) state := by
  cases checked <;> simp [ofContract]

theorem ofContract_ok_iff {state : σ} {checked : Except Violation α} {value : α} :
    (ofContract state checked).result = .ok value ↔ checked = .ok value := by
  cases checked <;> simp [ofContract, done, fatal, fail]

theorem Ensures.imp {outcome : Outcome σ α} (ensured : outcome.Ensures returned failed)
    (onReturn : ∀ value state, returned value state → returned' value state)
    (onFailure : ∀ failure state, failed failure state → failed' failure state) :
    outcome.Ensures returned' failed' := by
  unfold Ensures at ensured ⊢
  split <;> rename_i found <;> rw [found] at ensured
  · exact onReturn _ _ ensured
  · exact onFailure _ _ ensured

theorem ensures_iff {outcome : Outcome σ α} : outcome.Ensures returned failed ↔
    (∀ value, outcome.result = .ok value → returned value outcome.state) ∧
      ∀ failure, outcome.result = .error failure → failed failure outcome.state := by
  unfold Ensures
  cases outcome.result <;> simp

theorem Ensures.of_ok {outcome : Outcome σ α} (ensured : outcome.Ensures returned failed)
    {value : α} (found : outcome.result = .ok value) : returned value outcome.state :=
  (ensures_iff.mp ensured).1 value found

theorem Ensures.of_error {outcome : Outcome σ α} (ensured : outcome.Ensures returned failed)
    {failure : Failure} (found : outcome.result = .error failure) : failed failure outcome.state :=
  (ensures_iff.mp ensured).2 failure found

theorem Ensures.state {outcome : Outcome σ α} {property : σ → Prop}
    (ensured : outcome.Ensures (fun _ => property) fun _ => property) : property outcome.state := by
  unfold Ensures at ensured
  split at ensured <;> exact ensured

def Escalates (outcome : Outcome σ α) : Prop := ∃ violation, outcome.result = .error (.fatal violation)

theorem Escalates.result_ne {outcome : Outcome σ α} (escalates : outcome.Escalates)
    {result : Except Failure α} (other : ∀ violation, result ≠ .error (.fatal violation)) :
    outcome.result ≠ result := by
  obtain ⟨violation, found⟩ := escalates
  exact fun same => other violation (same.symm.trans found)

/-! Two operations that go the same way, on states that differ. -/

variable {f : σ → τ} {γ δ : Type} {g : α → β} {h : γ → δ}

/-- One operation ends as another one does, seen through maps of states and values. What they log may
differ. -/
structure Mirrors (f : σ → τ) (g : α → β) (outcome : Outcome σ α) (image : Outcome τ β) : Prop where
  state : image.state = f outcome.state
  result : image.result = outcome.result.map g

theorem mirrors_done (state : σ) (value : α) :
    Mirrors f g (done state value) (done (f state) (g value)) := ⟨rfl, rfl⟩

theorem mirrors_fail (state : σ) (failure : Failure) :
    Mirrors f g (fail state failure) (fail (f state) failure) := ⟨rfl, rfl⟩

theorem mirrors_ofMachine (state : σ) (computed : Except Trap α) :
    Mirrors f id (ofMachine state computed) (ofMachine (f state) computed) := by
  cases computed <;> exact ⟨rfl, rfl⟩

theorem mirrors_ofContract (state : σ) (checked : Except Violation α) :
    Mirrors f g (ofContract state checked) (ofContract (f state) (checked.map g)) := by
  cases checked <;> exact ⟨rfl, rfl⟩

theorem Mirrors.after {outcome : Outcome σ α} {image : Outcome τ β}
    (mirrors : Mirrors f g outcome image) (event imageEvent : Event) :
    Mirrors f g (outcome.after event) (image.after imageEvent) := ⟨mirrors.state, mirrors.result⟩

theorem Mirrors.andThen {first : Outcome σ α} {image : Outcome τ β} (mirrors : Mirrors f g first image)
    {next : α → σ → Outcome σ γ} {imageNext : β → τ → Outcome τ δ}
    (rest : ∀ value, first.result = .ok value →
      Mirrors f h (next value first.state) (imageNext (g value) (f first.state))) :
    Mirrors f h (first.andThen next) (image.andThen imageNext) := by
  obtain ⟨state, result, log⟩ := first
  obtain ⟨imageState, imageResult, imageLog⟩ := image
  obtain rfl : imageState = f state := mirrors.state
  obtain rfl : imageResult = result.map g := mirrors.result
  cases result with
  | error failure => exact ⟨rfl, rfl⟩
  | ok value => exact ⟨(rest value rfl).state, (rest value rfl).result⟩

end MiniKernel.Outcome
