import MiniKernel.Proofs.Schedule.Twins
import MiniKernel.Proofs.System.Basic

/-! Scheduling does not depend on process data. Two runs that make the same calls take the same course,
whatever registers, names, exit codes, files and page allocators they have. -/

namespace MiniKernel

inductive Request.Matches : Request → Request → Prop
  | same (request) : Matches request request
  | exit (code otherCode) : Matches (.exit code) (.exit otherCode)

theorem Request.Matches.blank {request other : Request} (matched : request.Matches other) :
    Mask.blank.request request = Mask.blank.request other := by
  cases matched <;> rfl

def Call.Aside : Call → Prop
  | editFiles .. => True
  | page _ => True
  | _ => False

namespace System

variable {system left right : System} {call other : Call}

/-- Two runs with the same calls, the latest one first. Creations must both return or both fail; calls
about files and pages may come in one run alone. -/
inductive Paired (left right : System) : List Call → List Call → Prop
  | start : Paired left right [] []
  | creation {earlier others call other} (paired : Paired left right earlier others)
      (creates : call.Creates) (otherCreates : other.Creates)
      (alike : ((left.after earlier).perform call).result.isOk =
        ((right.after others).perform other).result.isOk) :
      Paired left right (call :: earlier) (other :: others)
  | switch {earlier others request otherRequest} (paired : Paired left right earlier others)
      (matched : request.Matches otherRequest) (saved otherSaved now) :
      Paired left right (.switch request saved now :: earlier)
        (.switch otherRequest otherSaved now :: others)
  | reap {earlier others} (paired : Paired left right earlier others) (pid) :
      Paired left right (.reap pid :: earlier) (.reap pid :: others)
  | leftAside {earlier others call} (paired : Paired left right earlier others) (aside : call.Aside) :
      Paired left right (call :: earlier) others
  | rightAside {earlier others call} (paired : Paired left right earlier others) (aside : call.Aside) :
      Paired left right earlier (call :: others)

/-! Every system stays orderly, also one that lost a switch. -/

theorem perform_creation (orderly : system.scheduler.Orderly) (creates : call.Creates) :
    (system.perform call).Ensures
      (fun _ next => ∃ entry kind name slot process, system.scheduler.Created system.memory entry kind
        name slot process next.scheduler next.memory)
      fun _ next => next.scheduler = system.scheduler := by
  obtain ⟨⟨entry, kind, name⟩, asked⟩ := Option.isSome_iff_exists.mp creates
  refine (perform_creates orderly asked).imp ?_ fun _ _ kept => kept.1
  rintro _ _ ⟨slot, process, -, created⟩
  exact ⟨entry, kind, name, slot, process, created⟩

theorem perform_orderly (orderly : system.scheduler.Orderly) (call : Call) :
    (system.perform call).state.scheduler.Orderly := by
  have creation : call.Creates → (system.perform call).state.scheduler.Orderly := by
    intro creates
    have ensured : (system.perform call).Ensures (fun _ next => next.scheduler.Orderly)
        fun _ next => next.scheduler.Orderly := by
      refine (perform_creation orderly creates).imp ?_ ?_
      · rintro _ next ⟨entry, kind, name, slot, process, created⟩
        exact created.orderly orderly
      · intro _ next unchanged
        exact unchanged ▸ orderly
    exact ensured.state
  cases call with
  | spawn entry => exact creation rfl
  | create entry kind name => exact creation rfl
  | switch request saved now => exact (orderly.serve_ensures request saved now).state
  | reap pid => exact orderly.reap system.memory pid
  | editFiles pid change => exact orderly.withFiles pid fun files => ((), change files)
  | page call => exact orderly

theorem after_orderly {start : System} (orderly : start.scheduler.Orderly) (calls : List Call) :
    (start.after calls).scheduler.Orderly := by
  induction calls with
  | nil => exact orderly
  | cons call earlier ih => exact perform_orderly ih call

/-! The two runs. -/

theorem perform_aside (system : System) (aside : call.Aside) :
    (system.perform call).state.scheduler.Twins system.scheduler := by
  cases call with
  | editFiles pid change => exact system.scheduler.withFiles_twins pid fun files => ((), change files)
  | page call => exact rfl
  | _ => cases aside

theorem creation_twins (twins : left.scheduler.Twins right.scheduler)
    (orderly : left.scheduler.Orderly) (otherOrderly : right.scheduler.Orderly)
    (creates : call.Creates) (otherCreates : other.Creates)
    (alike : (left.perform call).result.isOk = (right.perform other).result.isOk) :
    (left.perform call).state.scheduler.Twins (right.perform other).state.scheduler := by
  have ensured := perform_creation orderly creates
  have otherEnsured := perform_creation otherOrderly otherCreates
  cases found : (left.perform call).result <;> cases otherFound : (right.perform other).result <;>
    rw [found, otherFound] at alike
  · have kept := ensured.of_error found
    have otherKept := otherEnsured.of_error otherFound
    rwa [kept, otherKept]
  · cases alike
  · cases alike
  · obtain ⟨_, _, _, _, _, created⟩ := ensured.of_ok found
    obtain ⟨_, _, _, _, _, otherCreated⟩ := otherEnsured.of_ok otherFound
    exact twins.created created otherCreated

theorem Paired.twins {calls others : List Call} (paired : left.Paired right calls others)
    (twins : left.scheduler.Twins right.scheduler) (orderly : left.scheduler.Orderly)
    (otherOrderly : right.scheduler.Orderly) :
    (left.after calls).scheduler.Twins (right.after others).scheduler := by
  -- Each run stays orderly by itself; what happens aside moves one of them only.
  induction paired with
  | start => exact twins
  | creation paired creates otherCreates alike ih =>
      exact creation_twins ih (after_orderly orderly _) (after_orderly otherOrderly _) creates
        otherCreates alike
  | switch paired matched saved otherSaved now ih => exact ih.serve matched.blank saved otherSaved now
  | reap paired pid ih => exact ih.reap _ _ pid
  | leftAside paired aside ih => exact (perform_aside _ aside).trans ih
  | rightAside paired aside ih => exact ih.trans (perform_aside _ aside).symm

/-- Two runs from the same scheduler with paired calls show the same processes running, waiting and
sleeping after every step, also once a switch was lost. -/
theorem after_sameCourse {config : Config} {scheduler : Scheduler}
    (started : (Scheduler.start config).result = .ok scheduler) (memory otherMemory : PageAllocator)
    {calls others : List Call}
    (paired : Paired ⟨scheduler, memory⟩ ⟨scheduler, otherMemory⟩ calls others) :
    (System.after ⟨scheduler, memory⟩ calls).scheduler.SameCourse
      (System.after ⟨scheduler, otherMemory⟩ others).scheduler := by
  obtain ⟨valid, rfl⟩ := (Scheduler.start_ensures config).of_ok started
  have orderly := (Scheduler.wellFormed_initial valid).orderly
  exact (paired.twins rfl orderly orderly).sameCourse

theorem after_sameCourse_strangers :
    let left : System := ⟨.initial {}, .unstarted⟩
    let right : System := ⟨.initial {}, .unstarted⟩
    let calls : List Call := [.switch (.exit 7) {} 2, .switch .dispatch {} 1,
      .spawn ⟨4096, by decide⟩, .page (.start 65536 ⟨4096, by decide⟩)]
    let others : List Call := [.switch (.exit 9) { rax := 5 } 2, .editFiles 1 fun _ => .empty,
      .switch .dispatch { rax := 3 } 1, .create ⟨8192, by decide⟩ .user "shell",
      .page (.start 131072 ⟨8192, by decide⟩)]
    (left.after calls).scheduler.SameCourse (right.after others).scheduler ∧
      (left.after calls).scheduler.table ≠ (right.after others).scheduler.table := by
  intro left right calls others
  have started : (Scheduler.start {}).result = .ok (.initial {}) := rfl
  have paired : left.Paired right calls others := by
    refine .switch (.rightAside (.switch ?_ (.same .dispatch) _ _ _) ?_) (.exit 7 9) _ _ _
    · refine .creation (.leftAside (.rightAside .start ?_) ?_) rfl rfl ?_
      · trivial
      · trivial
      · decide +kernel
    · trivial
  exact ⟨after_sameCourse started .unstarted .unstarted paired, by decide +kernel⟩

end System

end MiniKernel
