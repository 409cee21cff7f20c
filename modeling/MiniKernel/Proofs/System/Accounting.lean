import MiniKernel.Proofs.System.Ownership

/-! The page accounts of a run. Direct callers give back what they were granted and nothing else;
then every allocated page has one owner, and the count of used pages is the sum of the shares. -/

namespace MiniKernel

namespace System

def reservedPages (start : System) : List Call → Finset Nat
  | [] => ∅
  | .page call :: earlier =>
      start.reservedPages earlier ∪ call.reserved ((start.after earlier).memory.perform call).result
  | _ :: earlier => start.reservedPages earlier

def heldPages (start : System) : List Call → Finset Nat
  | [] => ∅
  | .page call :: earlier =>
      let result := ((start.after earlier).memory.perform call).result
      (start.heldPages earlier ∪ call.granted result) \ call.released result
  | _ :: earlier => start.heldPages earlier

/-- Every page of the allocator has an address, and a direct free that succeeds takes back only
pages that direct callers hold. -/
def Tidy (start : System) : List Call → Prop
  | [] => True
  | .page call :: earlier => start.Tidy earlier ∧ call.Addressable ∧
      call.released ((start.after earlier).memory.perform call).result ⊆ start.heldPages earlier
  | _ :: earlier => start.Tidy earlier

def Balanced (start : System) (config : Config) (calls : List Call) : Prop :=
  start.Tidy calls → start.Counted Call.Creates calls →
    Accounted config (start.reservedPages calls) (start.heldPages calls)
      (start.after calls).scheduler.table (start.after calls).memory

variable {start : System} {config : Config} {earlier : List Call}

theorem Balanced.step {call : Call} (balanced : start.Balanced config earlier)
    (indirect : ∀ direct, call ≠ .page direct)
    (kept : Accounted config (start.reservedPages earlier) (start.heldPages earlier)
        (start.after earlier).scheduler.table (start.after earlier).memory →
      (call.Creates → ((start.after earlier).perform call).result ≠ .error (.trapped .addOverflow)) →
      Accounted config (start.reservedPages earlier) (start.heldPages earlier)
        (start.after (call :: earlier)).scheduler.table (start.after (call :: earlier)).memory) :
    start.Balanced config (call :: earlier) := by
  intro tidy counted
  cases call with
  | page direct => exact absurd rfl (indirect direct)
  | _ => exact kept (balanced tidy counted.1) counted.2

theorem Balanced.performed {call : Call} {answer : Answer} (balanced : start.Balanced config earlier)
    (wellFormed : (start.after earlier).scheduler.WellFormed)
    (performed : (start.after earlier).Performed call answer (start.after (call :: earlier))) :
    start.Balanced config (call :: earlier) := by
  obtain ⟨current, runner, coherent, running⟩ := wellFormed
  generalize reached : start.after (call :: earlier) = after at performed
  cases performed with
  | @created call entry kind name slot process _ creates created =>
      refine balanced.step (by rintro direct rfl; cases creates) fun accounted _ => ?_
      rw [reached]
      obtain ⟨footing, footed, born⟩ := created.born
      have given := (ProcessTable.allocFooting_ensures _ accounted.sound entry kind).of_ok footed
      rw [← created.pages] at given
      have lives := created.pid_ne_idle coherent
      obtain ⟨kernelPages, userPages⟩ := accounted.sizes
      have ofKind : process.kind = kind := by rw [born]; rfl
      have endowed : config.Endowed process (start.after earlier).memory _ :=
        Config.endowed_of_footed (ofKind ▸ given) kernelPages userPages lives (by rw [born]; rfl)
          (by rw [born]; rfl)
      exact accounted.created endowed (ProcessTable.freeSlot?_some created.vacant).2.1 created.get?
        (by rw [created.table]; rfl)
  | @switched request saved now registers scheduler switched =>
      refine balanced.step (by simp) fun accounted _ => ?_
      rw [reached]
      exact accounted.congr (fun slot => ControlBlock.grounds_of_fixed (switched.fixed slot))
        (by rw [switched.table])
  | @reaped pid slot process exited freed =>
      refine balanced.step (by simp) fun accounted _ => ?_
      rw [reached]
      have lives := coherent.pid_ne_idle exited.holds exited.zombie
      have owns := accounted.owns exited.holds lives
      exact accounted.reaped exited.holds lives
        ((ProcessTable.freeStacks_ensures accounted.sound owns).of_ok freed)
  | edited pid change =>
      refine balanced.step (by simp) fun accounted _ => ?_
      rw [reached]
      refine accounted.congr (fun slot => ?_) (by rw [(Scheduler.withFiles_frame ..).2.1])
      rw [Scheduler.get?_withFiles, Option.map_map]
      rfl
  | @page call base returned =>
      rintro ⟨tidy, addressable, own⟩ ⟨counted, -⟩
      rw [reached]
      have performed := (PageAllocator.perform_ensures (balanced tidy counted).sound
        addressable).of_ok returned
      rw [returned] at own
      simp only [reservedPages, heldPages, returned]
      exact (balanced tidy counted).paged performed own

theorem Balanced.failed {call : Call} {failure : Failure} (balanced : start.Balanced config earlier)
    (wellFormed : (start.after earlier).scheduler.WellFormed)
    (found : ((start.after earlier).perform call).result = .error failure)
    (counted : call.Switches → failure ≠ .trapped .addOverflow)
    (failed : (start.after earlier).Failed call failure (start.after (call :: earlier))) :
    start.Balanced config (call :: earlier) := by
  obtain ⟨current, runner, coherent, running⟩ := wellFormed
  generalize reached : start.after (call :: earlier) = after at failed
  cases failed with
  | @uncreated call entry kind name failure left creates uncreated =>
      refine balanced.step (by rintro direct rfl; cases creates) fun accounted numbered => ?_
      rw [reached]
      have ensured := ProcessTable.allocFooting_ensures (start.after earlier).scheduler.table
        accounted.sound entry kind
      rcases uncreated with ⟨-, -, rfl⟩ | ⟨-, rfl, unfooted | ⟨-, rfl, -⟩⟩
      · exact accounted
      · rcases ensured.of_error unfooted with ⟨-, -, restored⟩ | ⟨-, -, same⟩
        · exact accounted.restored restored
        · rw [same]
          exact accounted
      · exact absurd found (numbered (by simp [Call.Creates, creates]))
  | overflowed overflowed => exact absurd overflowed.trapped (counted trivial)
  | refused refused idle =>
      refine balanced.step (by simp) fun accounted _ => ?_
      rwa [reached]
  | unreaped unreaped =>
      refine balanced.step (by simp) fun accounted _ => ?_
      rwa [reached]
  | lost exited stuck =>
      refine balanced.step (by simp) fun accounted _ => ?_
      have owns := accounted.owns exited.holds (coherent.pid_ne_idle exited.holds exited.zombie)
      exact ((ProcessTable.freeStacks_ensures accounted.sound owns).of_error stuck).elim
  | @page call failure returned =>
      rintro ⟨tidy, addressable, own⟩ ⟨counted, -⟩
      have accounted := balanced tidy counted
      obtain ⟨same, -⟩ := (PageAllocator.perform_ensures accounted.sound addressable).of_error returned
      rw [reached]
      simp only [reservedPages, heldPages, returned, PageCall.reserved_error, PageCall.granted_error,
        PageCall.released_error, Finset.union_empty, Finset.sdiff_empty, same]
      exact accounted

theorem balanced_initially (valid : config.validate = .ok ()) :
    Balanced ⟨Scheduler.initial config, .unstarted⟩ config [] := by
  intro _ _
  obtain ⟨capacity, -⟩ := Scheduler.validate_ok valid
  have nobody := Accounted.pagesOf_initial capacity
  refine ⟨PageAllocator.sound_unstarted, ⟨rfl, rfl⟩, ⟨?_, ?_⟩, ?_⟩
  · intro left right _
    exact (nobody left).symm ▸ Finset.disjoint_empty_left _
  · intro page
    simp [nobody, reservedPages, heldPages, after, PageAllocator.unstarted, PageSet.members_empty]
  · intro slot process stack held has
    exact absurd has (Accounted.stackless_initial capacity held stack)

/-- In every run every allocated page has exactly one owner: the reserve, the direct callers, or one
stack of one process; and the used pages are counted by them. -/
theorem after_accounted {scheduler : Scheduler}
    (started : (Scheduler.start config).result = .ok scheduler) (calls : List Call)
    (switches : System.Counted ⟨scheduler, .unstarted⟩ Call.Switches calls)
    (pids : System.Counted ⟨scheduler, .unstarted⟩ Call.Creates calls)
    (tidy : System.Tidy ⟨scheduler, .unstarted⟩ calls) :
    let start : System := ⟨scheduler, .unstarted⟩
    let table := (start.after calls).scheduler.table
    let memory := (start.after calls).memory
    Partition (config.pagesOf table (start.reservedPages calls) (start.heldPages calls))
        memory.pages.members ∧
      memory.used = (start.reservedPages calls).card + (start.heldPages calls).card +
        (table.processes.map fun (_, process) => config.footprint process).sum := by
  obtain ⟨valid, rfl⟩ := (Scheduler.start_ensures config).of_ok started
  have reached := after_induction (Scheduler.wellFormed_initial valid)
    (Balanced ⟨Scheduler.initial config, .unstarted⟩ config) (balanced_initially valid)
    (fun _ _ _ balanced wellFormed _ performed => balanced.performed wellFormed performed)
    (fun _ _ _ balanced wellFormed found counted failed =>
      balanced.failed wellFormed found counted failed) calls
  obtain ⟨-, balanced⟩ := reached.resolve_right fun stalled => stalled.2 switches
  have accounted := balanced tidy pids
  exact ⟨accounted.parts, accounted.used_eq⟩

theorem after_accounted_reaped :
    ∃ part, Partition part (System.after ⟨.initial { userStackPages := 2 }, .unstarted⟩
        [.page (.free ⟨16384, by decide⟩), .reap 1, .switch (.exit 0) {} 2, .switch .dispatch {} 1,
          .create ⟨4096, by decide⟩ .user "second", .page .alloc,
          .create ⟨4096, by decide⟩ .user "first",
          .page (.start 24576 ⟨4096, by decide⟩)]).memory.pages.members ∧
      part .reserved = {0} ∧ part .callers = ∅ := by
  have started : (Scheduler.start { userStackPages := 2 }).result =
      .ok (.initial { userStackPages := 2 }) := rfl
  refine ⟨_, (after_accounted started _ ?_ ?_ ?_).1, ?_, ?_⟩
  · refine ⟨⟨⟨⟨⟨⟨⟨⟨trivial, ?_⟩, ?_⟩, ?_⟩, ?_⟩, ?_⟩, ?_⟩, ?_⟩, ?_⟩ <;> intro _
    all_goals decide +kernel
  · refine ⟨⟨⟨⟨⟨⟨⟨⟨trivial, ?_⟩, ?_⟩, ?_⟩, ?_⟩, ?_⟩, ?_⟩, ?_⟩, ?_⟩ <;> intro _
    all_goals decide +kernel
  · refine ⟨⟨⟨trivial, ?_, ?_⟩, trivial, ?_⟩, trivial, ?_⟩
    · exact show 24576 ≤ 0x10000000000000 by decide
    all_goals decide +kernel
  · decide +kernel
  · decide +kernel

end System

end MiniKernel
