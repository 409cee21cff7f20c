import MiniKernel.Proofs.Page.Keeping

/-! Where the pages come from that an allocator hands out. A single page is the first free one behind
the page that was handed out alone last, and a run is the lowest one that is long enough. A request is
turned down only if there is nothing that would do. -/

namespace MiniKernel

def PageCall.Starts : PageCall → Prop
  | start .. => True
  | _ => False

namespace PageSet

theorem firstFree_eq_find? (pages : PageSet) (start stop : Nat) :
    pages.firstFree start stop =
      (List.range' start (stop - start)).find? fun page => !pages.contains page := by
  cases found : pages.firstFree start stop with
  | none =>
      rw [firstFree_eq_none_iff] at found
      symm
      rw [List.find?_range'_eq_none]
      intro page lower upper
      simpa using found page lower (by omega)
  | some page =>
      obtain ⟨⟨lower, upper, free⟩, least⟩ := (firstFree_eq_some_iff ..).mp found
      symm
      rw [List.find?_range'_eq_some, List.mem_range'_1]
      refine ⟨by simpa using free, by omega, ?_⟩
      intro other fromStart before
      by_contra clear
      have notBefore := least ⟨fromStart, by omega, by simpa using clear⟩
      omega

def RunAt (pages : PageSet) (count first : Nat) : Prop :=
  first + count ≤ pages.size ∧ pages.FreeRun count first

def LowestRun (pages : PageSet) (count first : Nat) : Prop :=
  0 < count ∧ IsLeast {first | pages.RunAt count first} first

theorem runAt_iff (pages : PageSet) {count : Nat} (nonempty : 0 < count) (first : Nat) :
    pages.RunAt count first ↔ pages.FreeRun count first :=
  and_iff_right_of_imp fun run => run.inside nonempty

theorem firstFreeRun_eq_some_iff_lowestRun (pages : PageSet) (count first : Nat) :
    pages.firstFreeRun count = some first ↔ pages.LowestRun count first := by
  rw [firstFreeRun_eq_some_iff, LowestRun]
  refine and_congr_right fun nonempty => ?_
  simp only [pages.runAt_iff nonempty]

theorem firstFreeRun_eq_none_iff_runAt (pages : PageSet) (count : Nat) :
    pages.firstFreeRun count = none ↔ count = 0 ∨ ∀ first, ¬ pages.RunAt count first := by
  rw [firstFreeRun_eq_none_iff]
  rcases count.eq_zero_or_pos with rfl | nonempty
  · simp
  · simp only [pages.runAt_iff nonempty]

end PageSet

namespace PageAllocator

variable {memory : PageAllocator} {count page : Nat}

/-! Single pages. -/

def rotation (first total : Nat) : List Nat := List.range' first (total - first) ++ List.range first

theorem nextFree_eq_find? (memory : PageAllocator) :
    memory.nextFree = (rotation memory.cursor memory.total).find? fun page =>
      !memory.pages.contains page := by
  rw [nextFree, PageSet.firstFree_eq_find?, PageSet.firstFree_eq_find?, rotation, List.find?_append,
    List.range_eq_range', Nat.sub_zero]

structure NextFit (memory : PageAllocator) (first : Nat) : Prop where
  inside : first ≤ memory.total
  granted : ∀ page,
    ((rotation first memory.total).find? fun page => !memory.pages.contains page) = some page →
    ∃ base, memory.alloc.result = .ok (some base) ∧ memory.Placed page 1 base memory.alloc.state
  denied : memory.alloc.result = .ok none ↔ ∀ page < memory.total, memory.pages.contains page = true
  untouched : memory.alloc.result = .ok none → memory.alloc.state = memory

theorem Sound.nextFit (sound : memory.Sound) (started : memory.started = true)
    (inside : memory.cursor ≤ memory.total) : memory.NextFit memory.cursor := by
  refine ⟨inside, ?granted, ?denied, ?untouched⟩
  case granted =>
    intro page found
    rw [← nextFree_eq_find?] at found
    obtain ⟨base, allocated, placed⟩ := sound.alloc_placed started found
    rw [allocated]
    exact ⟨base, rfl, placed⟩
  case denied =>
    cases found : memory.nextFree with
    | none =>
        rw [alloc_denied started found]
        refine ⟨fun _ page below => ?_, fun _ => rfl⟩
        rcases nextFree_none found with empty | taken
        · cases empty
        · by_contra free
          refine taken page fun other lower upper => ?_
          obtain rfl : other = page := by omega
          simpa using free
    | some page =>
        obtain ⟨below, free⟩ := nextFree_some found
        obtain ⟨base, allocated, -⟩ := sound.alloc_placed started found
        rw [allocated]
        refine ⟨nofun, fun taken => ?_⟩
        rw [taken page below] at free
        cases free
  case untouched =>
    intro denied
    cases found : memory.nextFree with
    | none => rw [alloc_denied started found]; rfl
    | some page =>
        obtain ⟨base, allocated, -⟩ := sound.alloc_placed started found
        rw [allocated] at denied
        cases denied

def cursorAfter : PageCall → Option PhysAddr → Nat → Nat
  | .start _ reservedEnd, _, _ => reservedBelow reservedEnd
  | .alloc, some base, _ => base.page + 1
  | _, _, cursor => cursor

theorem perform_cursor (sound : memory.Sound) (call : PageCall) :
    (memory.perform call).Ensures
      (fun answer next => next.started = true ∧
        (call.Starts → memory.started = false) ∧
        next.cursor = cursorAfter call answer memory.cursor ∧
        (memory.cursor ≤ memory.total → next.cursor ≤ next.total))
      fun _ next => next = memory := by
  cases call with
  | start bytes reservedEnd =>
      rw [perform, Outcome.ensures_map]
      refine (start_cases memory bytes reservedEnd).imp ?_ fun _ _ refused => refused.1
      rintro _ next ⟨silent, started, -, total, reserved, -, cursor⟩
      exact ⟨started, fun _ => silent, cursor, fun _ => by omega⟩
  | alloc =>
      rw [perform]
      cases started : memory.started with
      | false =>
          rw [alloc_unstarted started]
          rfl
      | true =>
          cases found : memory.nextFree with
          | none =>
              rw [alloc_denied started found]
              exact ⟨started, False.elim, rfl, id⟩
          | some page =>
              obtain ⟨base, allocated, placed⟩ := sound.alloc_placed started found
              have inside := placed.fits
              have first : base.page = page := by
                rw [PhysAddr.page, placed.address]
                exact Nat.mul_div_cancel _ (by decide)
              rw [allocated]
              rw [first] at inside
              exact ⟨started, False.elim, congrArg (· + 1) first.symm,
                fun _ => inside.trans placed.total.ge⟩
  | allocRun count =>
      rw [perform]
      cases started : memory.started with
      | false =>
          rw [allocRun_unstarted started]
          rfl
      | true =>
          cases found : memory.pages.firstFreeRun count with
          | none =>
              rw [allocRun_denied started found]
              exact ⟨started, False.elim, rfl, id⟩
          | some first =>
              obtain ⟨base, allocated, placed⟩ := sound.allocRun_placed started found
              rw [allocated]
              exact ⟨started, False.elim, rfl, fun inside => inside.trans placed.total.ge⟩
  | free addr =>
      rw [perform, Outcome.ensures_map]
      refine (free_cases sound.consistent addr).imp ?_ fun _ _ refused => refused.1.1
      rintro _ _ ⟨contract, rfl⟩
      exact ⟨contract.started sound.consistent, False.elim, rfl,
        fun inside => by rwa [total_withoutRun]⟩
  | freeRun base count =>
      rw [perform, Outcome.ensures_map]
      refine (freeRun_cases sound.consistent base count).imp ?_ fun _ _ refused => refused.1
      rintro _ _ ⟨contract, rfl⟩
      exact ⟨contract.started sound.consistent, False.elim, rfl,
        fun inside => by rwa [total_withoutRun]⟩

def lastSingle : List PageCall → Option Nat
  | [] => none
  | call :: earlier =>
      match call, ((after earlier).perform call).result with
      | .alloc, .ok (some base) => some base.page
      | _, _ => lastSingle earlier

def reserve : List PageCall → Nat
  | [] => 0
  | call :: earlier =>
      match call, ((after earlier).perform call).result with
      | .start _ reservedEnd, .ok _ => reservedBelow reservedEnd
      | _, _ => reserve earlier

/-- The page behind the one that a run handed out alone last, or behind the reserved ones. -/
def searchStart (calls : List PageCall) : Nat := ((lastSingle calls).map (· + 1)).getD (reserve calls)

variable {call : PageCall} {earlier : List PageCall}

theorem searchStart_error {failure : Failure}
    (failed : ((after earlier).perform call).result = .error failure) :
    lastSingle (call :: earlier) = lastSingle earlier ∧
      searchStart (call :: earlier) = searchStart earlier := by
  cases call <;> simp [searchStart, lastSingle, reserve, failed]

theorem searchStart_ok {answer : Option PhysAddr}
    (returned : ((after earlier).perform call).result = .ok answer)
    (unused : call.Starts → lastSingle earlier = none) :
    searchStart (call :: earlier) = cursorAfter call answer (searchStart earlier) := by
  cases call with
  | start bytes reservedEnd =>
      simp [searchStart, lastSingle, reserve, returned, unused trivial, cursorAfter]
  | alloc => cases answer <;> simp [searchStart, lastSingle, reserve, returned, cursorAfter]
  | _ => simp [searchStart, lastSingle, reserve, cursorAfter]

theorem after_cursor {calls : List PageCall} (small : (after calls).totalBytes ≤ 0x10000000000000) :
    (after calls).cursor = searchStart calls ∧ (after calls).cursor ≤ (after calls).total ∧
      ((after calls).started = false → lastSingle calls = none) := by
  induction calls with
  | nil => exact ⟨rfl, Nat.le_refl _, fun _ => rfl⟩
  | cons call earlier ih =>
      have smaller := small_of_cons small
      obtain ⟨cursor, inside, unused⟩ := ih smaller
      have ensured := perform_cursor (after_sound smaller) call
      cases found : ((after earlier).perform call).result with
      | error failure =>
          obtain ⟨last, same⟩ := searchStart_error found
          rw [after, ensured.of_error found, last, same]
          exact ⟨cursor, inside, unused⟩
      | ok answer =>
          obtain ⟨started, silent, moved, within⟩ := ensured.of_ok found
          refine ⟨?_, within inside, fun unstarted => ?_⟩
          · rw [searchStart_ok found fun starts => unused (silent starts), ← cursor]
            exact moved
          · cases started.symm.trans unstarted

/-- Nothing but an allocation of a single page moves the place where the next one is sought. -/
theorem searchStart_append {between calls : List PageCall}
    (small : (after (between ++ calls)).totalBytes ≤ 0x10000000000000)
    (started : (after calls).started = true) (quiet : .alloc ∉ between) :
    (after (between ++ calls)).started = true ∧ searchStart (between ++ calls) = searchStart calls := by
  induction between with
  | nil => exact ⟨started, rfl⟩
  | cons call between ih =>
      have smaller : (after (between ++ calls)).totalBytes ≤ _ := small_of_cons small
      obtain ⟨running, same⟩ := ih smaller fun member => quiet (List.mem_cons_of_mem _ member)
      have ensured := perform_cursor (after_sound smaller) call
      rw [List.cons_append, ← same]
      cases found : ((after (between ++ calls)).perform call).result with
      | error failure =>
          rw [after, ensured.of_error found]
          exact ⟨running, (searchStart_error found).2⟩
      | ok answer =>
          obtain ⟨started, silent, -⟩ := ensured.of_ok found
          have unbegun : ¬ call.Starts := by
            intro starts
            rw [silent starts] at running
            cases running
          rw [searchStart_ok found fun starts => absurd starts unbegun]
          refine ⟨started, ?_⟩
          cases call with
          | start => exact absurd trivial unbegun
          | alloc => exact absurd List.mem_cons_self quiet
          | _ => rfl

/-- A single page is handed out next-fit in every state that a run reaches, and what is freed or handed
out in runs since the last one makes no difference to where it is sought. -/
theorem after_nextFit (between calls : List PageCall)
    (small : (after (between ++ calls)).totalBytes ≤ 0x10000000000000)
    (started : (after calls).started = true) (quiet : .alloc ∉ between) :
    (after (between ++ calls)).NextFit (searchStart calls) := by
  obtain ⟨running, same⟩ := searchStart_append small started quiet
  obtain ⟨cursor, inside, -⟩ := after_cursor small
  rw [← same, ← cursor]
  exact (after_sound small).nextFit running inside

/-- Of the three pages that were handed out singly the first two are free again, and a run was taken and
given back in between: the search goes on behind the third one and wraps around to the first one. -/
theorem after_nextFit_wraps :
    let calls : List PageCall := [.alloc, .alloc, .alloc, .start 16384 ⟨4096, by decide⟩]
    let between : List PageCall := [.freeRun ⟨4096, by decide⟩ 2, .allocRun 2,
      .free ⟨8192, by decide⟩, .free ⟨4096, by decide⟩]
    (after (between ++ calls)).NextFit 4 ∧
      (after (between ++ calls)).alloc.result = .ok (some ⟨4096, by decide⟩) := by
  intro calls between
  have fit := after_nextFit between calls (by decide +kernel) (by decide +kernel) (by decide)
  have start : searchStart calls = 4 := by decide +kernel
  rw [start] at fit
  exact ⟨fit, by decide +kernel⟩

/-! Runs of pages. -/

structure LowestFit (memory : PageAllocator) (count : Nat) : Prop where
  granted : ∀ first, memory.pages.LowestRun count first →
    ∃ base, (memory.allocRun count).result = .ok (some base) ∧
      memory.Placed first count base (memory.allocRun count).state
  denied : (memory.allocRun count).result = .ok none ↔
    count = 0 ∨ ∀ first, ¬ memory.pages.RunAt count first
  untouched : (memory.allocRun count).result = .ok none → (memory.allocRun count).state = memory
  found : ∀ first, 0 < count → memory.pages.RunAt count first →
    ∃ base, (memory.allocRun count).result = .ok (some base)

theorem Sound.lowestFit (sound : memory.Sound) (started : memory.started = true) (count : Nat) :
    memory.LowestFit count := by
  cases found : memory.pages.firstFreeRun count with
  | none =>
      have missing := (PageSet.firstFreeRun_eq_none_iff_runAt ..).mp found
      refine ⟨fun first lowest => ?_, ?_, fun _ => ?_, fun first nonempty run => ?_⟩
      · rw [← PageSet.firstFreeRun_eq_some_iff_lowestRun, found] at lowest
        cases lowest
      · rw [allocRun_denied started found]
        exact iff_of_true rfl missing
      · rw [allocRun_denied started found]
        rfl
      · rcases missing with rfl | missing
        · cases nonempty
        · exact absurd run (missing first)
  | some first =>
      have present : ¬ (count = 0 ∨ ∀ first, ¬ memory.pages.RunAt count first) := by
        rw [← PageSet.firstFreeRun_eq_none_iff_runAt, found]
        nofun
      obtain ⟨base, allocated, placed⟩ := sound.allocRun_placed started found
      refine ⟨fun other lowest => ?_, ?_, ?_, fun _ _ _ => ?_⟩
      · rw [← PageSet.firstFreeRun_eq_some_iff_lowestRun, found] at lowest
        obtain rfl := Option.some.inj lowest
        rw [allocated]
        exact ⟨base, rfl, placed⟩
      · rw [allocated]
        exact iff_of_false nofun present
      · rw [allocated]
        nofun
      · rw [allocated]
        exact ⟨base, rfl⟩

/-- The search for a run finds the lowest one in every set of pages, and whoever asks an allocator for a
run gets all the pages of that one, in every state that a run of calls reaches, unless there is none. -/
theorem after_lowestFit :
    (∀ (pages : PageSet) (count : Nat),
      (∀ first, pages.firstFreeRun count = some first ↔ pages.LowestRun count first) ∧
      (pages.firstFreeRun count = none ↔ count = 0 ∨ ∀ first, ¬ pages.RunAt count first)) ∧
    ∀ (calls : List PageCall) (count : Nat), (after calls).totalBytes ≤ 0x10000000000000 →
      (after calls).started = true → (after calls).LowestFit count := by
  refine ⟨fun pages count => ⟨fun first => ?_, ?_⟩, fun calls count small started => ?_⟩
  · exact pages.firstFreeRun_eq_some_iff_lowestRun count first
  · exact pages.firstFreeRun_eq_none_iff_runAt count
  · exact (after_sound small).lowestFit started count

theorem after_lowestFit_scattered :
    let calls : List PageCall :=
      [.free ⟨8192, by decide⟩, .allocRun 4, .start 32768 ⟨4096, by decide⟩]
    ((after calls).LowestFit 3 ∧ (after calls).LowestFit 4) ∧
      ((after calls).allocRun 3).result = .ok (some ⟨20480, by decide⟩) ∧
      ((after calls).allocRun 4).result = .ok none := by
  intro calls
  have fit count := after_lowestFit.2 calls count (by decide +kernel) (by decide +kernel)
  exact ⟨⟨fit 3, fit 4⟩, by decide +kernel, by decide +kernel⟩

end PageAllocator

end MiniKernel
