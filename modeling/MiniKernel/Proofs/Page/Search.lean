import Mathlib.Order.Bounds.Defs
import MiniKernel.Proofs.Page.Members

/-! The searches of a page set answer with the least page, or the least run, that a plain search
would meet, and fail only if there is none. -/

namespace MiniKernel.PageSet

theorem contains_of_fullWord (pages : PageSet) {page other : Nat} (bound : page < pages.size)
    (full : pages.wordOf page bound = fullWord) (block : other / 64 = page / 64) :
    pages.contains other = true := by
  by_cases otherBound : other < pages.size
  · have same : pages.wordOf other otherBound = pages.wordOf page bound := by
      simp [wordOf, block]
    rw [contains, dif_pos otherBound, and_mask_ne_zero, same, full]
    exact fullWord_getLsbD _ (Nat.mod_lt _ (by decide))
  · exact contains_of_size_le _ (Nat.le_of_not_lt otherBound)

theorem scan_some (pages : PageSet) (stop : Nat) (stop_le : stop ≤ pages.size) (page found : Nat)
    (scanned : pages.scan stop stop_le page = some found) :
    page ≤ found ∧ found < stop ∧ pages.contains found = false ∧
      ∀ other, page ≤ other → other < found → pages.contains other = true := by
  fun_induction scan pages stop stop_le page with
  | case1 page below word full ih =>
      obtain ⟨lower, upper, free, taken⟩ := ih scanned
      refine ⟨by omega, upper, free, ?_⟩
      intro other fromPage toFound
      by_cases block : other < page + 64
      · exact contains_of_fullWord pages (by omega) full.1 (by omega)
      · exact taken other (by omega) toFound
  | case2 page below word _ free =>
      simp only [Option.some.injEq] at scanned
      subst found
      have clear : pages.contains page = false := by
        rw [contains, dif_pos (by omega : page < pages.size)]
        simpa using free
      exact ⟨Nat.le_refl _, below, clear, fun other lower upper => absurd lower (by omega)⟩
  | case3 page below word _ occupied ih =>
      obtain ⟨lower, upper, free, taken⟩ := ih scanned
      refine ⟨by omega, upper, free, ?_⟩
      intro other fromPage toFound
      by_cases same : other = page
      · subst other
        rw [contains, dif_pos (by omega : page < pages.size)]
        simpa using occupied
      · exact taken other (by omega) toFound
  | case4 page _ => cases scanned

theorem scan_none (pages : PageSet) (stop : Nat) (stop_le : stop ≤ pages.size) (page : Nat)
    (scanned : pages.scan stop stop_le page = none) :
    ∀ other, page ≤ other → other < stop → pages.contains other = true := by
  fun_induction scan pages stop stop_le page with
  | case1 page below word full ih =>
      intro other fromPage toStop
      by_cases block : other < page + 64
      · exact contains_of_fullWord pages (by omega) full.1 (by omega)
      · exact ih scanned other (by omega) toStop
  | case2 page below word _ free => cases scanned
  | case3 page below word _ occupied ih =>
      intro other fromPage toStop
      by_cases same : other = page
      · subst other
        rw [contains, dif_pos (by omega : page < pages.size)]
        simpa using occupied
      · exact ih scanned other (by omega) toStop
  | case4 page past =>
      intro other fromPage toStop
      omega

theorem firstFree_eq_some_iff (pages : PageSet) (start stop page : Nat) :
    pages.firstFree start stop = some page ↔
      IsLeast {page | start ≤ page ∧ page < stop ∧ pages.contains page = false} page := by
  constructor
  · intro found
    obtain ⟨lower, upper, free, taken⟩ := scan_some _ _ _ _ _ found
    refine ⟨⟨lower, by omega, free⟩, ?_⟩
    rintro other ⟨otherLower, -, otherFree⟩
    by_contra smaller
    rw [taken other otherLower (by omega)] at otherFree
    cases otherFree
  · rintro ⟨⟨lower, upper, free⟩, least⟩
    have inside := lt_size_of_free free
    unfold firstFree
    cases found : pages.scan (min stop pages.size) (Nat.min_le_right ..) start with
    | none =>
        rw [scan_none _ _ _ _ found page lower (by omega)] at free
        cases free
    | some first =>
        obtain ⟨firstLower, firstUpper, firstFree, taken⟩ := scan_some _ _ _ _ _ found
        have pageFirst := least ⟨firstLower, by omega, firstFree⟩
        by_cases same : first = page
        · rw [same]
        · rw [taken page lower (by omega)] at free
          cases free

theorem firstFree_eq_none_iff (pages : PageSet) (start stop : Nat) :
    pages.firstFree start stop = none ↔
      ∀ page, start ≤ page → page < stop → pages.contains page = true := by
  constructor
  · intro missing page lower upper
    by_cases inside : page < pages.size
    · exact scan_none _ _ _ _ missing page lower (by omega)
    · exact contains_of_size_le _ (Nat.le_of_not_lt inside)
  · intro taken
    unfold firstFree
    cases found : pages.scan (min stop pages.size) (Nat.min_le_right ..) start with
    | none => rfl
    | some first =>
        obtain ⟨lower, upper, free, -⟩ := scan_some _ _ _ _ _ found
        rw [taken first lower (by omega)] at free
        cases free

def FreeRun (pages : PageSet) (count first : Nat) : Prop :=
  ∀ page, first ≤ page → page < first + count → pages.contains page = false

theorem FreeRun.fresh {pages : PageSet} {count first : Nat} (run : pages.FreeRun count first) :
    Disjoint pages.members (Finset.Ico first (first + count)) := by
  rw [Finset.disjoint_left]
  intro page member inRun
  obtain ⟨lower, upper⟩ := Finset.mem_Ico.mp inRun
  have present := (mem_members.mp member).2
  rw [run page lower upper] at present
  cases present

theorem FreeRun.inside {pages : PageSet} {count first : Nat} (run : pages.FreeRun count first)
    (nonempty : 0 < count) : first + count ≤ pages.size := by
  have last := lt_size_of_free (run (first + count - 1) (by omega) (by omega))
  omega

/-- The loop has passed every run that begins more than `length` pages before `page`. -/
theorem scanRun_some (pages : PageSet) (count page length found : Nat) (covered : length ≤ page)
    (short : length < count) (free : pages.FreeRun length (page - length))
    (passed : ∀ first < page - length, ¬ pages.FreeRun count first)
    (scanned : pages.scanRun count page length = some found) :
    IsLeast {first | pages.FreeRun count first} found := by
  fun_induction scanRun pages count page length with
  | case1 page length below taken ih =>
      apply ih (Nat.zero_le _) (by omega) (fun other lower upper => by omega)
      · intro first before run
        by_cases early : first < page - length
        · exact passed first early run
        · rw [run page (by omega) (by omega)] at taken
          cases taken
      · exact scanned
  | case2 page length below clear complete =>
      simp only [Option.some.injEq] at scanned
      subst found
      constructor
      · intro other lower upper
        by_cases last : other = page
        · simpa [last] using clear
        · exact free other lower (by omega)
      · intro first run
        by_contra before
        exact passed first (by omega) run
  | case3 page length below clear incomplete ih =>
      apply ih (by omega) (by omega)
      · intro other lower upper
        by_cases last : other = page
        · simpa [last] using clear
        · exact free other (by omega) (by omega)
      · intro first before
        exact passed first (by omega)
      · exact scanned
  | case4 page length _ => cases scanned

theorem scanRun_none (pages : PageSet) (count page length : Nat) (covered : length ≤ page)
    (short : length < count) (passed : ∀ first < page - length, ¬ pages.FreeRun count first)
    (scanned : pages.scanRun count page length = none) : ∀ first, ¬ pages.FreeRun count first := by
  fun_induction scanRun pages count page length with
  | case1 page length below taken ih =>
      apply ih (Nat.zero_le _) (by omega)
      · intro first before run
        by_cases early : first < page - length
        · exact passed first early run
        · rw [run page (by omega) (by omega)] at taken
          cases taken
      · exact scanned
  | case2 page length below clear complete => cases scanned
  | case3 page length below clear incomplete ih =>
      apply ih (by omega) (by omega)
      · intro first before
        exact passed first (by omega)
      · exact scanned
  | case4 page length past =>
      intro first run
      have inside := run.inside (by omega)
      exact passed first (by omega) run

theorem firstFreeRun_eq_some_iff (pages : PageSet) (count first : Nat) :
    pages.firstFreeRun count = some first ↔
      0 < count ∧ IsLeast {first | pages.FreeRun count first} first := by
  unfold firstFreeRun
  by_cases impossible : count = 0 ∨ pages.size < count
  · rw [if_pos impossible]
    constructor
    · intro found
      cases found
    · rintro ⟨nonempty, run, -⟩
      have inside := FreeRun.inside run nonempty
      omega
  · rw [if_neg impossible]
    have nonempty : 0 < count := by omega
    have start : ∀ first < 0 - 0, ¬ pages.FreeRun count first := fun first before => by omega
    constructor
    · intro found
      exact ⟨nonempty, scanRun_some _ _ _ _ _ (Nat.le_refl _) nonempty
        (fun page lower upper => by omega) start found⟩
    · rintro ⟨-, least⟩
      cases found : pages.scanRun count 0 0 with
      | none => exact absurd least.1 (scanRun_none _ _ _ _ (Nat.le_refl _) nonempty start found first)
      | some other =>
          have otherLeast := scanRun_some _ _ _ _ _ (Nat.le_refl _) nonempty
            (fun page lower upper => by omega) start found
          rw [otherLeast.unique least]

theorem firstFreeRun_eq_none_iff (pages : PageSet) (count : Nat) :
    pages.firstFreeRun count = none ↔ count = 0 ∨ ∀ first, ¬ pages.FreeRun count first := by
  constructor
  · intro missing
    by_cases impossible : count = 0 ∨ pages.size < count
    · rcases impossible with empty | large
      · exact Or.inl empty
      · refine Or.inr fun first run => ?_
        have inside := run.inside (by omega)
        omega
    · rw [firstFreeRun, if_neg impossible] at missing
      exact Or.inr (scanRun_none _ _ _ _ (Nat.le_refl _) (by omega)
        (fun first before => by omega) missing)
  · intro hopeless
    cases found : pages.firstFreeRun count with
    | none => rfl
    | some first =>
        obtain ⟨nonempty, run, -⟩ := (firstFreeRun_eq_some_iff _ _ _).mp found
        rcases hopeless with empty | missing
        · omega
        · exact absurd run (missing first)

end MiniKernel.PageSet
