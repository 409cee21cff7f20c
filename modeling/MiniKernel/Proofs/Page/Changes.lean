import MiniKernel.Proofs.Page.Checked
import MiniKernel.Proofs.Page.Search

/-! Runs of changes to a page set. What a run leaves in the set is read off its history: the pages that the
last change of them to take effect put in. The words hold that and nothing else, so they can be counted,
compared and searched in its place. -/

namespace MiniKernel.PageSet

inductive Change
  | insert (page : Nat)
  | erase (page : Nat)
  deriving DecidableEq, Repr

def Change.page : Change → Nat
  | .insert page => page
  | .erase page => page

def change (pages : PageSet) : Change → Bool × PageSet
  | .insert page => pages.insert page
  | .erase page => pages.erase page

def after (start : PageSet) : List Change → PageSet
  | [] => start
  | change :: earlier => ((start.after earlier).change change).2

def effective (start : PageSet) : List Change → List Change
  | [] => []
  | change :: earlier =>
      if ((start.after earlier).change change).1 then change :: start.effective earlier
      else start.effective earlier

/-- The pages that the last change of them to take effect put in. -/
def inserted (start : PageSet) (changes : List Change) : Finset Nat :=
  (Finset.range start.size).filter fun page =>
    (start.effective changes).find? (·.page = page) = some (.insert page)

theorem mem_inserted {start : PageSet} {changes : List Change} {page : Nat} :
    page ∈ start.inserted changes ↔
      page < start.size ∧ (start.effective changes).find? (·.page = page) = some (.insert page) := by
  simp [inserted]

/-! A single change. -/

variable {pages : PageSet} {size : Nat}

def Change.Due (pages : PageSet) : Change → Prop
  | .insert page => page < pages.size ∧ page ∉ pages.members
  | .erase page => page ∈ pages.members

theorem change_cases (pages : PageSet) (change : Change) :
    change.Due pages ∧ (pages.change change).1 = true ∨
      ¬ change.Due pages ∧ pages.change change = (false, pages) := by
  cases change with
  | insert page =>
      rw [Change.Due, mem_members, PageSet.change]
      unfold insert
      by_cases bound : page < pages.size
      · by_cases present : pages.contains page = true <;> simp [bound, present]
      · simp [bound]
  | erase page =>
      rw [Change.Due, mem_members, PageSet.change]
      unfold erase
      by_cases bound : page < pages.size
      · by_cases present : pages.contains page = true <;> simp [bound, present]
      · simp [bound]

theorem change_effect (pages : PageSet) (change : Change) :
    (pages.change change).1 = true ↔ change.Due pages := by
  rcases pages.change_cases change with ⟨due, effect⟩ | ⟨idle, same⟩
  · exact iff_of_true effect due
  · exact iff_of_false (by rw [same]; exact Bool.false_ne_true) idle

theorem change_refused {change : Change} (refused : (pages.change change).1 = false) :
    (pages.change change).2 = pages := by
  rcases pages.change_cases change with ⟨-, effect⟩ | ⟨-, same⟩
  · rw [effect] at refused
    cases refused
  · rw [same]

theorem Change.Due.inside {change : Change} (due : change.Due pages) : change.page < pages.size := by
  cases change with
  | insert page => exact due.1
  | erase page => exact members_lt due

@[simp]
theorem size_change (pages : PageSet) (change : Change) : (pages.change change).2.size = pages.size := by
  cases change with
  | insert page => exact pages.size_insert page
  | erase page => exact pages.size_erase page

theorem Clean.change (clean : pages.Clean) (change : Change) : (pages.change change).2.Clean := by
  cases change with
  | insert page => exact clean.insert page
  | erase page => exact clean.erase page

theorem mem_members_change {change : Change} (effect : (pages.change change).1 = true) (page : Nat) :
    page ∈ (pages.change change).2.members ↔
      if change.page = page then change = .insert page else page ∈ pages.members := by
  cases change with
  | insert target =>
      have inside : target < pages.size := ((pages.change_effect _).mp effect).inside
      rw [PageSet.change, members_insert _ inside, Finset.mem_union, Finset.mem_singleton, Change.page]
      grind
  | erase target =>
      rw [PageSet.change, members_erase, Finset.mem_erase, Change.page]
      grind

/-! Runs. -/

theorem after_exact {start : PageSet} (clean : start.Clean) (vacant : start.members = ∅)
    (changes : List Change) :
    (start.after changes).size = start.size ∧ (start.after changes).Clean ∧
      (start.after changes).members = start.inserted changes := by
  induction changes with
  | nil =>
      refine ⟨rfl, clean, ?_⟩
      rw [after, vacant]
      exact (Finset.filter_false_of_mem fun page _ => nofun).symm
  | cons change earlier ih =>
      obtain ⟨size, clean, members⟩ := ih
      refine ⟨by rw [after, size_change, size], clean.change change, ?_⟩
      -- A change that takes effect is the last one of its page from now on.
      ext page
      cases effect : ((start.after earlier).change change).1 with
      | false =>
          rw [after, change_refused effect, members, mem_inserted, mem_inserted, effective, effect]
          rfl
      | true =>
          have inside := ((change_effect ..).mp effect).inside
          rw [after, mem_members_change effect, members, mem_inserted, mem_inserted, effective, if_pos effect,
            List.find?_cons]
          by_cases same : change.page = page
          · rw [size, same] at inside
            simp [same, inside]
          · simp [same]

/-- `pages` is a set of pages below `size`, and all of it can be told from `members`: the answers, the effect
of every change, the count and the bits that stand for no page. No access to a word misses the row. -/
structure Holds (pages : PageSet) (size : Nat) (members : Finset Nat) : Prop where
  sized : pages.size = size
  contains : ∀ page, pages.contains page = true ↔ size ≤ page ∨ page ∈ members
  insert : ∀ page, ((pages.insert page).1 = true ↔ page < size ∧ page ∉ members) ∧
    (pages.insert page).2.contains page = true
  erase : ∀ page, ((pages.erase page).1 = true ↔ page ∈ members) ∧
    ((pages.erase page).2.contains page = true ↔ size ≤ page)
  others : ∀ change : Change, ∀ page ≠ change.page,
    (pages.change change).2.contains page = pages.contains page
  clean : pages.words.size = (size + 63) / 64 ∧ pages.Clean
  count : pages.count = members.card
  inRow : ∀ page, pages.containsChecked page = .ok (pages.contains page) ∧
    pages.insertChecked page = .ok (pages.insert page) ∧ pages.eraseChecked page = .ok (pages.erase page)

theorem Clean.holds (clean : pages.Clean) : pages.Holds pages.size pages.members := by
  refine ⟨rfl, pages.contains_iff, fun page => ⟨pages.change_effect (.insert page), ?insert⟩,
    fun page => ⟨pages.change_effect (.erase page), ?erase⟩, ?others, ⟨pages.packed, clean⟩, clean.count_eq,
    fun page => ⟨pages.containsChecked_eq page, pages.insertChecked_eq page, pages.eraseChecked_eq page⟩⟩
  case insert =>
    rw [contains_iff, size_insert]
    by_cases bound : page < pages.size
    · right
      rw [members_insert _ bound]
      exact Finset.mem_union_right _ (Finset.mem_singleton_self page)
    · exact Or.inl (Nat.le_of_not_lt bound)
  case erase =>
    rw [contains_iff, size_erase, members_erase]
    exact or_iff_left (Finset.notMem_erase page _)
  case others =>
    intro change page other
    cases effect : (pages.change change).1 with
    | false => rw [change_refused effect]
    | true =>
        rw [Bool.eq_iff_iff, contains_iff, contains_iff, size_change, mem_members_change effect,
          if_neg other.symm]

theorem create_ok_iff : create size = .ok (empty size) ↔ size + 64 < 2 ^ 64 := by
  rw [show size + 64 < 2 ^ 64 ↔ size + 64 ≤ Word.max from Nat.lt_succ_iff]
  refine ⟨fun created => ?_, create_ok⟩
  by_contra uncountable
  rw [create_error uncountable] at created
  cases created

/-- A new set is made exactly if the sum that rounds its size up stays in a word. In every run of changes it is
exactly the set of the pages that the run has put in and not taken out since, so two runs end in the same
words exactly if they end with the same pages. -/
theorem after_holds (size : Nat) :
    (create size = .ok (empty size) ↔ size + 64 < 2 ^ 64) ∧
      ∀ changes, ((empty size).after changes).Holds size ((empty size).inserted changes) ∧
        ∀ others, (empty size).after changes = (empty size).after others ↔
          (empty size).inserted changes = (empty size).inserted others := by
  refine ⟨create_ok_iff, fun changes => ?_⟩
  have run := after_exact (clean_empty size) (members_empty size)
  obtain ⟨sameSize, clean, members⟩ := run changes
  have holds := clean.holds
  rw [sameSize, members] at holds
  refine ⟨holds, fun others => ?_⟩
  obtain ⟨otherSize, otherClean, otherMembers⟩ := run others
  rw [← members, ← otherMembers]
  exact ⟨congrArg PageSet.members, clean.ext otherClean (sameSize.trans otherSize.symm)⟩

/-- With a word that is used in part, the last page is put in twice, one that is missing is taken out, and
one past the end is put in. -/
theorem after_holds_partialWord :
    ∃ start, create 130 = .ok start ∧
      (start.after [.insert 130, .erase 5, .insert 129, .insert 129]).Holds 130 {129} ∧
      start.after [.insert 130, .erase 5, .insert 129, .insert 129] =
        start.after [.erase 0, .insert 129, .insert 0] := by
  obtain ⟨created, runs⟩ := after_holds 130
  obtain ⟨holds, same⟩ := runs [.insert 130, .erase 5, .insert 129, .insert 129]
  have left : (empty 130).inserted [.insert 130, .erase 5, .insert 129, .insert 129] = {129} := by
    decide +kernel
  have right : (empty 130).inserted [.erase 0, .insert 129, .insert 0] = {129} := by decide +kernel
  rw [left] at holds
  exact ⟨empty 130, created.mpr (by decide), holds, (same _).mpr (left.trans right.symm)⟩

/-! The search after a run. -/

structure Finds (pages : PageSet) (size : Nat) : Prop where
  returns : ∀ start stop, pages.firstFreeChecked start stop = .ok (pages.firstFree start stop)
  found : ∀ start stop page, pages.firstFree start stop = some page ↔
    IsLeast {page | start ≤ page ∧ page < min stop size ∧ pages.contains page = false} page
  missing : ∀ start stop, pages.firstFree start stop = none ↔
    ∀ page, start ≤ page → page < min stop size → pages.contains page = true

theorem finds (pages : PageSet) (countable : pages.size + 63 ≤ Word.max) : pages.Finds pages.size := by
  refine ⟨firstFreeChecked_eq countable, ?found, ?missing⟩
  case found =>
    intro start stop page
    have inside page : start ≤ page ∧ page < min stop pages.size ∧ pages.contains page = false ↔
        start ≤ page ∧ page < stop ∧ pages.contains page = false := by
      refine and_congr_right fun _ => and_congr_left fun free => ?_
      rw [lt_min_iff, and_iff_left (lt_size_of_free free)]
    simp only [firstFree_eq_some_iff, inside]
  case missing =>
    intro start stop
    rw [firstFree_eq_none_iff]
    refine forall_congr' fun page => imp_congr_right fun _ => ?_
    refine ⟨fun taken upper => taken (lt_of_lt_of_le upper (min_le_left ..)), fun taken upper => ?_⟩
    by_contra free
    exact free (taken (lt_min upper (lt_size_of_free (by simpa using free))))

/-- In every run of changes of a set whose words can be counted, the search over words ends without a fault
and finds the least free page of the range, or none if there is none, for every range. -/
theorem after_finds (countable : size + 63 < 2 ^ 64) :
    (create size = .ok (empty size) ↔ size + 64 < 2 ^ 64) ∧
      ∀ changes, ((empty size).after changes).Finds size := by
  refine ⟨create_ok_iff, fun changes => ?_⟩
  obtain ⟨sameSize, -, -⟩ := after_exact (clean_empty size) (members_empty size) changes
  rw [size_empty] at sameSize
  have found := ((empty size).after changes).finds (by rw [sameSize]; exact Nat.le_of_lt_succ countable)
  rwa [sameSize] at found

theorem after_finds_lastPage :
    ∃ start, create 70 = .ok start ∧
      (start.after ((List.range 69).map .insert)).Finds 70 ∧
      (start.after ((List.range 69).map .insert)).firstFreeChecked 0 Word.max = .ok (some 69) ∧
      (start.after ((List.range 69).map .insert)).firstFreeChecked Word.max 70 = .ok none := by
  obtain ⟨created, runs⟩ := after_finds (show 70 + 63 < 2 ^ 64 by decide)
  have finds := runs ((List.range 69).map .insert)
  refine ⟨empty 70, created.mpr (by decide), finds, ?_, ?_⟩
  · have taken : ∀ page < 69, ((empty 70).after ((List.range 69).map .insert)).contains page = true := by
      decide +kernel
    rw [finds.returns, (finds.found 0 Word.max 69).mpr]
    refine ⟨⟨by decide, by decide, by decide +kernel⟩, fun page ⟨_, _, free⟩ => ?_⟩
    by_contra before
    rw [taken page (Nat.lt_of_not_le before)] at free
    cases free
  · rw [finds.returns, (finds.missing Word.max 70).mpr]
    intro page lower upper
    rw [Word.max] at lower
    omega

end MiniKernel.PageSet
