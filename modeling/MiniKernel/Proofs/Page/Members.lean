import Mathlib.Data.Finset.Card
import Mathlib.Order.Interval.Finset.Nat
import MiniKernel.Page.Set

/-! The packed words of a page set as the finite set of its members. Every operation is described
first by the bits that it changes and then by what it does to the members. -/

namespace MiniKernel.PageSet

/-! Single words. -/

theorem getLsbD_mask (page bit : Nat) (bound : bit < 64) :
    (mask page).toBitVec.getLsbD bit = decide (bit = page % 64) := by
  have pageBit : page % 64 < 64 := Nat.mod_lt _ (by decide)
  simp only [mask, UInt64.toBitVec_shiftLeft]
  simp [bound]
  by_cases same : bit = page % 64
  · simp [same]
  · simp only [same, decide_false, Bool.and_eq_false_imp]
    intro above
    simp only [Bool.not_eq_true', decide_eq_false_iff_not] at above ⊢
    omega

theorem word_ext {left right : UInt64}
    (same : ∀ bit < 64, left.toBitVec.getLsbD bit = right.toBitVec.getLsbD bit) : left = right :=
  UInt64.toBitVec_inj.mp (BitVec.eq_of_getLsbD_eq same)

theorem and_mask_eq_zero (word : UInt64) (page : Nat) :
    word &&& mask page = 0 ↔ word.toBitVec.getLsbD (page % 64) = false := by
  have pageBit : page % 64 < 64 := Nat.mod_lt _ (by decide)
  constructor
  · intro zero
    have read := congrArg (fun masked : UInt64 => masked.toBitVec.getLsbD (page % 64)) zero
    simpa [UInt64.toBitVec_and, getLsbD_mask _ _ pageBit] using read
  · intro clear
    apply word_ext
    intro bit bound
    rw [UInt64.toBitVec_and, BitVec.getLsbD_and, getLsbD_mask _ _ bound]
    by_cases same : bit = page % 64
    · simp [same, clear]
    · simp [same]

theorem and_mask_ne_zero (word : UInt64) (page : Nat) :
    (word &&& mask page != 0) = word.toBitVec.getLsbD (page % 64) := by
  have zero := and_mask_eq_zero word page
  cases clear : word.toBitVec.getLsbD (page % 64) <;> simp_all

theorem fullWord_getLsbD (bit : Nat) (bound : bit < 64) : fullWord.toBitVec.getLsbD bit = true := by
  have full : fullWord.toBitVec = BitVec.allOnes 64 := by decide
  rw [full, BitVec.getLsbD_allOnes]
  simpa using bound

theorem popCount_eq (word : UInt64) :
    popCount word = (List.range 64).countP fun bit => word.toBitVec.getLsbD bit := by
  apply List.countP_congr
  intro bit member
  rw [and_mask_ne_zero, Nat.mod_eq_of_lt (List.mem_range.mp member)]

/-! The bit of a page. -/

def bit (pages : PageSet) (page : Nat) : Bool :=
  (pages.words[page / 64]?.getD 0).toBitVec.getLsbD (page % 64)

theorem wordOf_getLsbD (pages : PageSet) {page : Nat} (bound : page < pages.size) :
    (pages.wordOf page bound).toBitVec.getLsbD (page % 64) = pages.bit page := by
  have wordBound := pages.word_bound bound
  simp [bit, wordOf, wordBound]

theorem contains_of_lt (pages : PageSet) {page : Nat} (bound : page < pages.size) :
    pages.contains page = pages.bit page := by
  rw [contains, dif_pos bound, and_mask_ne_zero, wordOf_getLsbD]

theorem contains_of_size_le (pages : PageSet) {page : Nat} (outside : pages.size ≤ page) :
    pages.contains page = true := by
  rw [contains, dif_neg (by omega)]

theorem lt_size_of_free {pages : PageSet} {page : Nat} (free : pages.contains page = false) :
    page < pages.size := by
  by_contra outside
  rw [contains_of_size_le _ (Nat.le_of_not_lt outside)] at free
  cases free

theorem bit_setWord (pages : PageSet) {page : Nat} (bound : page < pages.size) (word : UInt64)
    (other : Nat) :
    (pages.setWord page bound word).bit other =
      if other / 64 = page / 64 then word.toBitVec.getLsbD (other % 64) else pages.bit other := by
  have wordBound := pages.word_bound bound
  by_cases same : other / 64 = page / 64
  · simp [bit, setWord, same, wordBound]
  · simp [bit, setWord, same, Ne.symm same]

@[simp]
theorem size_insert (pages : PageSet) (page : Nat) : (pages.insert page).2.size = pages.size := by
  unfold insert
  split
  · split <;> rfl
  · rfl

@[simp]
theorem size_erase (pages : PageSet) (page : Nat) : (pages.erase page).2.size = pages.size := by
  unfold erase
  split
  · split <;> rfl
  · rfl

theorem bit_insert (pages : PageSet) (page other : Nat) :
    (pages.insert page).2.bit other = (pages.bit other || decide (other = page ∧ page < pages.size)) := by
  unfold insert
  by_cases bound : page < pages.size
  · rw [dif_pos bound]
    by_cases present : pages.contains page = true
    · rw [if_pos present]
      rw [contains_of_lt _ bound] at present
      by_cases same : other = page
      · simp [same, present]
      · simp [same]
    · rw [if_neg present, bit_setWord]
      have otherBit : other % 64 < 64 := Nat.mod_lt _ (by decide)
      by_cases word : other / 64 = page / 64
      · have old : (pages.wordOf page bound).toBitVec.getLsbD (other % 64) = pages.bit other := by
          simp [wordOf, bit, word, pages.word_bound bound]
        rw [if_pos word, UInt64.toBitVec_or, BitVec.getLsbD_or, getLsbD_mask _ _ otherBit, old]
        have same : other % 64 = page % 64 ↔ other = page := by omega
        simp [same, bound]
      · have different : other ≠ page := fun same => word (by rw [same])
        simp [word, different]
  · simp [bound]

theorem bit_erase (pages : PageSet) (page other : Nat) :
    (pages.erase page).2.bit other = (pages.bit other && !decide (other = page ∧ page < pages.size)) := by
  unfold erase
  by_cases bound : page < pages.size
  · rw [dif_pos bound]
    by_cases present : pages.contains page = true
    · rw [if_pos present, bit_setWord]
      have otherBit : other % 64 < 64 := Nat.mod_lt _ (by decide)
      by_cases word : other / 64 = page / 64
      · have old : (pages.wordOf page bound).toBitVec.getLsbD (other % 64) = pages.bit other := by
          simp [wordOf, bit, word, pages.word_bound bound]
        rw [if_pos word, UInt64.toBitVec_and, BitVec.getLsbD_and, UInt64.toBitVec_not,
          BitVec.getLsbD_not, getLsbD_mask _ _ otherBit, old]
        have same : other % 64 = page % 64 ↔ other = page := by omega
        simp [same, bound, otherBit]
      · have different : other ≠ page := fun same => word (by rw [same])
        simp [word, different]
    · rw [if_neg present]
      rw [contains_of_lt _ bound] at present
      by_cases same : other = page
      · simp [same, bound, present]
      · simp [same]
  · simp [bound]

/-! The members. -/

def members (pages : PageSet) : Finset Nat := (Finset.range pages.size).filter (pages.contains ·)

theorem mem_members {pages : PageSet} {page : Nat} :
    page ∈ pages.members ↔ page < pages.size ∧ pages.contains page = true := by
  simp [members]

theorem mem_members_iff_bit {pages : PageSet} {page : Nat} :
    page ∈ pages.members ↔ page < pages.size ∧ pages.bit page = true := by
  rw [mem_members]
  constructor <;> rintro ⟨bound, present⟩
  · exact ⟨bound, by rwa [contains_of_lt _ bound] at present⟩
  · exact ⟨bound, by rwa [contains_of_lt _ bound]⟩

theorem contains_iff (pages : PageSet) (page : Nat) :
    pages.contains page = true ↔ pages.size ≤ page ∨ page ∈ pages.members := by
  rw [mem_members]
  by_cases bound : page < pages.size
  · simp [bound]
  · simp [contains_of_size_le _ (Nat.le_of_not_lt bound), Nat.le_of_not_lt bound]

theorem members_lt {pages : PageSet} {page : Nat} (member : page ∈ pages.members) :
    page < pages.size := (mem_members.mp member).1

theorem members_subset_range (pages : PageSet) : pages.members ⊆ Finset.range pages.size :=
  Finset.filter_subset _ _

@[simp]
theorem size_empty (size : Nat) : (empty size).size = size := rfl

@[simp]
theorem members_empty (size : Nat) : (empty size).members = ∅ := by
  ext page
  simp [mem_members_iff_bit, bit, empty, Array.getElem?_replicate]
  intro bound
  split <;> simp

theorem members_insert (pages : PageSet) {page : Nat} (bound : page < pages.size) :
    (pages.insert page).2.members = pages.members ∪ {page} := by
  ext other
  rw [mem_members_iff_bit, bit_insert, size_insert, Finset.mem_union, Finset.mem_singleton,
    mem_members_iff_bit]
  by_cases same : other = page
  · simp [same, bound]
  · simp [same]

theorem members_erase (pages : PageSet) (page : Nat) :
    (pages.erase page).2.members = pages.members.erase page := by
  ext other
  rw [mem_members_iff_bit, bit_erase, size_erase, Finset.mem_erase, mem_members_iff_bit]
  by_cases same : other = page
  · simp +contextual [same]
  · simp [same]

@[simp]
theorem size_insertRun (pages : PageSet) (first count : Nat) :
    (pages.insertRun first count).size = pages.size := by
  induction count generalizing pages first with
  | zero => rfl
  | succ count ih => rw [insertRun, ih, size_insert]

@[simp]
theorem size_eraseRun (pages : PageSet) (first count : Nat) :
    (pages.eraseRun first count).size = pages.size := by
  induction count generalizing pages first with
  | zero => rfl
  | succ count ih => rw [eraseRun, ih, size_erase]

theorem members_insertRun (pages : PageSet) (first count : Nat) (fits : first + count ≤ pages.size) :
    (pages.insertRun first count).members = pages.members ∪ Finset.Ico first (first + count) := by
  induction count generalizing pages first with
  | zero => simp [insertRun]
  | succ count ih =>
      have rest : first + 1 + count ≤ (pages.insert first).2.size := by
        rw [size_insert]
        omega
      rw [insertRun, ih _ _ rest, members_insert _ (by omega)]
      ext page
      simp only [Finset.mem_union, Finset.mem_singleton, Finset.mem_Ico]
      have run : (page = first ∨ first + 1 ≤ page ∧ page < first + 1 + count) ↔
          first ≤ page ∧ page < first + (count + 1) := by omega
      rw [or_assoc, run]

theorem members_eraseRun (pages : PageSet) (first count : Nat) :
    (pages.eraseRun first count).members = pages.members \ Finset.Ico first (first + count) := by
  induction count generalizing pages first with
  | zero => simp [eraseRun]
  | succ count ih =>
      rw [eraseRun, ih, members_erase]
      ext page
      simp only [Finset.mem_sdiff, Finset.mem_erase, Finset.mem_Ico]
      have run : (first ≤ page ∧ page < first + (count + 1)) ↔
          page = first ∨ first + 1 ≤ page ∧ page < first + 1 + count := by omega
      rw [run, not_or]
      exact ⟨fun ⟨⟨different, member⟩, outside⟩ => ⟨member, different, outside⟩,
        fun ⟨member, different, outside⟩ => ⟨⟨different, member⟩, outside⟩⟩

/-! The bits past the end stay clear, so the words are counted and compared as sets. -/

def Clean (pages : PageSet) : Prop := ∀ page, pages.size ≤ page → pages.bit page = false

theorem clean_empty (size : Nat) : (empty size).Clean := by
  intro page _
  simp only [bit, empty, Array.getElem?_replicate]
  split <;> simp

theorem Clean.insert {pages : PageSet} (clean : pages.Clean) (page : Nat) :
    (pages.insert page).2.Clean := by
  intro other outside
  rw [size_insert] at outside
  rw [bit_insert, clean other outside, Bool.false_or, decide_eq_false_iff_not]
  omega

theorem Clean.erase {pages : PageSet} (clean : pages.Clean) (page : Nat) :
    (pages.erase page).2.Clean := by
  intro other outside
  rw [size_erase] at outside
  rw [bit_erase, clean other outside, Bool.false_and]

theorem Clean.insertRun {pages : PageSet} (clean : pages.Clean) (first count : Nat) :
    (pages.insertRun first count).Clean := by
  induction count generalizing pages first with
  | zero => exact clean
  | succ count ih => exact ih (clean.insert first) (first + 1)

theorem Clean.eraseRun {pages : PageSet} (clean : pages.Clean) (first count : Nat) :
    (pages.eraseRun first count).Clean := by
  induction count generalizing pages first with
  | zero => exact clean
  | succ count ih => exact ih (clean.erase first) (first + 1)

theorem sum_popCount_take (pages : PageSet) (count : Nat) (bound : count ≤ pages.words.size) :
    (pages.words.toList.take count).foldl (fun total word => total + popCount word) 0 =
      (List.range (64 * count)).countP pages.bit := by
  induction count with
  | zero => simp
  | succ count ih =>
      have wordBound : count < pages.words.toList.length := by
        simp only [Array.length_toList]
        omega
      have row : (List.range 64).countP (fun bit => (pages.words[count]).toBitVec.getLsbD bit) =
          ((List.range 64).map (64 * count + ·)).countP pages.bit := by
        rw [List.countP_map]
        apply List.countP_congr
        intro position member
        have positionBound := List.mem_range.mp member
        have word : (64 * count + position) / 64 = count := by omega
        have place : (64 * count + position) % 64 = position := by omega
        have found : pages.words[count]? = some pages.words[count] :=
          Array.getElem?_eq_getElem (by simpa using wordBound)
        simp only [Function.comp, bit, word, place, found, Option.getD_some]
      -- The bits of the next word are the next 64 places of the row.
      rw [List.take_succ_eq_append_getElem wordBound, List.foldl_append, ih (by omega), Nat.mul_succ,
        List.range_add, List.countP_append, ← row]
      simp [popCount_eq]

theorem Clean.count_eq {pages : PageSet} (clean : pages.Clean) : pages.count = pages.members.card := by
  have packed := pages.packed
  have whole : pages.count = (List.range (64 * pages.words.size)).countP pages.bit := by
    rw [← sum_popCount_take _ _ (Nat.le_refl _), count, List.take_of_length_le (by simp)]
  have rest : ((List.range (64 * pages.words.size - pages.size)).map (pages.size + ·)).countP
      pages.bit = 0 := by
    rw [List.countP_eq_zero]
    intro page member
    obtain ⟨offset, -, rfl⟩ := List.mem_map.mp member
    simp [clean (pages.size + offset) (by omega)]
  have split : 64 * pages.words.size = pages.size + (64 * pages.words.size - pages.size) := by omega
  rw [whole, split, List.range_add, List.countP_append, rest, Nat.add_zero, List.countP_eq_length_filter]
  have listed : pages.members = ((List.range pages.size).filter pages.bit).toFinset := by
    ext page
    simp [mem_members_iff_bit]
  rw [listed, List.toFinset_card_of_nodup (List.nodup_range.filter _)]

theorem Clean.ext {left right : PageSet} (leftClean : left.Clean) (rightClean : right.Clean)
    (size : left.size = right.size) (members : left.members = right.members) : left = right := by
  have bits : ∀ page, left.bit page = right.bit page := by
    intro page
    by_cases bound : page < left.size
    · have same : page ∈ left.members ↔ page ∈ right.members := by rw [members]
      rw [mem_members_iff_bit, mem_members_iff_bit, ← size] at same
      simpa [bound] using same
    · rw [leftClean page (by omega), rightClean page (by omega)]
  have words : left.words = right.words := by
    apply Array.ext
    · rw [left.packed, right.packed, size]
    · intro index leftBound rightBound
      apply word_ext
      intro position bound
      have read := bits (64 * index + position)
      have word : (64 * index + position) / 64 = index := by omega
      have place : (64 * index + position) % 64 = position := by omega
      simpa [bit, word, place, leftBound, rightBound] using read
  obtain ⟨leftSize, leftWords, leftPacked⟩ := left
  obtain ⟨rightSize, rightWords, rightPacked⟩ := right
  subst size words
  rfl

end MiniKernel.PageSet
