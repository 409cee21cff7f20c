import MiniKernel.Word

/-!
A set of the pages `0 … size - 1`, one bit a page, packed in 64-bit words. A page past the end
reads as a member, so a search for a free page never finds one there.
-/

namespace MiniKernel

structure PageSet where
  size : Nat
  words : Array UInt64
  packed : words.size = (size + 63) / 64
  deriving DecidableEq, Repr

namespace PageSet

def mask (page : Nat) : UInt64 := 1 <<< UInt64.ofNat (page % 64)

def fullWord : UInt64 := 0xFFFFFFFFFFFFFFFF

theorem word_bound (pages : PageSet) {page : Nat} (bound : page < pages.size) :
    page / 64 < pages.words.size := by
  have packed := pages.packed
  omega

def empty (size : Nat) : PageSet :=
  { size, words := Array.replicate ((size + 63) / 64) 0, packed := Array.size_replicate }

/-- An empty set, unless the number of its words cannot be computed in a word. -/
def create (size : Nat) : Except Trap PageSet :=
  (Word.add size 64).bind fun sum => (Word.sub sum 1).map fun _ => empty size

theorem create_ok {size : Nat} (countable : size + 64 ≤ Word.max) : create size = .ok (empty size) := by
  rw [create, Word.add_ok countable, Except.bind, Word.sub_ok (Nat.le_add_left 1 (size + 63))]
  rfl

theorem create_error {size : Nat} (uncountable : ¬ size + 64 ≤ Word.max) :
    create size = .error .addOverflow := by
  rw [create, Word.add, if_neg uncountable, Except.bind]

def wordOf (pages : PageSet) (page : Nat) (bound : page < pages.size) : UInt64 :=
  have := pages.word_bound bound
  pages.words[page / 64]

def contains (pages : PageSet) (page : Nat) : Bool :=
  if bound : page < pages.size then pages.wordOf page bound &&& mask page != 0 else true

def setWord (pages : PageSet) (page : Nat) (bound : page < pages.size) (word : UInt64) : PageSet :=
  { pages with
    words := pages.words.set (page / 64) word (pages.word_bound bound)
    packed := by simpa using pages.packed }

def insert (pages : PageSet) (page : Nat) : Bool × PageSet :=
  if bound : page < pages.size then
    if pages.contains page then (false, pages)
    else (true, pages.setWord page bound (pages.wordOf page bound ||| mask page))
  else
    (false, pages)

def erase (pages : PageSet) (page : Nat) : Bool × PageSet :=
  if bound : page < pages.size then
    if pages.contains page then
      (true, pages.setWord page bound (pages.wordOf page bound &&& ~~~mask page))
    else (false, pages)
  else
    (false, pages)

def insertRun (pages : PageSet) (first : Nat) : (count : Nat) → PageSet
  | 0 => pages
  | count + 1 => insertRun (pages.insert first).2 (first + 1) count

def eraseRun (pages : PageSet) (first : Nat) : (count : Nat) → PageSet
  | 0 => pages
  | count + 1 => eraseRun (pages.erase first).2 (first + 1) count

def popCount (word : UInt64) : Nat := (List.range 64).countP fun bit => word &&& mask bit != 0

def count (pages : PageSet) : Nat :=
  pages.words.toList.foldl (fun total word => total + popCount word) 0

/-- The search for a free page below `stop` passes over a full word in one step. -/
def scan (pages : PageSet) (stop : Nat) (stop_le : stop ≤ pages.size) (page : Nat) : Option Nat :=
  if below : page < stop then
    let word := pages.wordOf page (by omega)
    if word = fullWord ∧ page % 64 = 0 then pages.scan stop stop_le (page + 64)
    else if word &&& mask page = 0 then some page
    else pages.scan stop stop_le (page + 1)
  else
    none
  termination_by stop - page

def firstFree (pages : PageSet) (start stop : Nat) : Option Nat :=
  pages.scan (min stop pages.size) (Nat.min_le_right ..) start

/-- The search for a free run, where the `length` pages before `page` are free. -/
def scanRun (pages : PageSet) (count page length : Nat) : Option Nat :=
  if page < pages.size then
    if pages.contains page then pages.scanRun count (page + 1) 0
    else if length + 1 = count then some (page - length)
    else pages.scanRun count (page + 1) (length + 1)
  else
    none
  termination_by pages.size - page

def firstFreeRun (pages : PageSet) (count : Nat) : Option Nat :=
  if count = 0 ∨ pages.size < count then none else pages.scanRun count 0 0

end PageSet

end MiniKernel
