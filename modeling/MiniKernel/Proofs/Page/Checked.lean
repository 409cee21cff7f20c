import MiniKernel.Page.Set

/-! The operations of a page set as a machine carries them out, where an access to a word may miss the
row and a sum may leave the range of a word. They never do: the checked operations return, and what they
return is what the page set answers. -/

namespace MiniKernel.PageSet

variable {pages : PageSet} {page : Nat}

/-! Single words. -/

def fetch (pages : PageSet) (index : Nat) : Except Trap UInt64 :=
  if bound : index < pages.words.size then .ok pages.words[index]
  else .error (.indexOutOfBounds pages.words.size index)

def store (pages : PageSet) (index : Nat) (word : UInt64) : Except Trap PageSet :=
  if bound : index < pages.words.size then
    .ok { pages with words := pages.words.set index word, packed := by simpa using pages.packed }
  else .error (.indexOutOfBounds pages.words.size index)

theorem fetch_page (bound : page < pages.size) :
    pages.fetch (page / 64) = .ok (pages.wordOf page bound) := dif_pos (pages.word_bound bound)

theorem store_page (bound : page < pages.size) (word : UInt64) :
    pages.store (page / 64) word = .ok (pages.setWord page bound word) := dif_pos (pages.word_bound bound)

/-! Members. -/

def containsChecked (pages : PageSet) (page : Nat) : Except Trap Bool :=
  if pages.size ≤ page then .ok true
  else (pages.fetch (page / 64)).map fun word => word &&& mask page != 0

def insertChecked (pages : PageSet) (page : Nat) : Except Trap (Bool × PageSet) :=
  (pages.containsChecked page).bind fun present =>
    if present then .ok (false, pages)
    else (pages.fetch (page / 64)).bind fun word =>
      (pages.store (page / 64) (word ||| mask page)).map fun next => (true, next)

def eraseChecked (pages : PageSet) (page : Nat) : Except Trap (Bool × PageSet) :=
  if pages.size ≤ page then .ok (false, pages)
  else (pages.containsChecked page).bind fun present =>
    if !present then .ok (false, pages)
    else (pages.fetch (page / 64)).bind fun word =>
      (pages.store (page / 64) (word &&& ~~~mask page)).map fun next => (true, next)

theorem containsChecked_eq (pages : PageSet) (page : Nat) :
    pages.containsChecked page = .ok (pages.contains page) := by
  unfold containsChecked contains
  by_cases bound : page < pages.size
  · rw [if_neg (by omega), dif_pos bound, fetch_page bound]
    rfl
  · rw [if_pos (by omega), dif_neg bound]

theorem insertChecked_eq (pages : PageSet) (page : Nat) :
    pages.insertChecked page = .ok (pages.insert page) := by
  rw [insertChecked, containsChecked_eq, Except.bind]
  unfold insert
  by_cases bound : page < pages.size
  · rw [dif_pos bound, fetch_page bound, Except.bind, store_page bound]
    split <;> rfl
  · rw [dif_neg bound, contains, dif_neg bound]
    rfl

theorem eraseChecked_eq (pages : PageSet) (page : Nat) :
    pages.eraseChecked page = .ok (pages.erase page) := by
  unfold eraseChecked erase
  by_cases bound : page < pages.size
  · rw [if_neg (by omega), dif_pos bound, containsChecked_eq, Except.bind, fetch_page bound, Except.bind,
      store_page bound]
    cases pages.contains page <;> rfl
  · rw [if_pos (by omega), dif_neg bound]

/-! The search. -/

def scanChecked (pages : PageSet) (stop page : Nat) : Except Trap (Option Nat) :=
  if page < stop then
    (pages.fetch (page / 64)).bind fun word =>
      if word = fullWord ∧ page % 64 = 0 then
        match _ : Word.add page 64 with
        | .ok next => pages.scanChecked stop next
        | .error trap => .error trap
      else if word &&& mask page = 0 then .ok (some page)
      else
        match _ : Word.add page 1 with
        | .ok next => pages.scanChecked stop next
        | .error trap => .error trap
  else .ok none
  termination_by stop - page
  decreasing_by all_goals have := Word.eq_add_of_ok ‹_›; omega

theorem scanChecked_eq (countable : pages.size + 63 ≤ Word.max) {stop : Nat} (stop_le : stop ≤ pages.size)
    (page : Nat) : pages.scanChecked stop page = .ok (pages.scan stop stop_le page) := by
  fun_induction scan pages stop stop_le page with
  | case1 page below word full ih =>
      have sum : Word.add page 64 = .ok (page + 64) := Word.add_ok (by omega)
      rw [scanChecked, if_pos below, fetch_page (by omega), Except.bind, if_pos full, sum]
      exact ih
  | case2 page below word mixed free =>
      rw [scanChecked, if_pos below, fetch_page (by omega), Except.bind, if_neg mixed, if_pos free]
  | case3 page below word mixed occupied ih =>
      have sum : Word.add page 1 = .ok (page + 1) := Word.add_ok (by omega)
      rw [scanChecked, if_pos below, fetch_page (by omega), Except.bind, if_neg mixed, if_neg occupied, sum]
      exact ih
  | case4 page past => rw [scanChecked, if_neg past]

def firstFreeChecked (pages : PageSet) (start stop : Nat) : Except Trap (Option Nat) :=
  pages.scanChecked (min stop pages.size) start

theorem firstFreeChecked_eq (countable : pages.size + 63 ≤ Word.max) (start stop : Nat) :
    pages.firstFreeChecked start stop = .ok (pages.firstFree start stop) :=
  scanChecked_eq countable (Nat.min_le_right ..) start

end MiniKernel.PageSet
