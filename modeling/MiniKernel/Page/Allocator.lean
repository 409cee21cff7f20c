import MiniKernel.Address
import MiniKernel.Outcome
import MiniKernel.Page.Set

/-!
The allocator of physical page frames. Single pages are handed out next-fit: a search begins after
the page handed out last and wraps around once. Runs take the lowest place where they fit. A free
that breaks its contract is refused before anything changes.
-/

namespace MiniKernel

structure PageAllocator where
  /-- The allocated pages; their size is the number of pages there are. -/
  pages : PageSet
  used : Nat
  /-- Where the next search for a single page begins. -/
  cursor : Nat
  started : Bool
  deriving DecidableEq, Repr

namespace PageAllocator

def unstarted : PageAllocator := { pages := PageSet.empty 0, used := 0, cursor := 0, started := false }

def total (memory : PageAllocator) : Nat := memory.pages.size

def totalBytes (memory : PageAllocator) : Nat := memory.total * pageSize

def usedBytes (memory : PageAllocator) : Nat := memory.used * pageSize

def freeBytes (memory : PageAllocator) : Nat := (memory.total - memory.used) * pageSize

def isAllocated (memory : PageAllocator) (addr : PhysAddr) : Bool := memory.pages.contains addr.page

/-- Takes charge of `bytes` bytes of memory. The pages below `reservedEnd`, the last one rounded
up, stay allocated for good. -/
def start (memory : PageAllocator) (bytes : Nat) (reservedEnd : PhysAddr) :
    Outcome PageAllocator Unit :=
  let total := bytes / pageSize
  let reserved := (reservedEnd.toNat + pageSize - 1) / pageSize
  if memory.started then .fatal memory .allocatorStartedTwice
  else if total ≤ reserved then .fatal memory (.memoryTooSmall total reserved)
  else match PageSet.create total with
    | .error cause => .trap memory cause
    | .ok pages =>
        .after (.allocatorStarted total reserved) <| .done
          { pages := pages.insertRun 0 reserved, used := reserved, cursor := reserved, started := true }
          ()

def nextFree (memory : PageAllocator) : Option Nat :=
  (memory.pages.firstFree memory.cursor memory.total).or (memory.pages.firstFree 0 memory.cursor)

def alloc (memory : PageAllocator) : Outcome PageAllocator (Option PhysAddr) :=
  if memory.started then
    match memory.nextFree with
    | none => .after (.outOfPages memory.used) (.done memory none)
    | some page =>
        let taken := { memory with pages := (memory.pages.insert page).2 }
        (Outcome.ofMachine taken (Word.add memory.used 1)).andThen fun used memory =>
          let moved := { memory with used, cursor := page + 1 }
          (Outcome.ofMachine moved (PhysAddr.ofPage page)).map some
  else
    .fatal memory .allocatorNotStarted

/-- Allocates `count` adjacent pages, all or none, and leaves the cursor alone. -/
def allocRun (memory : PageAllocator) (count : Nat) : Outcome PageAllocator (Option PhysAddr) :=
  if memory.started then
    match memory.pages.firstFreeRun count with
    | none => .after (.noFreeRun count) (.done memory none)
    | some first =>
        let taken := { memory with pages := memory.pages.insertRun first count }
        (Outcome.ofMachine taken (Word.add memory.used count)).andThen fun used memory =>
          (Outcome.ofMachine { memory with used } (PhysAddr.ofPage first)).map some
  else
    .fatal memory .allocatorNotStarted

def pageToFree (memory : PageAllocator) (addr : PhysAddr) : Except Violation Nat :=
  if !memory.started then .error .allocatorNotStarted
  else if !addr.isAligned then .error (.unalignedFree addr.toNat)
  else if memory.total ≤ addr.page then .error (.freeOutsideMemory addr.toNat)
  else .ok addr.page

def release (memory : PageAllocator) (first count : Nat) : Outcome PageAllocator Unit :=
  let erased := { memory with pages := memory.pages.eraseRun first count }
  (Outcome.ofMachine erased (Word.sub memory.used count)).andThen fun used memory =>
    .done { memory with used } ()

def free (memory : PageAllocator) (addr : PhysAddr) : Outcome PageAllocator Unit :=
  match memory.pageToFree addr with
  | .error violation => .fatal memory violation
  | .ok page =>
      if memory.pages.contains page then memory.release page 1
      else .fatal memory (.doubleFree addr.toNat)

/-- Frees `count` adjacent pages. All of them are checked before any is freed. -/
def freeRun (memory : PageAllocator) (base : PhysAddr) (count : Nat) : Outcome PageAllocator Unit :=
  match memory.pageToFree base with
  | .error violation => .fatal memory violation
  | .ok first =>
      if memory.total - first < count then .fatal memory (.runLeavesMemory count base.toNat)
      else match memory.pages.firstFree first (first + count) with
        | none => memory.release first count
        | some page =>
            (Outcome.ofMachine memory (PhysAddr.ofPage page)).andThen fun addr memory =>
              .fatal memory (.doubleFree addr.toNat)

end PageAllocator

end MiniKernel
