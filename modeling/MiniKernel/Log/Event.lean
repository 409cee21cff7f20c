import MiniKernel.Address
import MiniKernel.Log.Record
import MiniKernel.Process.State

/-!
What the kernel has to say about its own work, and the record that each event is logged as.
-/

namespace MiniKernel

inductive Event
  | allocatorStarted (total reserved : Nat)
  | outOfPages (used : Nat)
  | noFreeRun (count : Nat)
  | tableFull (capacity : Nat)
  | schedulerStarted (capacity quantum rate : Nat)
  | processCreated (name : String) (pid : Pid)
  | processSleeping (pid : Pid) (wake : Nat)
  | processExited (pid : Pid) (code : Int)
  | processReaped (pid : Pid) (code : Option Int)
  | tornDown
  | written (record : Record)
  deriving DecidableEq, Repr

namespace Event

def exitCodeText : Option Int → String
  | some code => s!"Some({code})"
  | none => "None"

def record : Event → Record
  | .allocatorStarted total reserved =>
      let size := total * pageSize / 1024
      ⟨.info, "pmm", s!"physical memory manager initialized: {size} KiB in {total} pages, {reserved} reserved"⟩
  | .outOfPages used => ⟨.warn, "pmm", s!"out of physical memory ({used} pages in use)"⟩
  | .noFreeRun count => ⟨.warn, "pmm", s!"no run of {count} free pages"⟩
  | .tableFull capacity => ⟨.warn, "sched", s!"process table full ({capacity} slots)"⟩
  | .schedulerStarted capacity quantum rate =>
      ⟨.info, "sched", s!"process manager and scheduler initialized: {capacity} slots, {quantum} ms quantum ({rate} Hz)"⟩
  | .processCreated name pid => ⟨.info, "sched", s!"created process '{name}' with pid {pid}"⟩
  | .processSleeping pid wake => ⟨.debug, "sched", s!"pid {pid} sleeping until tick {wake}"⟩
  | .processExited pid code => ⟨.info, "sched", s!"pid {pid} exited with code {code}"⟩
  | .processReaped pid code =>
      let shown := exitCodeText code
      ⟨.debug, "sched", s!"reaped pid {pid} (exit code {shown})"⟩
  | .tornDown => ⟨.info, "core", "kernel core torn down."⟩
  | .written record => record

end Event

end MiniKernel
