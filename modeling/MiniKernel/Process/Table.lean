import MiniKernel.Outcome
import MiniKernel.Process.Basic
import MiniKernel.Process.Snapshot
import MiniKernel.Schedule.Config

/-!
The process table: a fixed number of slots, each empty or with one process, and the pid that the
next process gets.
-/

namespace MiniKernel

structure ProcessTable where
  slots : List (Option ControlBlock)
  nextPid : Pid
  kernelStackPages : Nat
  userStackPages : Nat
  deriving DecidableEq, Repr

namespace ProcessTable

def empty (config : Config) : ProcessTable :=
  { slots := List.replicate config.capacity none
    nextPid := idlePid + 1
    kernelStackPages := config.kernelStackPages
    userStackPages := config.userStackPages }

def entryBytes : Nat := 288

def ofConfig (config : Config) : Except Trap ProcessTable :=
  (Word.buffer config.capacity entryBytes).map fun _ => empty config

def capacity (table : ProcessTable) : Nat := table.slots.length

def get? (table : ProcessTable) (slot : Nat) : Option ControlBlock := table.slots[slot]?.join

def put (table : ProcessTable) (slot : Nat) (process : ControlBlock) : ProcessTable :=
  { table with slots := table.slots.set slot (some process) }

def clear (table : ProcessTable) (slot : Nat) : ProcessTable :=
  { table with slots := table.slots.set slot none }

def freeSlot? (table : ProcessTable) : Option Nat := table.slots.findIdx? Option.isNone

def lookup (table : ProcessTable) (pid : Pid) : Option Nat :=
  table.slots.findIdx? fun entry => entry.any fun process => process.pid == pid

def processes (table : ProcessTable) : List (Nat × ControlBlock) :=
  table.slots.zipIdx.filterMap fun (entry, slot) => entry.map fun process => (slot, process)

def modify (table : ProcessTable) (slot : Nat) (change : ControlBlock → ControlBlock) : ProcessTable :=
  { table with slots := table.slots.modify slot (Option.map change) }

def modifyAll (table : ProcessTable) (change : ControlBlock → ControlBlock) : ProcessTable :=
  { table with slots := table.slots.map (Option.map change) }

/-- The process that a parent link leads to. A link whose slot was emptied or used again leads
nowhere. -/
def resolveParent (table : ProcessTable) (link : Option ParentLink) : Option Pid :=
  link.bind fun link =>
    ((table.get? link.slot).filter fun process => process.pid == link.pid).map ControlBlock.pid

def snapshotOf (table : ProcessTable) (process : ControlBlock) : Snapshot :=
  { pid := process.pid
    name := process.name
    state := process.state
    parent := table.resolveParent process.parent
    wakeTick := if process.state = .sleeping then some process.wakeTick else none
    exitCode := process.exitCode }

def snapshot? (table : ProcessTable) (slot : Nat) : Option Snapshot :=
  (table.get? slot).map table.snapshotOf

/-- Enters the code that is running at boot as the idle process, in slot 0 of an empty table. -/
def registerIdle (table : ProcessTable) : Outcome ProcessTable Nat :=
  if table.slots.all Option.isNone then
    if table.capacity = 0 then .trap table (.indexOutOfBounds 0 0)
    else .done (table.put 0 .idle) 0
  else
    .fatal table .idleIntoPopulatedTable

end ProcessTable

end MiniKernel
