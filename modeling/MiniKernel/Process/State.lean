import MiniKernel.Text.Pad

/-!
The life of a process: it waits in the ready queue, runs, sleeps, has exited, or is gone.
-/

namespace MiniKernel

abbrev Pid := Nat

def idlePid : Pid := 0

inductive ProcessState
  | ready
  | running
  | sleeping
  | zombie
  | dead
  deriving DecidableEq, Repr

namespace ProcessState

def word : ProcessState → String
  | .ready => "ready"
  | .running => "running"
  | .sleeping => "sleeping"
  | .zombie => "zombie"
  | .dead => "dead"

def ofWord? : String → Option ProcessState
  | "ready" => some .ready
  | "running" => some .running
  | "sleeping" => some .sleeping
  | "zombie" => some .zombie
  | "dead" => some .dead
  | _ => none

/-- The state's name with a capital, as fatal messages write it. -/
def title : ProcessState → String
  | .ready => "Ready"
  | .running => "Running"
  | .sleeping => "Sleeping"
  | .zombie => "Zombie"
  | .dead => "Dead"

end ProcessState

end MiniKernel
