import MiniKernel.Process.State

/-!
What tools see of a process, and the line that lists it.
-/

namespace MiniKernel

structure Snapshot where
  pid : Pid
  name : String
  state : ProcessState
  parent : Option Pid
  wakeTick : Option Nat
  exitCode : Option Int
  deriving DecidableEq, Repr

namespace Snapshot

/-- Pid, state in a column of eight, parent and name, with tabs between them. A process without a
parent is listed under the idle process. -/
def lineChars (info : Snapshot) : List Char :=
  (toString info.pid).toList ++ '\t' ::
    (Text.padChars .left 8 info.state.word.toList ++ '\t' ::
      ((toString (info.parent.getD idlePid)).toList ++ '\t' :: info.name.toList))

def line (info : Snapshot) : String := String.ofList info.lineChars

end Snapshot

end MiniKernel
