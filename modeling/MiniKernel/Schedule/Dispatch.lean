import MiniKernel.Schedule.Scheduler

/-!
A dispatch in three steps: the process that ran makes way, the sleepers whose time has come join
the queue behind it, and the head of the queue runs.
-/

namespace MiniKernel.Scheduler

def enqueue (scheduler : Scheduler) (slot : Nat) : Outcome Scheduler Unit :=
  let (queued, ready) := scheduler.ready.push slot
  if queued then .done { scheduler with ready } () else .fatal scheduler (.enqueuedTwice slot)

/-- Stores the registers of the process that ran and takes it off the processor. A process that
was still running queues up again; one that has exited keeps what it had. -/
def makeWay (scheduler : Scheduler) (saved : Registers) : Outcome Scheduler Unit :=
  match scheduler.current with
  | none => .done scheduler ()
  | some slot =>
      let vacant := { scheduler with current := none }
      match scheduler.table.get? slot with
      | none => .fatal vacant (.currentSlotEmpty slot)
      | some process =>
          match process.state with
          | .running =>
              let stopped := { process with context := saved, state := .ready }
              { vacant with table := vacant.table.put slot stopped }.enqueue slot
          | .sleeping =>
              .done { vacant with table := vacant.table.put slot { process with context := saved } } ()
          | .zombie => .done vacant ()
          | state => .fatal vacant (.outgoingState process.pid state)

def wakesNoLater (left right : Nat × Nat) : Bool :=
  left.1 < right.1 || (left.1 == right.1 && left.2 ≤ right.2)

def insertSleeper (sleeper : Nat × Nat) : List (Nat × Nat) → List (Nat × Nat)
  | [] => [sleeper]
  | first :: rest =>
      if wakesNoLater sleeper first then sleeper :: first :: rest
      else first :: insertSleeper sleeper rest

def due (scheduler : Scheduler) (now : Nat) : List (Nat × Nat) :=
  scheduler.table.processes.filterMap fun (slot, process) =>
    if process.state = .sleeping ∧ process.wakeTick ≤ now then some (process.wakeTick, slot) else none

def elapsed (scheduler : Scheduler) (now : Nat) : List Nat :=
  ((scheduler.due now).foldr insertSleeper []).map Prod.snd

def wake (scheduler : Scheduler) : List Nat → Outcome Scheduler Unit
  | [] => .done scheduler ()
  | slot :: slots =>
      let table := scheduler.table.modify slot fun process => { process with state := .ready }
      ({ scheduler with table }.enqueue slot).andThen fun _ scheduler => scheduler.wake slots

def wakeSleepers (scheduler : Scheduler) (now : Nat) : Outcome Scheduler Unit :=
  scheduler.wake (scheduler.elapsed now)

/-- Counts a switch unless the process that ran before runs on. -/
def switchesAfter (scheduler : Scheduler) (previous : Option Nat) (next : Nat) : Except Trap Nat :=
  if previous = some next then .ok scheduler.switches else Word.add scheduler.switches 1

def runHead (scheduler : Scheduler) (previous : Option Nat) : Outcome Scheduler Registers :=
  match scheduler.ready.pop with
  | none => .fatal scheduler .nothingRunnable
  | some (slot, ready) =>
      let popped := { scheduler with ready }
      match scheduler.table.get? slot with
      | none => .fatal popped (.headNotReady slot)
      | some process =>
          if process.state = .ready then
            let table := popped.table.put slot { process with state := .running }
            (Outcome.ofMachine { popped with table } (popped.switchesAfter previous slot)).andThen
              fun switches scheduler =>
                .done { scheduler with switches, current := some slot } process.context
          else
            .fatal popped (.headNotReady slot)

def dispatch (scheduler : Scheduler) (saved : Registers) (now : Nat) : Outcome Scheduler Registers :=
  ({ scheduler with lastTick := now }.makeWay saved).andThen fun _ waiting =>
    (waiting.wakeSleepers now).andThen fun _ ready =>
      ready.runHead scheduler.current

end MiniKernel.Scheduler
